/-
  ErgoCubBehavior.Properties.Integrity

  No tick goes wrong on the inside, over every run of the tree.

  * `tick_sound` — a tick reads nothing that has not been written, and throws only
    the alarms of the two detectors;
  * `no_stale_running` — the tree runs while `GoGrasp` runs, and a running `GoGrasp`
    is ticked or halted in every tick.
-/

import ErgoCubBehavior.Properties.Perception

namespace ErgoCubBehavior

open BehaviorTree Binary64 Transition

variable {h : List TickRecord} {s : State} {env : Env} {a : Activity} {m : Memory}
  {hasBox : String} {t : TickRecord}

-- ============================================================================
-- Reads
-- ============================================================================

/-- The event does not read an entry that nobody has written, or a position
    without three components. -/
def Event.defined : Event → Bool
  | .getInput _ _ value => value.isSome
  | .getInputVector _ _ value => value.map List.length = some 3
  | .checkString _ value _ => value.isSome
  | _ => true

section Defined

variable {poi : Poi}

theorem defined_selectionEvents :
    ∀ e ∈ selectionEvents env (some hasBox), e.defined = true := by
  have hface : ∀ e ∈ faceSelectionEvents env, e.defined = true := by
    unfold faceSelectionEvents
    cases sighting env.getFacePosition <;> simp [Event.defined]
  unfold selectionEvents
  refine List.forall_mem_cons.mpr ⟨rfl, ?_⟩
  split_ifs
  · refine List.forall_mem_cons.mpr ⟨rfl, ?_⟩
    cases sighting env.getCenter with
    | absent => exact hface
    | seen p => simp [Event.defined]
    | short => simp
    | dead => simp
  · exact hface

/-- The position that the gaze node reads is the one a detector has published. -/
theorem defined_gazeEvents {b : Option String} (hsel : selectPoi env b = .ok poi)
    (n : RobotLookAtPOI) : ∀ e ∈ gazeEvents env n poi, e.defined = true := by
  have hgain : ∀ e ∈ RobotLookAtPOI.gainEvents env n poi.name, e.defined = true := by
    unfold RobotLookAtPOI.gainEvents
    split_ifs <;> simp [Event.defined]
  have hrest : ∀ e ∈ RobotLookAtPOI.restEvents env n, e.defined = true := by
    unfold RobotLookAtPOI.restEvents
    split_ifs <;> simp [Event.defined]
  unfold gazeEvents
  refine List.forall_mem_cons.mpr ⟨rfl, List.forall_mem_append.mpr ⟨hgain, ?_⟩⟩
  cases hp : poi.position? with
  | none => exact hrest
  | some p =>
      have hlength : p.length = 3 := by
        rcases selectPoi_position hsel hp with ⟨-, hs⟩ | ⟨-, hs⟩ <;>
          exact (position_eq_take (position_of_sighting hs)).2
      simp [Event.defined, hlength]

theorem defined_perceptionEvents (hsel : selectPoi env (some hasBox) = .ok poi) :
    ∀ e ∈ perceptionEvents env m poi hasBox, e.defined = true := by
  have hemotion : ∀ e ∈ m.robotChangeFace.emotionEvents env poi.name hasBox,
      e.defined = true := by
    unfold RobotChangeFace.emotionEvents
    split <;> simp [Event.defined]
  unfold perceptionEvents
  simp only [List.forall_mem_cons, List.forall_mem_append]
  exact ⟨rfl, defined_selectionEvents, defined_gazeEvents hsel _, rfl, rfl, hemotion⟩

theorem defined_gateEvents (x : String) : ∀ e ∈ gateEvents env x, e.defined = true := by
  unfold gateEvents
  split_ifs <;> simp [Event.defined]

theorem defined_haltEvents (k : Nat) : ∀ e ∈ a.haltEvents env k, e.defined = true := by
  intro e he
  rcases mem_haltEvents he with rfl | rfl <;> rfl

theorem defined_openEvents (hsel : selectPoi env (some hasBox) = .ok poi) :
    ∀ e ∈ openEvents env m poi hasBox, e.defined = true := by
  unfold openEvents
  simp only [List.forall_mem_append]
  exact ⟨defined_perceptionEvents hsel, defined_gateEvents _, by simp [Event.defined]⟩

theorem defined_closedEvents (hsel : selectPoi env (some hasBox) = .ok poi) :
    ∀ e ∈ closedEvents env a m poi hasBox ++ inputEvents env hasBox, e.defined = true := by
  unfold closedEvents
  simp only [List.forall_mem_append]
  exact ⟨⟨defined_perceptionEvents hsel, defined_gateEvents _, defined_haltEvents 0,
    by simp [listenEvents, Event.defined]⟩,
    by simp [inputEvents, DoResponseAction.inputEvents, Event.defined]⟩

theorem defined_respondEvents (n : DoResponseAction) (human : List Double) :
    ∀ e ∈ respondEvents env a n hasBox human, e.defined = true := by
  unfold respondEvents DoResponseAction.comeEvents DoResponseAction.confirmEvents
    DoResponseAction.sendEvents
  split_ifs <;> cases n.command env.getAction env.focus hasBox <;> simp [Event.defined]

end Defined

/-- Whatever a tick reads has been written. -/
theorem TickCase.defined (hcase : TickCase env a m hasBox t) :
    ∀ e ∈ t.trace, e.defined = true := by
  cases hcase with
  | navigating => exact List.forall_mem_cons.mpr ⟨rfl, defined_haltEvents 0⟩
  | blind => exact List.forall_mem_cons.mpr ⟨rfl, defined_selectionEvents⟩
  | start _ hsel =>
      exact List.forall_mem_append.mpr ⟨defined_openEvents hsel, by simp [Event.defined]⟩
  | grasp _ hsel =>
      exact List.forall_mem_append.mpr ⟨defined_openEvents hsel, by simp [Event.defined]⟩
  | wait _ hsel =>
      exact List.forall_mem_append.mpr ⟨defined_openEvents hsel, by simp [Event.defined]⟩
  | unfinished _ hsel =>
      rw [← List.append_assoc]
      exact List.forall_mem_append.mpr ⟨defined_closedEvents hsel, by simp [Event.defined]⟩
  | respond _ hsel =>
      rw [← List.append_assoc]
      refine List.forall_mem_append.mpr ⟨defined_closedEvents hsel, ?_⟩
      exact List.forall_mem_cons.mpr ⟨rfl, defined_respondEvents _ _⟩
  | comeShort _ hsel =>
      rw [← List.append_assoc]
      exact List.forall_mem_append.mpr ⟨defined_closedEvents hsel, by simp [Event.defined]⟩

-- ============================================================================
-- Throws
-- ============================================================================

/-- Positions are answered with three components at least. -/
structure Env.Positions (env : Env) : Prop where
  getCenter : 3 ≤ env.getCenter.length
  getFacePosition : 3 ≤ env.getFacePosition.length
  getHumanPosition : 3 ≤ env.getHumanPosition.length

/-- The box detector is asked with `RobotNavigating` behind it, and answers
    `(0,0,0)`. -/
def TickRecord.BoxAlarm (t : TickRecord) : Prop :=
  t.env.navigating = false ∧ t.before.memory.blackboard.theHasBox = some "no" ∧
    areAllElementsZero (t.env.getCenter.take 3) = true

/-- The face detector is asked, with the box in the hands or in sight nowhere, and
    answers `(0,0,0)`. -/
def TickRecord.FaceAlarm (t : TickRecord) : Prop :=
  t.env.navigating = false ∧
    (t.before.memory.blackboard.theHasBox = some "yes" ∨
      areAllElementsMinusOne (t.env.getCenter.take 3) = true) ∧
    areAllElementsZero (t.env.getFacePosition.take 3) = true

section Sentinels

variable {v : List Double}

theorem position_of_length (hv : 3 ≤ v.length) : position v = some (v.take 3) := by
  match v, hv with
  | x :: y :: z :: _, _ => rfl

theorem sighting_ne_short (hv : 3 ≤ v.length) : sighting v ≠ .short := by
  unfold sighting
  rw [position_of_length hv]
  dsimp only
  split_ifs <;> simp

theorem sighting_dead_iff (hv : 3 ≤ v.length) :
    sighting v = .dead ↔ areAllElementsZero (v.take 3) = true := by
  unfold sighting
  rw [position_of_length hv]
  dsimp only
  split_ifs with hzero hminus
  · simp [hzero]
  · simp [hzero]
  · simp [hzero]

/-- The two sentinels differ. -/
theorem not_zero_of_minusOne (hv : 3 ≤ v.length)
    (hminus : areAllElementsMinusOne (v.take 3) = true) :
    areAllElementsZero (v.take 3) = false := by
  match v, hv with
  | x :: y :: z :: _, _ =>
      have hx : x.eq Double.minusOne = true := by
        simp only [areAllElementsMinusOne, List.take_succ_cons, List.all_cons,
          Bool.and_eq_true] at hminus
        exact hminus.1
      rw [Double.eq_of_not_isZero (by decide) hx]
      rfl

theorem sighting_absent_iff (hv : 3 ≤ v.length) :
    sighting v = .absent ↔ areAllElementsMinusOne (v.take 3) = true := by
  refine ⟨absent_minusOne, fun hminus => ?_⟩
  have hzero := not_zero_of_minusOne hv hminus
  unfold sighting
  rw [position_of_length hv]
  simp [hzero, hminus]

end Sentinels

theorem selectFace_error_iff (hpos : env.Positions) {e : Exception} :
    selectFace env = .error e ↔
      e = .runtimeError FaceDetected.what ∧ areAllElementsZero (env.getFacePosition.take 3) = true := by
  rw [← sighting_dead_iff hpos.getFacePosition]
  unfold selectFace
  cases hs : sighting env.getFacePosition with
  | short => exact absurd hs (sighting_ne_short hpos.getFacePosition)
  | dead => simp [eq_comm]
  | absent => simp
  | seen p => simp

/-- A selection fails in two ways. -/
theorem selectPoi_error_iff (hpos : env.Positions) {e : Exception} :
    selectPoi env (some hasBox) = .error e ↔
      (e = .runtimeError BoxDetected.what ∧ hasBox = "no" ∧
        areAllElementsZero (env.getCenter.take 3) = true) ∨
      (e = .runtimeError FaceDetected.what ∧
        (hasBox ≠ "no" ∨ areAllElementsMinusOne (env.getCenter.take 3) = true) ∧
        areAllElementsZero (env.getFacePosition.take 3) = true) := by
  rw [← sighting_dead_iff hpos.getCenter, ← sighting_absent_iff hpos.getCenter]
  unfold selectPoi
  by_cases hno : hasBox = "no"
  · rw [if_pos (by rw [hno])]
    cases hs : sighting env.getCenter with
    | short => exact absurd hs (sighting_ne_short hpos.getCenter)
    | dead =>
        dsimp only
        rw [Except.error.injEq, eq_comm]
        simp [hno]
    | absent => simp [hno, selectFace_error_iff hpos]
    | seen p => simp [hno]
  · rw [if_neg (by simpa using hno), selectFace_error_iff hpos]
    simp [hno]

/-- What a tick throws a detector has thrown. -/
theorem TickCase.throws_iff (hcase : TickCase env a m hasBox t) (hpos : env.Positions)
    {e : Exception} :
    t.result = .error e ↔ env.navigating = false ∧ selectPoi env (some hasBox) = .error e := by
  cases hcase with
  | navigating hnav => simp [hnav]
  | blind hnav hsel => simp [hnav, hsel]
  | start _ hsel => simp [hsel]
  | grasp _ hsel => simp [hsel]
  | wait _ hsel => simp [hsel]
  | unfinished _ hsel => simp [hsel]
  | respond _ hsel => simp [hsel]
  | comeShort _ _ _ _ _ hhuman =>
      rw [position_of_length hpos.getHumanPosition] at hhuman
      cases hhuman

/-- What a tick reads and what it throws.  `GoGrasp` throws when it reads a `ready`
    that has not been assigned, and a node when it misses an input or indexes past
    the end of a position. -/
structure SoundTick (t : TickRecord) : Prop where
  inputs : ∀ reader entry v, .getInput reader entry v ∈ t.trace → v ≠ none
  positions : ∀ reader entry v, .getInputVector reader entry v ∈ t.trace →
    ∃ p, v = some p ∧ p.length = 3
  checks : ∀ entry v expected, .checkString entry v expected ∈ t.trace → v ≠ none
  boxAlarm : t.result = .error (.runtimeError BoxDetected.what) ↔ t.BoxAlarm
  faceAlarm : t.result = .error (.runtimeError FaceDetected.what) ↔ t.FaceAlarm
  noOther : ∀ e, t.result = .error e →
    e = .runtimeError BoxDetected.what ∨ e = .runtimeError FaceDetected.what

/-- Nothing is read before it is written, and nothing is thrown but the alarms of
    the two detectors. -/
theorem tick_sound (hrun : Run h s) (env : Env) (hpos : env.Positions) :
    SoundTick (tickRoot env s) := by
  obtain ⟨p, -, hphase⟩ := hrun.protocol
  have hcase := hphase.cases env
  have hthrows : ∀ e, (tickRoot env s).result = .error e ↔ _ := fun e =>
    (hcase.throws_iff hpos).trans (and_congr_right fun _ => selectPoi_error_iff hpos)
  have hwhat : BoxDetected.what ≠ FaceDetected.what := by decide
  have hyes : p.hasBox = "yes" ↔ p.hasBox ≠ "no" := by
    cases p <;> decide
  refine ⟨?_, ?_, ?_, ?_, ?_, ?_⟩
  · rintro reader entry v hread rfl
    exact Bool.noConfusion (hcase.defined _ hread)
  · intro reader entry v hread
    have hlength := hcase.defined _ hread
    cases v with
    | none => simp [Event.defined] at hlength
    | some p => exact ⟨p, rfl, by simpa [Event.defined] using hlength⟩
  · rintro entry v expected hread rfl
    exact Bool.noConfusion (hcase.defined _ hread)
  · rw [hthrows, TickRecord.BoxAlarm, hphase.before_theHasBox, tickRoot_env]
    simp [hwhat]
  · rw [hthrows, TickRecord.FaceAlarm, hphase.before_theHasBox, tickRoot_env]
    simp [hwhat.symm, hyes]
  · intro e he
    rcases ((hthrows e).mp he).2 with ⟨hbox, -⟩ | ⟨hface, -⟩
    · exact Or.inl hbox
    · exact Or.inr hface

/-- A box detector that dies under an approach raises its alarm. -/
theorem tick_sound_alarm :
    (tickRoot Env.alone.blind (reached [Env.alone.object])).result =
        .error (.runtimeError BoxDetected.what) ∧
      SoundTick (tickRoot Env.alone.blind (reached [Env.alone.object])) :=
  ⟨by decide +kernel, tick_sound (run_history [Env.alone.object]) Env.alone.blind
    ⟨by decide, by decide, by decide⟩⟩

-- ============================================================================
-- A running action
-- ============================================================================

def Event.isCheck : Event → Bool
  | .checkString .. => true
  | _ => false

/-- The checks of a trace, in order. -/
def checks (l : List Event) : List Event :=
  l.filter Event.isCheck

section Checks

variable {poi : Poi} {l l₁ l₂ : List Event}

@[simp] theorem checks_append : checks (l₁ ++ l₂) = checks l₁ ++ checks l₂ := by
  simp [checks]

/-- What a node does is no check. -/
theorem checks_owned {n : Node} (hl : ∀ e ∈ l, e.node = some n) : checks l = [] := by
  refine List.filter_eq_nil_iff.mpr fun e he hcheck => ?_
  have hnode : e.node = some n := hl e he
  cases e with
  | checkString => cases hnode
  | _ => cases hcheck

theorem checks_selectionEvents (b : Option String) :
    checks (selectionEvents env b) = [.checkString .theHasBox b "no"] := by
  have hface : checks (faceSelectionEvents env) = [] := by
    unfold faceSelectionEvents
    cases sighting env.getFacePosition <;> rfl
  unfold selectionEvents
  split_ifs
  · cases sighting env.getCenter with
    | absent => exact congrArg _ hface
    | _ => rfl
  · exact congrArg _ hface

theorem checks_gateEvents (x : String) :
    checks (gateEvents env x) = [.checkString .thePoi (some x) "object"] := by
  unfold gateEvents
  split_ifs <;> rfl

theorem checks_perceptionEvents :
    checks (perceptionEvents env m poi hasBox) =
      [.checkString .theHasBox (some hasBox) "no"] := by
  have hgaze : checks (gazeEvents env m.robotLookAtPOI poi) = [] := checks_owned node_gazeEvents
  have hface : checks (.getInput .robotChangeFace .thePoi (some poi.name) ::
      .getInput .robotChangeFace .theHasBox (some hasBox) ::
      m.robotChangeFace.emotionEvents env poi.name hasBox) = [] :=
    checks_owned (List.forall_mem_cons.mpr
      ⟨rfl, List.forall_mem_cons.mpr ⟨rfl, node_emotionEvents⟩⟩)
  have hselection : checks (selectionEvents env (some hasBox)) = _ := checks_selectionEvents _
  show checks (selectionEvents env (some hasBox) ++ _) = _
  rw [checks_append, checks_append, hselection, hgaze, hface]
  rfl

/-- With an open gate all three checks are made, -/
theorem checks_openEvents (hl : checks l = []) :
    checks (openEvents env m poi hasBox ++ l) =
      [.checkString .theHasBox (some hasBox) "no", .checkString .thePoi (some poi.name) "object",
        .checkString .theHasBox (some "no") "no"] := by
  rw [openEvents, checks_append, checks_append, checks_append, checks_perceptionEvents,
    checks_gateEvents, hl]
  rfl

/-- with a closed one the first two. -/
theorem checks_closedEvents (hl : checks l = []) :
    checks (closedEvents env a m poi hasBox ++ (inputEvents env hasBox ++ l)) =
      [.checkString .theHasBox (some hasBox) "no",
        .checkString .thePoi (some poi.name) "object"] := by
  have hhalt : checks (a.haltEvents env 0) = [] := checks_owned node_haltEvents
  have hlisten : checks (listenEvents env) = [] := rfl
  have hinput : checks (inputEvents env hasBox) = [] := rfl
  simp only [closedEvents, checks_append, checks_perceptionEvents, checks_gateEvents, hhalt,
    hlisten, hinput, hl]
  rfl

end Checks

/-- The checks of a tick: none, that of the box detector, that of the gate too, or
    that around `GoGrasp` as well. -/
theorem TickCase.checks_cases (hcase : TickCase env a m hasBox t) :
    checks t.trace = [] ∨
    checks t.trace = [.checkString .theHasBox (some hasBox) "no"] ∨
    (∃ poi, (poi = "object" → hasBox = "no") ∧ checks t.trace =
      [.checkString .theHasBox (some hasBox) "no", .checkString .thePoi (some poi) "object"]) ∨
    (hasBox = "no" ∧ checks t.trace =
      [.checkString .theHasBox (some hasBox) "no", .checkString .thePoi (some "object") "object",
        .checkString .theHasBox (some "no") "no"]) := by
  have hobject : ∀ {poi : Poi}, selectPoi env (some hasBox) = .ok poi →
      poi.name = "object" → hasBox = "no" := by
    intro poi hsel hname
    cases poi with
    | none => simp [Poi.name] at hname
    | face p => simp [Poi.name] at hname
    | object p => exact hasBox_of_object hsel
  cases hcase with
  | navigating =>
      have hhalt : checks (a.haltEvents env 0) = [] := checks_owned node_haltEvents
      exact Or.inl hhalt
  | blind => exact Or.inr (Or.inl (checks_selectionEvents _))
  | start _ hsel =>
      exact Or.inr (Or.inr (Or.inr ⟨hasBox_of_object hsel, checks_openEvents rfl⟩))
  | grasp _ hsel =>
      exact Or.inr (Or.inr (Or.inr ⟨hasBox_of_object hsel, checks_openEvents rfl⟩))
  | wait _ hsel =>
      exact Or.inr (Or.inr (Or.inr ⟨hasBox_of_object hsel, checks_openEvents rfl⟩))
  | unfinished _ hsel =>
      exact Or.inr (Or.inr (Or.inl ⟨_, hobject hsel, checks_closedEvents rfl⟩))
  | respond _ hsel =>
      refine Or.inr (Or.inr (Or.inl ⟨_, hobject hsel, checks_closedEvents ?_⟩))
      exact checks_owned (List.forall_mem_cons.mpr ⟨rfl, node_respondEvents⟩)
  | comeShort _ hsel =>
      exact Or.inr (Or.inr (Or.inl ⟨_, hobject hsel, checks_closedEvents rfl⟩))

/-- The check of `the_has_box` that comes after that of `the_poi` succeeds. -/
theorem TickCase.guard_no (hcase : TickCase env a m hasBox t) {l₁ l₂ : List Event}
    {v w : Option String} (htrace : t.trace = l₁ ++ .checkString .theHasBox v "no" :: l₂)
    (hpoi : .checkString .thePoi w "object" ∈ l₁) : v = some "no" := by
  have hmem : .checkString .thePoi w "object" ∈ checks l₁ := List.mem_filter.mpr ⟨hpoi, rfl⟩
  have hcut : checks t.trace = checks l₁ ++ .checkString .theHasBox v "no" :: checks l₂ := by
    rw [htrace, checks_append]
    rfl
  have hchecks := hcase.checks_cases
  rw [hcut] at hchecks
  -- the check of `the_poi` is the second of at most three
  rcases hl₁ : checks l₁ with _ | ⟨c₁, _ | ⟨c₂, k⟩⟩
  · simp [hl₁] at hmem
  · simp only [hl₁, List.mem_singleton] at hmem
    simp [hl₁, ← hmem] at hchecks
  · obtain ⟨-, -, -, hlast⟩ : hasBox = "no" ∧
        c₁ = .checkString .theHasBox (some hasBox) "no" ∧
        c₂ = .checkString .thePoi (some "object") "object" ∧
        k ++ .checkString .theHasBox v "no" :: checks l₂ =
          [.checkString .theHasBox (some "no") "no"] := by
      simpa [hl₁] using hchecks
    have hv : .checkString .theHasBox v "no" ∈
        [Event.checkString .theHasBox (some "no") "no"] := by
      rw [← hlast]
      simp
    simpa using hv

/-- An object is looked for with free hands only. -/
theorem TickCase.free_of_object (hcase : TickCase env a m hasBox t)
    (hobject : .checkString .thePoi (some "object") "object" ∈ t.trace) : hasBox = "no" := by
  have hmem : .checkString .thePoi (some "object") "object" ∈ checks t.trace :=
    List.mem_filter.mpr ⟨hobject, rfl⟩
  rcases hcase.checks_cases with hl | hl | ⟨poi, hno, hl⟩ | ⟨hno, -⟩
  · simp [hl] at hmem
  · simp [hl] at hmem
  · exact hno (by simpa [hl, eq_comm] using hmem)
  · exact hno

/-- A tick that returns either runs on inside `GoGrasp`, or leaves the tree idle. -/
theorem TickCase.settles (hcase : TickCase env a m hasBox t) (hreturns : ∃ r, t.result = .ok r) :
    (t.result = .ok .running ∧ ∃ ready, t.after.tree = (Activity.running ready).tree) ∨
    (t.result ≠ .ok .running ∧ t.after.tree = ergotree) := by
  obtain ⟨r, hr⟩ := hreturns
  cases hcase with
  | navigating => exact Or.inr ⟨by simp, rfl⟩
  | blind => cases hr
  | start => exact Or.inl ⟨rfl, false, rfl⟩
  | grasp => exact Or.inl ⟨rfl, true, rfl⟩
  | wait => exact Or.inl ⟨rfl, false, rfl⟩
  | unfinished => exact Or.inr ⟨by simp, rfl⟩
  | respond => exact Or.inr ⟨by simp only [ne_eq, Except.ok.injEq]; split <;> simp, rfl⟩
  | comeShort => cases hr

/-- A running `GoGrasp` is called back once in a tick that returns. -/
theorem TickCase.called_once (hcase : TickCase env a m hasBox t) {ready : Bool}
    (ha : a = .running ready) (hreturns : ∃ r, t.result = .ok r) :
    t.trace.count .onRunning + t.trace.count .onHalted = 1 := by
  have hcount : ∀ e : Event, e.node = some .goGrasp →
      t.trace.count e = (eventsOf .goGrasp t.trace).count e := by
    intro e he
    exact (List.count_filter (by simpa using he)).symm
  have hhalt : (a.haltEvents env 0).count .onRunning + (a.haltEvents env 0).count .onHalted = 1 := by
    subst ha
    cases ready <;> simp [Activity.haltEvents, GoGrasp.haltEvents]
  rw [hcount _ rfl, hcount _ rfl]
  obtain ⟨r, hr⟩ := hreturns
  cases hcase with
  | navigating => simpa [Event.node] using hhalt
  | blind => cases hr
  | start _ _ _ hidle =>
      rw [hidle] at ha
      cases ha
  | grasp => simp [Event.node]
  | wait => simp [Event.node]
  | unfinished => simpa [Event.node] using hhalt
  | respond => simpa [Event.node] using hhalt
  | comeShort => cases hr

/-- What holds of the statuses and the callbacks of a tick.  The check around `GoGrasp`
    is the one of `the_has_box` that comes after that of `the_poi`. -/
structure NoStaleRunning (t : TickRecord) : Prop where
  /-- the root answers `RUNNING`, and stores it, while `GoGrasp` stores it -/
  result : (∃ r, t.result = .ok r) → (t.result = .ok .running ↔ GoGraspRunning t.after)
  root : (∃ r, t.result = .ok r) → (t.after.tree.status = .running ↔ GoGraspRunning t.after)
  /-- and so does every node between them -/
  ancestors : (∃ r, t.result = .ok r) → GoGraspRunning t.after →
    ∃ sts, t.after.tree.pathTo (.goGrasp .theHasBox) = some sts ∧ ∀ st ∈ sts, st = .running
  called : (∃ r, t.result = .ok r) → GoGraspRunning t.before →
    t.trace.count .onRunning + t.trace.count .onHalted = 1
  guard : ∀ l₁ v l₂ w, t.trace = l₁ ++ .checkString .theHasBox v "no" :: l₂ →
    .checkString .thePoi w "object" ∈ l₁ → v = some "no"
  object : .checkString .thePoi (some "object") "object" ∈ t.trace →
    t.before.memory.blackboard.theHasBox = some "no"

/-- The tree runs while `GoGrasp` runs, a running `GoGrasp` is ticked or halted in every
    tick, and the check around it never fails. -/
theorem no_stale_running (hrun : Run h s) (env : Env) : NoStaleRunning (tickRoot env s) := by
  obtain ⟨p, -, hphase⟩ := hrun.protocol
  have hcase := hphase.cases env
  refine ⟨fun hreturns => ?_, fun hreturns => ?_, fun hreturns hrunning => ?_,
    fun hreturns hrunning => ?_, ?_, ?_⟩
  · rcases hcase.settles hreturns with ⟨hr, ready, htree⟩ | ⟨hr, htree⟩
    · rw [hr, GoGraspRunning, htree]
      exact iff_of_true rfl (by cases ready <;> decide)
    · rw [GoGraspRunning, htree]
      exact iff_of_false hr (by decide)
  · rcases hcase.settles hreturns with ⟨-, ready, htree⟩ | ⟨-, htree⟩
    · rw [GoGraspRunning, htree]
      exact iff_of_true rfl (by cases ready <;> decide)
    · rw [GoGraspRunning, htree]
      decide
  · rcases hcase.settles hreturns with ⟨-, ready, htree⟩ | ⟨-, htree⟩
    · rw [htree]
      exact ⟨_, rfl, by simp⟩
    · rw [GoGraspRunning, htree] at hrunning
      exact absurd hrunning (by decide)
  · rw [tickRoot_before, hphase.goGraspRunning_iff] at hrunning
    rcases hrunning with rfl | rfl
    · exact hcase.called_once rfl hreturns
    · exact hcase.called_once rfl hreturns
  · intro l₁ v l₂ w htrace hpoi
    exact hcase.guard_no htrace hpoi
  · intro hobject
    rw [hphase.before_theHasBox, hcase.free_of_object hobject]

/-- `GoGrasp` still runs in the tick after it has grasped, and is halted in it. -/
theorem no_stale_running_grasped :
    GoGraspRunning (reached [Env.alone.object, Env.alone.object]) ∧
      .onHalted ∈ (tickRoot Env.alone.object (reached [Env.alone.object, Env.alone.object])).trace ∧
      NoStaleRunning
        (tickRoot Env.alone.object (reached [Env.alone.object, Env.alone.object])) :=
  ⟨by decide +kernel, by decide +kernel, no_stale_running (run_history _) _⟩

end ErgoCubBehavior
