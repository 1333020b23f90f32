/-
  ErgoCubBehavior.Properties.Perception

  What a tick makes of the messages and answers it gets, over every run of the
  tree.

  * `quiet_iff` — while the newest navigation status says that the robot is on its
    way, a tick is quiet if and only if a message arrived in that very tick;
  * `poi_fresh` — the point of interest that gaze, face and grasp gate read is a
    function of the answers of the same tick.
-/

import ErgoCubBehavior.Protocol.History

namespace ErgoCubBehavior

open BehaviorTree Binary64 Transition

variable {h : List TickRecord} {s : State} {env : Env} {a : Activity} {m : Memory}
  {hasBox : String} {t : TickRecord}

-- ============================================================================
-- On its way
-- ============================================================================

/-- Every navigation status that has arrived in the ticks of a history. -/
def received (h : List TickRecord) : List Int :=
  h.flatMap fun t => t.env.navigation

/-- The newest status is `ACCEPTED` or `EXECUTING`. -/
def OnItsWay (l : List Int) : Prop :=
  l.getLast? = some 1 ∨ l.getLast? = some 2

/-- A command of gaze, of emotion or of motion. -/
def Event.commands : Event → Bool
  | .lookAt .. => true
  | .setGain .. => true
  | .setEmotion .. => true
  | .performJointSpaceAction .. => true
  | _ => false

/-- The tick `t` after the ticks `h` fails at once and leaves everything as it is,
    but for an approach that it gives up. -/
structure Quiet (h : List TickRecord) (t : TickRecord) : Prop where
  fails : ∃ w, (RobotNavigating.tick t.env).run ⟨t.before.memory, []⟩ = .ok .failure w
  commands : ∀ e ∈ t.trace, e.commands = true →
    underWay (sent h) = true ∧ e.motion? = some .abort
  blackboard : t.after.memory.blackboard = t.before.memory.blackboard
  robotLookAtPOI : t.after.memory.robotLookAtPOI = t.before.memory.robotLookAtPOI
  robotChangeFace : t.after.memory.robotChangeFace = t.before.memory.robotChangeFace
  doResponseAction : t.after.memory.doResponseAction = t.before.memory.doResponseAction

/-- The tick of a robot on its way. -/
theorem TickCase.quiet_inv (hcase : TickCase env a m hasBox t) (hnav : env.navigating = true) :
    t.trace = .readNavigation env.navigation.getLast? :: a.haltEvents env 0 ∧
      t.after.memory = m := by
  cases hcase with
  | navigating => exact ⟨rfl, rfl⟩
  | blind hnav' => simp [hnav] at hnav'
  | start hnav' => simp [hnav] at hnav'
  | grasp hnav' => simp [hnav] at hnav'
  | wait hnav' => simp [hnav] at hnav'
  | unfinished hnav' => simp [hnav] at hnav'
  | respond hnav' => simp [hnav] at hnav'
  | comeShort hnav' => simp [hnav] at hnav'

/-- A tick that reads a status of a robot on its way is quiet. -/
theorem quiet_of_navigating (hrun : Run h s) (hnav : env.navigating = true) :
    Quiet h (tickRoot env s) := by
  obtain ⟨p, hprotocol, hphase⟩ := hrun.protocol
  obtain ⟨htrace, hmemory⟩ := (hphase.cases env).quiet_inv hnav
  refine ⟨?_, ?_, ?_, ?_, ?_, ?_⟩
  · rw [tickRoot_env, tickRoot_before, RobotNavigating.tick_run, if_pos hnav]
    exact ⟨_, rfl⟩
  · intro e he hcommands
    rw [htrace] at he
    rcases List.mem_cons.mp he with rfl | he
    · cases hcommands
    · have hmotion : e.motion? = some .abort := by
        rcases mem_haltEvents he with rfl | rfl
        · cases hcommands
        · rfl
      have habort : .abort ∈ motions (p.activity.haltEvents env 0) :=
        List.mem_filterMap.mpr ⟨e, he, hmotion⟩
      rw [← motions_manipulations, motions_haltEvents] at habort
      refine ⟨?_, hmotion⟩
      rw [← commands_observe, underWay_run hprotocol]
      cases p <;> simp_all [Phase.abort]
  all_goals rw [hmemory, tickRoot_before]

/-- While the newest status says that the robot is on its way, a tick is quiet if
    and only if a message arrived since the last one: `RobotNavigating` keeps no
    status, and takes silence for the end of the way. -/
theorem quiet_iff (hrun : Run h s) (env : Env)
    (hway : OnItsWay (received h ++ env.navigation)) :
    Quiet h (tickRoot env s) ↔ env.navigation ≠ [] := by
  constructor
  · rintro hquiet hnone
    obtain ⟨w, hfails⟩ := hquiet.fails
    rw [tickRoot_env, RobotNavigating.tick_run] at hfails
    simp [Env.navigating, hnone] at hfails
  · intro hsome
    refine quiet_of_navigating hrun ?_
    unfold OnItsWay at hway
    rw [List.getLast?_append_of_ne_nil _ hsome] at hway
    simpa [Env.navigating] using hway

/-- A navigation status arrives. -/
def Env.receiving (env : Env) (status : Int) : Env :=
  { env with navigation := [status] }

/-- An approach is given up when the robot leaves. -/
theorem quiet_leaving :
    motions (tickRoot (Env.alone.object.receiving 2) (reached [Env.alone.object])).trace =
        [.abort] ∧
      Quiet (history [Env.alone.object])
        (tickRoot (Env.alone.object.receiving 2) (reached [Env.alone.object])) :=
  ⟨by decide +kernel, (quiet_iff (run_history [Env.alone.object])
    (Env.alone.object.receiving 2) (Or.inr (by decide +kernel))).mpr (by decide)⟩

/-- The robot is on its way, and no message arrives for a tick: it waves. -/
theorem waves_on_its_way :
    Run (history [Env.alone.receiving 2]) (reached [Env.alone.receiving 2]) ∧
      OnItsWay (received (history [Env.alone.receiving 2]) ++ (Env.alone.human "wave").navigation) ∧
      motions (tickRoot (Env.alone.human "wave") (reached [Env.alone.receiving 2])).trace =
        [.response "wave"] ∧
      ¬ Quiet (history [Env.alone.receiving 2])
        (tickRoot (Env.alone.human "wave") (reached [Env.alone.receiving 2])) := by
  refine ⟨run_history _, Or.inr (by decide +kernel), by decide +kernel, fun hquiet => ?_⟩
  have hwave : .performJointSpaceAction .doResponseAction "wave" true ∈
      (tickRoot (Env.alone.human "wave") (reached [Env.alone.receiving 2])).trace := by
    decide +kernel
  exact absurd (hquiet.commands _ hwave rfl).2 (by decide)

-- ============================================================================
-- The point of interest
-- ============================================================================

/-- The events of a trace that have to do with the point of interest. -/
def Event.perception : Event → Bool
  | .getCenter _ => true
  | .getFacePosition _ => true
  | .lookAt .. => true
  | .getInput _ entry _ => entry = .thePoi
  | .checkString entry _ _ => entry = .thePoi
  | _ => false

def perceptions (l : List Event) : List Event :=
  l.filter Event.perception

section Perceptions

variable {l : List Event} {e : Event}

theorem mem_perceptions (he : e.perception = true) : e ∈ perceptions l ↔ e ∈ l := by
  simp [perceptions, he]

theorem perceptions_own (he : e.perception = true) :
    perceptions (e :: l) = e :: perceptions l :=
  List.filter_cons_of_pos he

theorem perceptions_other (he : e.perception = false) : perceptions (e :: l) = perceptions l :=
  List.filter_cons_of_neg (by simp [he])

variable (l l₁ l₂ : List Event) (poi : Poi)

@[simp] theorem perceptions_append :
    perceptions (l₁ ++ l₂) = perceptions l₁ ++ perceptions l₂ := by
  simp [perceptions]

/-- The detectors are asked in order, until one of them sees something. -/
def queryEvents (env : Env) (hasBox : Option String) : List Event :=
  if hasBox = some "no" then
    .getCenter env.getCenter ::
      match sighting env.getCenter with
      | .absent => [.getFacePosition env.getFacePosition]
      | _ => []
  else [.getFacePosition env.getFacePosition]

/-- Where the robot looks. -/
def lookEvents (env : Env) (n : RobotLookAtPOI) (poi : Poi) : List Event :=
  match poi.position? with
  | none => RobotLookAtPOI.restEvents env n
  | some p => [.lookAt p env.lookAt]

theorem perceptions_faceSelectionEvents :
    perceptions (faceSelectionEvents env) = [.getFacePosition env.getFacePosition] := by
  unfold faceSelectionEvents
  rw [perceptions_own rfl]
  cases sighting env.getFacePosition <;> rfl

theorem perceptions_selectionEvents (b : Option String) :
    perceptions (selectionEvents env b) = queryEvents env b := by
  unfold selectionEvents queryEvents
  rw [perceptions_other rfl]
  split_ifs
  · rw [perceptions_own rfl]
    cases sighting env.getCenter with
    | absent => exact congrArg _ perceptions_faceSelectionEvents
    | _ => rfl
  · exact perceptions_faceSelectionEvents

theorem perceptions_gazeEvents (n : RobotLookAtPOI) :
    perceptions (gazeEvents env n poi) =
      .getInput .robotLookAtPOI .thePoi (some poi.name) :: lookEvents env n poi := by
  have hgain : ∀ x, perceptions (RobotLookAtPOI.gainEvents env n x) = [] := by
    intro x
    unfold RobotLookAtPOI.gainEvents
    split_ifs <;> rfl
  have hrest : perceptions (RobotLookAtPOI.restEvents env n) =
      RobotLookAtPOI.restEvents env n := by
    unfold RobotLookAtPOI.restEvents
    split_ifs <;> rfl
  unfold gazeEvents lookEvents
  rw [perceptions_own rfl, perceptions_append, hgain, List.nil_append]
  cases poi.position? with
  | none => exact congrArg _ hrest
  | some p => rfl

theorem perceptions_emotionEvents (f : RobotChangeFace) (x y : String) :
    perceptions (f.emotionEvents env x y) = [] := by
  unfold RobotChangeFace.emotionEvents
  cases f.emotionFor x y <;> rfl

theorem perceptions_gateEvents (x : String) :
    perceptions (gateEvents env x) = [.checkString .thePoi (some x) "object"] := by
  unfold gateEvents
  rw [perceptions_own rfl]
  split_ifs <;> rfl

theorem perceptions_haltEvents (k : Nat) : perceptions (a.haltEvents env k) = [] := by
  match a with
  | .idle => rfl
  | .running false => rfl
  | .running true => rfl

theorem perceptions_respondEvents (r : DoResponseAction) (human : List Double) :
    perceptions (respondEvents env a r hasBox human) = [] := by
  unfold respondEvents DoResponseAction.comeEvents DoResponseAction.confirmEvents
    DoResponseAction.sendEvents
  split_ifs <;> cases r.command env.getAction env.focus hasBox <;> rfl

end Perceptions

/-- What a tick that returns has to do with the point of interest. -/
def poiEvents (env : Env) (m : Memory) (poi : Poi) (hasBox : String) : List Event :=
  queryEvents env (some hasBox) ++ (.getInput .robotLookAtPOI .thePoi (some poi.name) ::
    (lookEvents env m.robotLookAtPOI poi ++ [.getInput .robotChangeFace .thePoi (some poi.name),
      .checkString .thePoi (some poi.name) "object"]))

section PoiTraces

variable {poi : Poi} {l : List Event}

/-- Up to the grasp gate a tick reads the point of interest it has selected, -/
theorem perceptions_gate : perceptions (perceptionEvents env m poi hasBox ++
    (gateEvents env poi.name ++ l)) = poiEvents env m poi hasBox ++ perceptions l := by
  unfold perceptionEvents poiEvents
  rw [perceptions_append, perceptions_other rfl, perceptions_append, perceptions_append,
    perceptions_append, perceptions_selectionEvents, perceptions_gazeEvents, perceptions_own rfl,
    perceptions_other rfl, perceptions_emotionEvents, perceptions_gateEvents]
  simp

/-- and whatever comes after does not read it. -/
theorem perceptions_openEvents (hl : perceptions l = []) :
    perceptions (openEvents env m poi hasBox ++ l) = poiEvents env m poi hasBox := by
  rw [openEvents, List.append_assoc, List.append_assoc, perceptions_gate, perceptions_append, hl]
  exact List.append_nil _

theorem perceptions_closedEvents (hl : perceptions l = []) :
    perceptions (closedEvents env a m poi hasBox ++ (inputEvents env hasBox ++ l)) =
      poiEvents env m poi hasBox := by
  rw [closedEvents, List.append_assoc, List.append_assoc, perceptions_gate, perceptions_append,
    perceptions_append, perceptions_append, perceptions_haltEvents, hl]
  exact List.append_nil _

end PoiTraces

/-- However a tick goes on, it reads the point of interest it has selected. -/
theorem TickCase.poi (hcase : TickCase env a m hasBox t) (hnav : env.navigating = false)
    (hreturns : ∃ r, t.result = .ok r) :
    ∃ poi, selectPoi env (some hasBox) = .ok poi ∧
      perceptions t.trace = poiEvents env m poi hasBox := by
  obtain ⟨r, hr⟩ := hreturns
  cases hcase with
  | navigating hnav' => simp [hnav] at hnav'
  | blind => cases hr
  | comeShort => cases hr
  | start _ hsel => exact ⟨_, hsel, perceptions_openEvents rfl⟩
  | grasp _ hsel => exact ⟨_, hsel, perceptions_openEvents rfl⟩
  | wait _ hsel => exact ⟨_, hsel, perceptions_openEvents rfl⟩
  | unfinished _ hsel => exact ⟨_, hsel, perceptions_closedEvents rfl⟩
  | respond _ hsel =>
      refine ⟨_, hsel, perceptions_closedEvents ?_⟩
      rw [perceptions_other rfl, perceptions_respondEvents]

/-- The point of interest of a tick: an object if the hands are free and the box
    detector sees one, else a face if the face detector sees one, else nothing. -/
def referencePoi (hasBox : Option String) (center face : List Double) : String :=
  if hasBox = some "no" ∧ areAllElementsMinusOne (center.take 3) = false then "object"
  else if areAllElementsMinusOne (face.take 3) = false then "face"
  else "none"

/-- Three components, and neither of the sentinels of a detector. -/
def Proper (p : List Double) : Prop :=
  p.length = 3 ∧ areAllElementsMinusOne p = false ∧ areAllElementsZero p = false

instance (p : List Double) : Decidable (Proper p) :=
  inferInstanceAs (Decidable (_ ∧ _))

section Reference

variable {v p : List Double} {poi : Poi} {b : Option String}

theorem position_eq_take (hp : position v = some p) : p = v.take 3 ∧ p.length = 3 := by
  match v, hp with
  | x :: y :: z :: _, hp =>
      simp only [position, Option.some.injEq] at hp
      subst hp
      simp

theorem seen_proper (hs : sighting v = .seen p) : p = v.take 3 ∧ Proper p := by
  unfold sighting at hs
  cases hv : position v with
  | none => simp [hv] at hs
  | some q =>
      simp only [hv] at hs
      split_ifs at hs with hzero hminus
      obtain rfl := Sighting.seen.inj hs
      obtain ⟨htake, hlength⟩ := position_eq_take hv
      exact ⟨htake, hlength, by simpa using hminus, by simpa using hzero⟩

theorem absent_minusOne (hs : sighting v = .absent) :
    areAllElementsMinusOne (v.take 3) = true := by
  unfold sighting at hs
  cases hv : position v with
  | none => simp [hv] at hs
  | some q =>
      simp only [hv] at hs
      split_ifs at hs with hzero hminus
      rw [← (position_eq_take hv).1]
      exact hminus

theorem seen_minusOne (hs : sighting v = .seen p) :
    areAllElementsMinusOne (v.take 3) = false := by
  obtain ⟨htake, -, hminus, -⟩ := seen_proper hs
  rw [← htake]
  exact hminus

/-- A selection that succeeds selects what it should. -/
theorem selectPoi_name (hsel : selectPoi env b = .ok poi) :
    poi.name = referencePoi b env.getCenter env.getFacePosition := by
  unfold referencePoi
  rcases selectPoi_cases hsel with ⟨p, rfl, hno, hs⟩ | ⟨habsent, hface⟩
  · rw [if_pos ⟨hno, seen_minusOne hs⟩]
    rfl
  · have hobject : ¬ (b = some "no" ∧ areAllElementsMinusOne (env.getCenter.take 3) = false) := by
      rintro ⟨hno, hminus⟩
      rw [absent_minusOne (habsent hno)] at hminus
      cases hminus
    rw [if_neg hobject]
    rcases hface with ⟨p, rfl, hs⟩ | ⟨rfl, hs⟩
    · rw [if_pos (seen_minusOne hs)]
      rfl
    · rw [absent_minusOne hs]
      rfl

/-- The box detector is asked while the hands are free, and the face detector
    unless an object was selected. -/
theorem mem_queryEvents (hsel : selectPoi env b = .ok poi) :
    ((∃ x, .getCenter x ∈ queryEvents env b) ↔ b = some "no") ∧
      ((∃ x, .getFacePosition x ∈ queryEvents env b) ↔ poi.name ≠ "object") := by
  unfold queryEvents
  rcases selectPoi_cases hsel with ⟨p, rfl, rfl, hs⟩ | ⟨habsent, hface⟩
  · simp [hs, Poi.name]
  · have hname : poi.name ≠ "object" := by
      rcases hface with ⟨p, rfl, -⟩ | ⟨rfl, -⟩ <;> simp [Poi.name]
    by_cases hno : b = some "no"
    · simp [hno, habsent hno, hname]
    · simp [hno, hname]

end Reference

/-- The point of interest a tick should select. -/
def TickRecord.referencePoi (t : TickRecord) : String :=
  ErgoCubBehavior.referencePoi t.before.memory.blackboard.theHasBox t.env.getCenter
    t.env.getFacePosition

/-- The nodes of a tick agree on the point of interest, and it is the one this tick
    has detected. -/
structure FreshPoi (t : TickRecord) : Prop where
  gaze : ∀ v, .getInput .robotLookAtPOI .thePoi v ∈ t.trace ↔ v = some t.referencePoi
  face : ∀ v, .getInput .robotChangeFace .thePoi v ∈ t.trace ↔ v = some t.referencePoi
  gate : ∀ v, .checkString .thePoi v "object" ∈ t.trace ↔ v = some t.referencePoi
  lookAtObject : t.referencePoi = "object" →
    setpoints t.trace = [t.env.getCenter.take 3] ∧ Proper (t.env.getCenter.take 3)
  lookAtFace : t.referencePoi = "face" →
    setpoints t.trace = [t.env.getFacePosition.take 3] ∧ Proper (t.env.getFacePosition.take 3)
  getCenter : (∃ v, .getCenter v ∈ t.trace) ↔ t.before.memory.blackboard.theHasBox = some "no"
  getFacePosition : (∃ v, .getFacePosition v ∈ t.trace) ↔ t.referencePoi ≠ "object"

theorem setpoints_perceptions (l : List Event) : setpoints (perceptions l) = setpoints l := by
  rw [setpoints, perceptions, List.filterMap_filter, setpoints]
  congr 1
  funext e
  cases e with
  | getInput reader entry value => cases entry <;> rfl
  | checkString entry value expected => cases entry <;> rfl
  | _ => rfl

section PoiEvents

variable {poi : Poi} {b : Option String} {n : RobotLookAtPOI} {e : Event}

/-- The detectors are asked, and nothing else. -/
theorem queryEvents_query (he : e ∈ queryEvents env b) :
    e = .getCenter env.getCenter ∨ e = .getFacePosition env.getFacePosition := by
  unfold queryEvents at he
  split_ifs at he
  · rcases List.mem_cons.mp he with rfl | he
    · exact Or.inl rfl
    · split at he
      · exact Or.inr (List.mem_singleton.mp he)
      · cases he
  · exact Or.inr (List.mem_singleton.mp he)

theorem lookEvents_lookAt (he : e ∈ lookEvents env n poi) : ∃ p, e = .lookAt p env.lookAt := by
  unfold lookEvents RobotLookAtPOI.restEvents at he
  repeat' split at he
  all_goals first
    | exact ⟨_, List.mem_singleton.mp he⟩
    | cases he

/-- Who reads the point of interest, and what. -/
theorem reads_mem_poiEvents (hread : (∃ reader v, e = .getInput reader .thePoi v) ∨
      ∃ v, e = .checkString .thePoi v "object") :
    e ∈ poiEvents env m poi hasBox ↔ e = .getInput .robotLookAtPOI .thePoi (some poi.name) ∨
      e = .getInput .robotChangeFace .thePoi (some poi.name) ∨
      e = .checkString .thePoi (some poi.name) "object" := by
  have hquery : e ∉ queryEvents env (some hasBox) := by
    intro he
    rcases queryEvents_query he with rfl | rfl <;> simp at hread
  have hlook : e ∉ lookEvents env m.robotLookAtPOI poi := by
    intro he
    obtain ⟨p, rfl⟩ := lookEvents_lookAt he
    simp at hread
  simp [poiEvents, hquery, hlook]

theorem query_mem_poiEvents (hquery : (∃ v, e = .getCenter v) ∨ ∃ v, e = .getFacePosition v) :
    e ∈ poiEvents env m poi hasBox ↔ e ∈ queryEvents env (some hasBox) := by
  have hlook : e ∉ lookEvents env m.robotLookAtPOI poi := by
    intro he
    obtain ⟨p, rfl⟩ := lookEvents_lookAt he
    simp at hquery
  rcases hquery with ⟨v, rfl⟩ | ⟨v, rfl⟩ <;> simp [poiEvents, hlook]

/-- The robot is told to look once, where the point of interest is. -/
theorem setpoints_poiEvents {q : List Double} (hq : poi.position? = some q) :
    setpoints (poiEvents env m poi hasBox) = [q] := by
  have hquery : setpoints (queryEvents env (some hasBox)) = [] := by
    refine List.filterMap_eq_nil_iff.mpr fun e he => ?_
    rcases queryEvents_query he with rfl | rfl <;> rfl
  rw [setpoints] at hquery ⊢
  simp [poiEvents, lookEvents, hq, List.filterMap_append, hquery]

end PoiEvents

/-- In a tick in which the robot stands still and that returns, the point of
    interest is fresh. -/
theorem poi_fresh (hrun : Run h s) (env : Env) (hnav : env.navigating = false)
    (hreturns : ∃ r, (tickRoot env s).result = .ok r) : FreshPoi (tickRoot env s) := by
  obtain ⟨p, -, hphase⟩ := hrun.protocol
  obtain ⟨poi, hsel, htrace⟩ := (hphase.cases env).poi hnav hreturns
  have hmem : ∀ e : Event, e.perception = true →
      (e ∈ (tickRoot env s).trace ↔ e ∈ poiEvents env s.memory poi p.hasBox) := by
    intro e he
    rw [← mem_perceptions he, htrace]
  have hname : (tickRoot env s).referencePoi = poi.name := by
    rw [TickRecord.referencePoi, tickRoot_before, tickRoot_env, hphase.hasBox, selectPoi_name hsel]
  have hbefore : (tickRoot env s).before.memory.blackboard.theHasBox = some p.hasBox := by
    rw [tickRoot_before, hphase.hasBox]
  have hlooks : ∀ {v q}, sighting v = .seen q → poi.position? = some q →
      setpoints (tickRoot env s).trace = [v.take 3] ∧ Proper (v.take 3) := by
    intro v q hs hq
    obtain ⟨htake, hproper⟩ := seen_proper hs
    rw [← setpoints_perceptions, htrace, setpoints_poiEvents hq, ← htake]
    exact ⟨rfl, hproper⟩
  obtain ⟨hcenter, hface⟩ := mem_queryEvents hsel
  refine ⟨?_, ?_, ?_, ?_, ?_, ?_, ?_⟩
  · intro v
    rw [hmem _ rfl, reads_mem_poiEvents (Or.inl ⟨_, _, rfl⟩), hname]
    simp
  · intro v
    rw [hmem _ rfl, reads_mem_poiEvents (Or.inl ⟨_, _, rfl⟩), hname]
    simp
  · intro v
    rw [hmem _ rfl, reads_mem_poiEvents (Or.inr ⟨_, rfl⟩), hname]
    simp
  · rw [hname, tickRoot_env]
    intro hobject
    rcases selectPoi_cases hsel with ⟨q, rfl, -, hs⟩ | ⟨-, ⟨q, rfl, hs⟩ | ⟨rfl, -⟩⟩
    · exact hlooks hs rfl
    · simp [Poi.name] at hobject
    · simp [Poi.name] at hobject
  · rw [hname, tickRoot_env]
    intro hface
    rcases selectPoi_cases hsel with ⟨q, rfl, -, hs⟩ | ⟨-, ⟨q, rfl, hs⟩ | ⟨rfl, -⟩⟩
    · simp [Poi.name] at hface
    · exact hlooks hs rfl
    · simp [Poi.name] at hface
  · rw [hbefore, ← hcenter]
    refine exists_congr fun v => ?_
    rw [hmem _ rfl, query_mem_poiEvents (Or.inl ⟨v, rfl⟩)]
  · rw [hname, ← hface]
    refine exists_congr fun v => ?_
    rw [hmem _ rfl, query_mem_poiEvents (Or.inr ⟨v, rfl⟩)]

/-- An object in reach and a face: the robot looks at the object. -/
theorem poi_fresh_object :
    FreshPoi (tickRoot (Env.alone.human "wave").object (reached [Env.alone.human "wave"])) ∧
      (tickRoot (Env.alone.human "wave").object (reached [Env.alone.human "wave"])).referencePoi =
        "object" :=
  ⟨poi_fresh (run_history [Env.alone.human "wave"]) _ (by decide) ⟨.running, by decide +kernel⟩,
    by decide +kernel⟩

end ErgoCubBehavior
