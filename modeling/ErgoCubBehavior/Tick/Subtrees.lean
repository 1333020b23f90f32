/-
  ErgoCubBehavior.Tick.Subtrees

  What one tick of each subtree does, by the rules of the engine from the closed
  forms of the nodes.

  * `poiSequence_ok`, `poiSequence_error` — selection of the point of interest,
    then the gaze;
  * `graspSequence_closed`, `graspSequence_open` — the two guards and `GoGrasp`,
    idle or left running by the tick before (`Activity`);
  * `responseSequence_ok`, `responseSequence_error` — focus, action, response.
-/

import ErgoCubBehavior.Tick.Nodes

namespace ErgoCubBehavior

open BehaviorTree Binary64

variable {env : Env} {m : Memory} {l : List Event} {st : NodeStatus}

-- ============================================================================
-- The point of interest
-- ============================================================================

/-- A point of interest and where it is. -/
inductive Poi where
  | none
  | face (position : List Double)
  | object (position : List Double)
deriving DecidableEq, Repr

namespace Poi

def name : Poi → String
  | .none => "none"
  | .face _ => "face"
  | .object _ => "object"

def position? : Poi → Option (List Double)
  | .none => Option.none
  | .face p => some p
  | .object p => some p

end Poi

/-- What the face detector makes of a tick in which no object was selected. -/
def selectFace (env : Env) : Except Exception Poi :=
  match sighting env.getFacePosition with
  | .short => .error .outOfBounds
  | .dead => .error (.runtimeError FaceDetected.what)
  | .absent => .ok .none
  | .seen p => .ok (.face p)

/-- The selection of a tick that starts with `hasBox` on the blackboard. -/
def selectPoi (env : Env) (hasBox : Option String) : Except Exception Poi :=
  if hasBox = some "no" then
    match sighting env.getCenter with
    | .short => .error .outOfBounds
    | .dead => .error (.runtimeError BoxDetected.what)
    | .absent => selectFace env
    | .seen p => .ok (.object p)
  else selectFace env

/-- The selection of a tick that comes to one: a robot on its way selects nothing, and a
    detector that throws ends the tick. -/
def Env.selected (env : Env) (hasBox : Option String) : Option Poi :=
  if env.navigating then none else (selectPoi env hasBox).toOption

theorem selected_of_ok {env : Env} {hasBox : Option String} {poi : Poi}
    (hnav : env.navigating = false) (hsel : selectPoi env hasBox = .ok poi) :
    env.selected hasBox = some poi := by
  rw [Env.selected, hnav, hsel]
  rfl

theorem selected_of_error {env : Env} {hasBox : Option String} {e : Exception}
    (hsel : selectPoi env hasBox = .error e) : env.selected hasBox = none := by
  rw [Env.selected, hsel]
  exact ite_self _

theorem selected_of_navigating {env : Env} {hasBox : Option String}
    (hnav : env.navigating = true) : env.selected hasBox = none :=
  if_pos hnav

theorem selected_eq_some {env : Env} {hasBox : Option String} {poi : Poi} :
    env.selected hasBox = some poi ↔
      env.navigating = false ∧ selectPoi env hasBox = .ok poi := by
  refine ⟨fun hsel => ?_, fun hsel => selected_of_ok hsel.1 hsel.2⟩
  cases hnav : env.navigating with
  | true => simp [selected_of_navigating hnav] at hsel
  | false =>
      cases hpoi : selectPoi env hasBox with
      | error e => simp [selected_of_error hpoi] at hsel
      | ok poi' =>
          rw [selected_of_ok hnav hpoi, Option.some_inj] at hsel
          rw [hsel]
          exact ⟨rfl, rfl⟩

def faceSelectionEvents (env : Env) : List Event :=
  .getFacePosition env.getFacePosition ::
    match sighting env.getFacePosition with
    | .seen p => [.setOutput .faceDetected .thePoi "face",
        .setOutputVector .faceDetected .thePoiPos p]
    | .absent => [.setOutput .setBlackboard .thePoi "none"]
    | _ => []

def selectionEvents (env : Env) (hasBox : Option String) : List Event :=
  .checkString .theHasBox hasBox "no" ::
    if hasBox = some "no" then
      .getCenter env.getCenter ::
        match sighting env.getCenter with
        | .seen p => [.setOutput .boxDetected .thePoi "object",
            .setOutputVector .boxDetected .thePoiPos p]
        | .absent => faceSelectionEvents env
        | _ => []
    else faceSelectionEvents env

/-- The blackboard once a point of interest is published: with nothing in sight
    the old position stays. -/
def Blackboard.withPoi (b : Blackboard) : Poi → Blackboard
  | .none => { b with thePoi := some "none" }
  | .face p => { b with thePoi := some "face", thePoiPos := some p }
  | .object p => { b with thePoi := some "object", thePoiPos := some p }

section WithPoi

variable (b : Blackboard) (poi : Poi)

@[simp] theorem Blackboard.withPoi_theHasBox : (b.withPoi poi).theHasBox = b.theHasBox := by
  cases poi <;> rfl

@[simp] theorem Blackboard.withPoi_thePoi : (b.withPoi poi).thePoi = some poi.name := by
  cases poi <;> rfl

end WithPoi

-- ============================================================================
-- Leaves and guards at the engine
-- ============================================================================

theorem leaf_ok (n : Leaf) (st : NodeStatus) {r : TickStatus} {w : World}
    (h : (n.tick env st).run ⟨m, l⟩ = .ok r w) :
    (Tree.executeTick (semantics env) (.leaf st n)).run ⟨m, l⟩ =
      .ok (r, .leaf r.toNodeStatus n) w :=
  executeTick_leaf h

theorem leaf_error (n : Leaf) (st : NodeStatus) {e : Exception} {w : World}
    (h : (n.tick env st).run ⟨m, l⟩ = .error e w) :
    (Tree.executeTick (semantics env) (.leaf st n)).run ⟨m, l⟩ = .error e w :=
  executeTick_leaf_error h

section Guards

variable {entry : StringEntry} {value : String} {c c' : ErgoTree}

/-- A check of an entry that holds the expected string ticks the child. -/
theorem guard_ok (st : NodeStatus) {r : TickStatus} {w : World}
    (h : m.blackboard.get entry = some value)
    (hc : (c.executeTick (semantics env)).run
      ⟨m, l ++ [.checkString entry (some value) value]⟩ = .ok (r, c') w) :
    (Tree.executeTick (semantics env) (.decorator st ⟨.failure, entry, value⟩ c)).run ⟨m, l⟩ =
      .ok (r, .decorator r.toNodeStatus ⟨.failure, entry, value⟩ c'.resetFinished) w := by
  have hcheck := BlackboardCheckString.check_run (m := m) (l := l) ⟨.failure, entry, value⟩
  simp only [h, decide_true] at hcheck
  exact executeTick_match hcheck hc

theorem guard_error (st : NodeStatus) {e : Exception} {w : World}
    (h : m.blackboard.get entry = some value)
    (hc : (c.executeTick (semantics env)).run
      ⟨m, l ++ [.checkString entry (some value) value]⟩ = .error e w) :
    (Tree.executeTick (semantics env) (.decorator st ⟨.failure, entry, value⟩ c)).run ⟨m, l⟩ =
      .error e w := by
  have hcheck := BlackboardCheckString.check_run (m := m) (l := l) ⟨.failure, entry, value⟩
  simp only [h, decide_true] at hcheck
  exact executeTick_match_error hcheck hc

/-- A check that fails answers `FAILURE` and leaves the child alone. -/
theorem guard_mismatch (env : Env) (st : NodeStatus) (c : ErgoTree)
    (h : m.blackboard.get entry ≠ some value) :
    (Tree.executeTick (semantics env) (.decorator st ⟨.failure, entry, value⟩ c)).run ⟨m, l⟩ =
      .ok (.failure, .decorator .failure ⟨.failure, entry, value⟩ c.resetFinished)
        ⟨m, l ++ [.checkString entry (m.blackboard.get entry) value]⟩ := by
  have hcheck := BlackboardCheckString.check_run (m := m) (l := l) ⟨.failure, entry, value⟩
  simp only [h, decide_false] at hcheck
  exact executeTick_mismatch hcheck

end Guards

-- ============================================================================
-- The selection subtree
-- ============================================================================

/-- Once the box detector has failed, the face detector decides. -/
theorem faceFallback_run {g : BlackboardCheckString} {c c' : ErgoTree} {l' : List Event}
    (h : (c.executeTick (semantics env)).run ⟨m, l⟩ =
      .ok (.failure, .decorator .failure g c') ⟨m, l'⟩) :
    (tickFallback (semantics env) [] [c, node (.faceDetected .thePoi .thePoiPos),
      node (.setBlackboard .thePoi "none")]).run ⟨m, l⟩ =
      match selectFace env with
      | .ok poi =>
          .ok (.success, [.decorator .idle g c', node (.faceDetected .thePoi .thePoiPos),
            node (.setBlackboard .thePoi "none")])
            ⟨{ m with blackboard := m.blackboard.withPoi poi }, l' ++ faceSelectionEvents env⟩
      | .error e => .error e ⟨m, l' ++ faceSelectionEvents env⟩ := by
  have hrun := FaceDetected.tick_run (m := m) (l := l') env .thePoi .thePoiPos
  rw [publishPosition_run] at hrun
  rw [tickFallback_failure h]
  simp only [node, faceSelectionEvents, selectFace]
  cases hs : sighting env.getFacePosition with
  | short =>
      simp only [hs] at hrun ⊢
      rw [tickFallback_error (leaf_error (.faceDetected .thePoi .thePoiPos) .idle hrun)]
  | dead =>
      simp only [hs] at hrun ⊢
      rw [tickFallback_error (leaf_error (.faceDetected .thePoi .thePoiPos) .idle hrun)]
  | absent =>
      simp only [hs] at hrun ⊢
      have hset := SetBlackboard.tick_run (m := m)
        (l := l' ++ [.getFacePosition env.getFacePosition]) .thePoi "none"
      rw [tickFallback_failure (leaf_ok (.faceDetected .thePoi .thePoiPos) .idle hrun),
        tickFallback_success (leaf_ok (.setBlackboard .thePoi "none") .idle hset)
          (haltChildren_settled (by simp))]
      simp [Blackboard.withPoi, Blackboard.set]
  | seen p =>
      simp only [hs] at hrun ⊢
      rw [tickFallback_success (leaf_ok (.faceDetected .thePoi .thePoiPos) .idle hrun)
        (haltChildren_settled (by simp))]
      simp [Blackboard.withPoi, Blackboard.set, Blackboard.setVector]

theorem poiFallback_run (env : Env) (m : Memory) (l : List Event) :
    (poiFallback.executeTick (semantics env)).run ⟨m, l⟩ =
      match selectPoi env m.blackboard.theHasBox with
      | .ok poi =>
          .ok (.success, poiFallback.setStatus .success)
            ⟨{ m with blackboard := m.blackboard.withPoi poi },
              l ++ selectionEvents env m.blackboard.theHasBox⟩
      | .error e => .error e ⟨m, l ++ selectionEvents env m.blackboard.theHasBox⟩ := by
  unfold selectPoi selectionEvents
  by_cases hno : m.blackboard.get .theHasBox = some "no"
  · have hrun := BoxDetected.tick_run (m := m)
      (l := l ++ [.checkString .theHasBox (some "no") "no"]) env .thePoi .thePoiPos
    rw [publishPosition_run] at hrun
    have hbox : m.blackboard.theHasBox = some "no" := hno
    simp only [hbox, if_true]
    cases hs : sighting env.getCenter with
    | short =>
        simp only [hs] at hrun ⊢
        have hthrow := guard_error .idle hno
          (leaf_error (.boxDetected .thePoi .thePoiPos) .idle hrun)
        refine executeTick_fallback_error ((tickFallback_error hthrow).trans ?_)
        simp
    | dead =>
        simp only [hs] at hrun ⊢
        have hthrow := guard_error .idle hno
          (leaf_error (.boxDetected .thePoi .thePoiPos) .idle hrun)
        refine executeTick_fallback_error ((tickFallback_error hthrow).trans ?_)
        simp
    | absent =>
        simp only [hs] at hrun ⊢
        have hfail := guard_ok .idle hno (leaf_ok (.boxDetected .thePoi .thePoiPos) .idle hrun)
        have hface := faceFallback_run hfail
        cases hsel : selectFace env with
        | ok poi =>
            simp only [hsel] at hface ⊢
            refine (executeTick_fallback hface).trans ?_
            simp [poiFallback, blackboardCheckString, node, Tree.resetFinished]
        | error e =>
            simp only [hsel] at hface ⊢
            refine (executeTick_fallback_error hface).trans ?_
            simp
    | seen p =>
        simp only [hs] at hrun ⊢
        have hseen := guard_ok .idle hno (leaf_ok (.boxDetected .thePoi .thePoiPos) .idle hrun)
        refine (executeTick_fallback
          (tickFallback_success hseen (haltChildren_settled (by simp [node])))).trans ?_
        simp [poiFallback, blackboardCheckString, node, Tree.resetFinished, Blackboard.withPoi,
          Blackboard.set, Blackboard.setVector]
  · have hskip := guard_mismatch (l := l) env .idle (node (.boxDetected .thePoi .thePoiPos)) hno
    have hface := faceFallback_run hskip
    have hbox : ¬ m.blackboard.theHasBox = some "no" := hno
    simp only [hbox, if_false]
    cases hsel : selectFace env with
    | ok poi =>
        simp only [hsel] at hface ⊢
        refine (executeTick_fallback hface).trans ?_
        simp [poiFallback, blackboardCheckString, node, Tree.resetFinished, Blackboard.get]
    | error e =>
        simp only [hsel] at hface ⊢
        refine (executeTick_fallback_error hface).trans ?_
        simp [Blackboard.get]

-- ============================================================================
-- Selection and gaze
-- ============================================================================

/-- The events of the gaze node for the point of interest selected before it. -/
def gazeEvents (env : Env) (n : RobotLookAtPOI) (poi : Poi) : List Event :=
  .getInput .robotLookAtPOI .thePoi (some poi.name) ::
    (RobotLookAtPOI.gainEvents env n poi.name ++
      match poi.position? with
      | none => RobotLookAtPOI.restEvents env n
      | some p => [.getInputVector .robotLookAtPOI .thePoiPos (some p), .lookAt p env.lookAt])

/-- A position has exactly three components. -/
theorem position_of_sighting {v p : List Double} (h : sighting v = .seen p) :
    position v = some p := by
  unfold sighting at h
  cases hv : position v with
  | none => simp [hv] at h
  | some q =>
      simp only [hv] at h
      split_ifs at h
      rw [Sighting.seen.inj h]

theorem position_idem {v p : List Double} (h : position v = some p) : position p = some p := by
  match v, h with
  | x :: y :: z :: _, h =>
      simp only [position, Option.some.injEq] at h
      subst h
      rfl

/-- What the face detector can lead to. -/
theorem selectFace_cases {poi : Poi} (h : selectFace env = .ok poi) :
    (∃ p, poi = .face p ∧ sighting env.getFacePosition = .seen p) ∨
      (poi = .none ∧ sighting env.getFacePosition = .absent) := by
  unfold selectFace at h
  cases hs : sighting env.getFacePosition with
  | short => simp [hs] at h
  | dead => simp [hs] at h
  | absent => exact Or.inr ⟨by simpa [hs, eq_comm] using h, rfl⟩
  | seen p => exact Or.inl ⟨p, by simpa [hs, eq_comm] using h, rfl⟩

/-- What a selection can lead to: an object only with free hands, and a face or
    nothing only where no object is in sight. -/
theorem selectPoi_cases {hasBox : Option String} {poi : Poi}
    (h : selectPoi env hasBox = .ok poi) :
    (∃ p, poi = .object p ∧ hasBox = some "no" ∧ sighting env.getCenter = .seen p) ∨
      ((hasBox = some "no" → sighting env.getCenter = .absent) ∧
        ((∃ p, poi = .face p ∧ sighting env.getFacePosition = .seen p) ∨
          (poi = .none ∧ sighting env.getFacePosition = .absent))) := by
  unfold selectPoi at h
  split_ifs at h with hno
  · cases hs : sighting env.getCenter with
    | short => simp [hs] at h
    | dead => simp [hs] at h
    | absent =>
        simp only [hs] at h
        exact Or.inr ⟨fun _ => rfl, selectFace_cases h⟩
    | seen p => exact Or.inl ⟨p, by simpa [hs, eq_comm] using h, hno, rfl⟩
  · exact Or.inr ⟨fun hno' => absurd hno' hno, selectFace_cases h⟩

/-- What is selected is what one of the detectors answered in this tick. -/
theorem selectPoi_position {hasBox : Option String} {poi : Poi} {p : List Double}
    (h : selectPoi env hasBox = .ok poi) (hp : poi.position? = some p) :
    (poi.name = "object" ∧ sighting env.getCenter = .seen p) ∨
      (poi.name = "face" ∧ sighting env.getFacePosition = .seen p) := by
  rcases selectPoi_cases h with ⟨q, rfl, -, hs⟩ | ⟨-, ⟨q, rfl, hs⟩ | ⟨rfl, -⟩⟩
  · rw [Poi.position?, Option.some.injEq] at hp
    exact Or.inl ⟨rfl, hp ▸ hs⟩
  · rw [Poi.position?, Option.some.injEq] at hp
    exact Or.inr ⟨rfl, hp ▸ hs⟩
  · cases hp

/-- `RobotLookAtPOI` after a selection: the position it reads is the selected
    one. -/
theorem robotLookAtPOI_run {hasBox : Option String} {poi : Poi}
    (h : selectPoi env hasBox = .ok poi) :
    (RobotLookAtPOI.tick env .thePoi .thePoiPos).run
      ⟨{ m with blackboard := m.blackboard.withPoi poi }, l⟩ =
      .ok .success ⟨{ m with
          blackboard := m.blackboard.withPoi poi
          robotLookAtPOI := m.robotLookAtPOI.next poi.name },
        l ++ gazeEvents env m.robotLookAtPOI poi⟩ := by
  cases poi with
  | none => exact RobotLookAtPOI.tick_none rfl
  | face p =>
      have hp : position p = some p := by
        rcases selectPoi_position h rfl with ⟨-, hs⟩ | ⟨-, hs⟩ <;>
          exact position_idem (position_of_sighting hs)
      exact RobotLookAtPOI.tick_poi rfl (by simp [Poi.name]) rfl hp
  | object p =>
      have hp : position p = some p := by
        rcases selectPoi_position h rfl with ⟨-, hs⟩ | ⟨-, hs⟩ <;>
          exact position_idem (position_of_sighting hs)
      exact RobotLookAtPOI.tick_poi rfl (by simp [Poi.name]) rfl hp

theorem poiSequence_ok {poi : Poi} (h : selectPoi env m.blackboard.theHasBox = .ok poi)
    (st : NodeStatus) :
    ((poiSequence.setStatus st).executeTick (semantics env)).run ⟨m, l⟩ =
      .ok (.success, poiSequence.setStatus .success)
        ⟨{ m with
            blackboard := m.blackboard.withPoi poi
            robotLookAtPOI := m.robotLookAtPOI.next poi.name },
          l ++ (selectionEvents env m.blackboard.theHasBox ++
            gazeEvents env m.robotLookAtPOI poi)⟩ := by
  have hselect := poiFallback_run env m l
  simp only [h] at hselect
  have hgaze := leaf_ok (.robotLookAtPOI .thePoi .thePoiPos) .idle
    (robotLookAtPOI_run (m := m) (l := l ++ selectionEvents env m.blackboard.theHasBox) h)
  refine executeTick_sequence (r := .success) ?_
  rw [tickSequence_success hselect, node, tickSequence_success hgaze,
    tickSequence_nil (haltChildren_settled (by simp [poiFallback]))]
  simp [poiFallback, node]

theorem poiSequence_error {e : Exception}
    (h : selectPoi env m.blackboard.theHasBox = .error e) (st : NodeStatus) :
    ((poiSequence.setStatus st).executeTick (semantics env)).run ⟨m, l⟩ =
      .error e ⟨m, l ++ selectionEvents env m.blackboard.theHasBox⟩ := by
  have hselect := poiFallback_run env m l
  simp only [h] at hselect
  exact executeTick_sequence_error (tickSequence_error hselect)

-- ============================================================================
-- The grasp subtree
-- ============================================================================

/-- What a tick leaves of `GoGrasp`: nothing, or a running action with its flag
    `ready`. -/
inductive Activity where
  | idle
  | running (ready : Bool)
deriving DecidableEq, Repr

namespace Activity

def goGrasp : Activity → ErgoTree
  | idle => blackboardCheckString .theHasBox "no" (node (.goGrasp .theHasBox))
  | running _ =>
      .decorator .running ⟨.failure, .theHasBox, "no"⟩ (.leaf .running (.goGrasp .theHasBox))

def graspSequence : Activity → ErgoTree
  | idle => ErgoCubBehavior.graspSequence
  | running ready =>
      .reactiveSequence .running [
        .decorator .success ⟨.failure, .thePoi, "object"⟩ (node .objectIsGraspable),
        (running ready).goGrasp]

/-- The memory agrees on the flag of a running action. -/
def Flag (m : Memory) : Activity → Prop
  | idle => True
  | running ready => m.goGrasp.ready = some ready

def haltEvents (env : Env) (k : Nat) : Activity → List Event
  | idle => []
  | running ready => GoGrasp.haltEvents env ready k

end Activity

/-- The checks before `GoGrasp`, up to the first that fails. -/
def gateEvents (env : Env) (poi : String) : List Event :=
  .checkString .thePoi (some poi) "object" ::
    if poi = "object" then [.getDistance env.getDistance] else []

variable {a : Activity}

/-- Whatever it was doing, `GoGrasp` is idle after its sequence is halted. -/
theorem haltChildren_grasp (env : Env) (hflag : a.Flag m) (hst : st ≠ .running) :
    (haltChildren (semantics env)
      [.decorator st ⟨.failure, .thePoi, "object"⟩ (node .objectIsGraspable), a.goGrasp]).run
        ⟨m, l⟩ =
      .ok [blackboardCheckString .thePoi "object" (node .objectIsGraspable), Activity.idle.goGrasp]
        ⟨m, l ++ a.haltEvents env (motionCalls l)⟩ := by
  refine haltChildren_settled_cons hst ?_
  cases a with
  | idle =>
      rw [haltChildren_settled (by simp [Activity.goGrasp, blackboardCheckString])]
      simp [Activity.goGrasp, Activity.haltEvents, blackboardCheckString]
  | running ready =>
      have hleaf : (Tree.halt (semantics env) (.leaf .running (.goGrasp .theHasBox))).run ⟨m, l⟩ =
          .ok (.leaf .running (.goGrasp .theHasBox))
            ⟨m, l ++ GoGrasp.haltEvents env ready (motionCalls l)⟩ :=
        halt_leaf .running (GoGrasp.onHalted_run hflag)
      exact haltChildren_running rfl (halt_decorator .running rfl hleaf) (haltChildren_settled (by simp))

/-- The two checks that stand before `GoGrasp`, the box apart. -/
def graspGate (env : Env) (poi : String) : Bool :=
  poi = "object" ∧ env.graspable = true

theorem objectGate_run {poi : String} (env : Env) (st : NodeStatus) (hpoi : m.blackboard.thePoi = some poi) :
    (Tree.executeTick (semantics env)
      (.decorator st ⟨.failure, .thePoi, "object"⟩ (node .objectIsGraspable))).run ⟨m, l⟩ =
      .ok (if graspGate env poi then .success else .failure,
        .decorator (if graspGate env poi then .success else .failure)
          ⟨.failure, .thePoi, "object"⟩ (node .objectIsGraspable))
        ⟨m, l ++ gateEvents env poi⟩ := by
  by_cases hobject : poi = "object"
  · subst hobject
    have hget : m.blackboard.get .thePoi = some "object" := hpoi
    have hrun := ObjectIsGraspable.tick_run (m := m)
      (l := l ++ [.checkString .thePoi (some "object") "object"]) env
    rw [node, guard_ok st hget (leaf_ok .objectIsGraspable .idle hrun)]
    cases hg : env.graspable <;> simp [graspGate, gateEvents, Tree.resetFinished, hg]
  · have hne : m.blackboard.get .thePoi ≠ some "object" := by
      simp [Blackboard.get, hpoi, hobject]
    rw [guard_mismatch env st (node .objectIsGraspable) hne]
    simp [graspGate, gateEvents, hobject, node, Tree.resetFinished, Blackboard.get, hpoi]

/-- A closed gate halts `GoGrasp` and fails. -/
theorem graspSequence_closed {poi : String} (hflag : a.Flag m)
    (hpoi : m.blackboard.thePoi = some poi) (hclosed : graspGate env poi = false) :
    (a.graspSequence.executeTick (semantics env)).run ⟨m, l⟩ =
      .ok (.failure, graspSequence.setStatus .failure)
        ⟨m, l ++ (gateEvents env poi ++ a.haltEvents env (motionCalls l))⟩ := by
  have hmotions : motionCalls (l ++ gateEvents env poi) = motionCalls l := by
    unfold gateEvents
    split <;> simp [motionCalls]
  have hfail := fun st => objectGate_run (l := l) env st hpoi
  simp only [hclosed, Bool.false_eq_true, if_false] at hfail
  have hhalt := haltChildren_grasp (l := l ++ gateEvents env poi) env hflag
    (show NodeStatus.failure ≠ .running by decide)
  rw [hmotions, List.append_assoc] at hhalt
  cases a with
  | idle => exact executeTick_sequence (tickSequence_failure (hfail .idle) hhalt)
  | running ready => exact executeTick_sequence (tickSequence_failure (hfail .success) hhalt)

/-- The status under which `GoGrasp` is ticked. -/
def Activity.status : Activity → NodeStatus
  | idle => .idle
  | running _ => .running

/-- An open gate leads to `GoGrasp`, which always runs on. -/
theorem graspSequence_open {w : World} (ready : Bool)
    (hpoi : m.blackboard.thePoi = some "object") (hgrasp : env.graspable = true)
    (hbox : m.blackboard.theHasBox = some "no")
    (h : (GoGrasp.tick env .theHasBox a.status).run
      ⟨m, l ++ gateEvents env "object" ++ [.checkString .theHasBox (some "no") "no"]⟩ =
        .ok .running w) :
    (a.graspSequence.executeTick (semantics env)).run ⟨m, l⟩ =
      .ok (.running, (Activity.running ready).graspSequence) w := by
  have hgate : graspGate env "object" = true := by simp [graspGate, hgrasp]
  have hfirst := fun st => objectGate_run (l := l) env st hpoi
  simp only [hgate, if_true] at hfirst
  have hget : m.blackboard.get .theHasBox = some "no" := hbox
  have hsecond := fun st => guard_ok st hget (leaf_ok (.goGrasp .theHasBox) a.status h)
  have hnone : (haltChildren (semantics env) []).run w = .ok [] w := rfl
  cases a with
  | idle =>
      refine executeTick_sequence (r := .running) ?_
      exact (tickSequence_success (hfirst .idle)).trans
        (tickSequence_running (hsecond .idle) hnone)
  | running r =>
      refine executeTick_sequence (r := .running) ?_
      exact (tickSequence_success (hfirst .success)).trans
        (tickSequence_running (hsecond .running) hnone)

-- ============================================================================
-- The response subtree
-- ============================================================================

/-- Focus and action are published before the robot responds. -/
def Memory.listen (m : Memory) (env : Env) : Memory :=
  { m with blackboard := (m.blackboard.set env.focus .theFocus).set env.getAction .theAction }

def listenEvents (env : Env) : List Event :=
  [.isFocused env.isFocused, .setOutput .focusDetected .theFocus env.focus,
    .getAction env.getAction, .setOutput .actionDetected .theAction env.getAction]

/-- The response node as it is wired in the tree. -/
def respond (env : Env) : TickM TickStatus :=
  DoResponseAction.tick env .theAction .theFocus .theHasBox .theHasBox

/-- Focus and action are detected first, and always. -/
theorem tickSequence_listen :
    (tickSequence (semantics env) [] [node (.focusDetected .theFocus),
      node (.actionDetected .theAction),
      node (.doResponseAction .theAction .theFocus .theHasBox .theHasBox)]).run ⟨m, l⟩ =
      (tickSequence (semantics env)
        [.leaf .success (.focusDetected .theFocus), .leaf .success (.actionDetected .theAction)]
        [node (.doResponseAction .theAction .theFocus .theHasBox .theHasBox)]).run
        ⟨m.listen env, l ++ listenEvents env⟩ := by
  have hfocus := FocusDetected.tick_run (m := m) (l := l) env .theFocus
  have haction := ActionDetected.tick_run
    (m := { m with blackboard := m.blackboard.set env.focus .theFocus })
    (l := l ++ [.isFocused env.isFocused, .setOutput .focusDetected .theFocus env.focus])
    env .theAction
  rw [List.append_assoc] at haction
  exact (tickSequence_success (leaf_ok (.focusDetected .theFocus) .idle hfocus)).trans
    (tickSequence_success (leaf_ok (.actionDetected .theAction) .idle haction))

/-- The sequence answers what `DoResponseAction` answers. -/
theorem responseSequence_ok {r : TickStatus} {w : World} (hr : r ≠ .running)
    (h : (respond env).run ⟨m.listen env, l ++ listenEvents env⟩ = .ok r w) :
    (responseSequence.executeTick (semantics env)).run ⟨m, l⟩ =
      .ok (r, responseSequence.setStatus r.toNodeStatus) w := by
  have hrespond := leaf_ok (.doResponseAction .theAction .theFocus .theHasBox .theHasBox) .idle h
  refine executeTick_sequence (tickSequence_listen.trans ?_)
  cases r with
  | running => exact absurd rfl hr
  | success =>
      exact (tickSequence_success hrespond).trans (tickSequence_nil (haltChildren_settled (by simp)))
  | failure => exact tickSequence_failure hrespond (haltChildren_settled (by simp))

theorem responseSequence_error {e : Exception} {w : World}
    (h : (respond env).run ⟨m.listen env, l ++ listenEvents env⟩ = .error e w) :
    (responseSequence.executeTick (semantics env)).run ⟨m, l⟩ = .error e w := by
  have hrespond := leaf_error (.doResponseAction .theAction .theFocus .theHasBox .theHasBox) .idle h
  exact executeTick_sequence_error (tickSequence_listen.trans (tickSequence_error hrespond))

end ErgoCubBehavior
