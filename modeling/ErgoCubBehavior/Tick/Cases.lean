/-
  ErgoCubBehavior.Tick.Cases

  What one tick of the whole tree does.  `TickCase` lists the eight ways a tick
  can go, each with the answers that lead there and the record it leaves:

  * `navigating` — the robot is on its way: everything is halted;
  * `blind`      — a detector throws;
  * `start`, `grasp`, `wait` — the gate is open and `GoGrasp` is ticked;
  * `unfinished`, `respond`, `comeShort` — the gate is closed, `GoGrasp` is
    halted and `DoResponseAction` is ticked.

  `tickRoot_cases` says that these are all, for the two shapes the tree has
  between ticks (`Activity.tree`).
-/

import ErgoCubBehavior.Tick.Subtrees

namespace ErgoCubBehavior

open BehaviorTree Binary64

variable {env : Env} {m : Memory} {l : List Event} {a : Activity}

-- ============================================================================
-- Calls to the manipulation server
-- ============================================================================

def Event.manipulation : Event → Bool
  | .isFinished .. => true
  | .performJointSpaceAction .. => true
  | _ => false

/-- The calls of a trace to the manipulation server. -/
def manipulations (l : List Event) : List Event :=
  l.filter Event.manipulation

@[simp] theorem manipulations_nil : manipulations [] = [] := rfl

@[simp] theorem manipulations_cons (e : Event) (l : List Event) :
    manipulations (e :: l) = (if e.manipulation then [e] else []) ++ manipulations l := by
  cases h : e.manipulation <;> simp [manipulations, h]

@[simp] theorem manipulations_append (l₁ l₂ : List Event) :
    manipulations (l₁ ++ l₂) = manipulations l₁ ++ manipulations l₂ := by
  simp [manipulations]

theorem motions_manipulations (l : List Event) : motions (manipulations l) = motions l := by
  rw [motions, manipulations, List.filterMap_filter, motions]
  congr 1
  funext e
  cases e <;> rfl

theorem motionCalls_manipulations (l : List Event) :
    motionCalls (manipulations l) = motionCalls l := by
  rw [motionCalls, manipulations, List.countP_filter, motionCalls]
  congr 1
  funext e
  cases e <;> rfl

theorem finishedCalls_manipulations (l : List Event) :
    finishedCalls (manipulations l) = finishedCalls l := by
  rw [finishedCalls, manipulations, List.countP_filter, finishedCalls]
  congr 1
  funext e
  cases e <;> rfl

section Quiet

variable (env) (n : RobotLookAtPOI) (f : RobotChangeFace) (r : DoResponseAction)
  (b : Option String) (p : Poi) (s s' s'' : String)

@[simp] theorem manipulations_selectionEvents :
    manipulations (selectionEvents env b) = [] := by
  have hface : manipulations (faceSelectionEvents env) = [] := by
    unfold faceSelectionEvents
    cases sighting env.getFacePosition <;> rfl
  unfold selectionEvents
  split_ifs
  · cases sighting env.getCenter with
    | absent => exact hface
    | _ => rfl
  · exact hface

@[simp] theorem manipulations_gazeEvents : manipulations (gazeEvents env n p) = [] := by
  unfold gazeEvents RobotLookAtPOI.gainEvents RobotLookAtPOI.restEvents
  split_ifs <;> cases p <;> rfl

@[simp] theorem manipulations_emotionEvents :
    manipulations (RobotChangeFace.emotionEvents env f s s') = [] := by
  unfold RobotChangeFace.emotionEvents
  cases f.emotionFor s s' <;> rfl

@[simp] theorem manipulations_gateEvents : manipulations (gateEvents env s) = [] := by
  unfold gateEvents
  split_ifs <;> rfl

@[simp] theorem manipulations_listenEvents : manipulations (listenEvents env) = [] := rfl

@[simp] theorem manipulations_inputEvents (x y z : StringEntry) :
    manipulations (DoResponseAction.inputEvents s s' s'' x y z) = [] := rfl

@[simp] theorem manipulations_comeEvents (human : List Double) :
    manipulations (DoResponseAction.comeEvents env s human) = [] := by
  unfold DoResponseAction.comeEvents
  split_ifs <;> rfl

@[simp] theorem manipulations_confirmEvents (x : StringEntry) :
    manipulations (DoResponseAction.confirmEvents r s x) = [] := by
  unfold DoResponseAction.confirmEvents
  split_ifs <;> rfl

end Quiet

-- ============================================================================
-- The tree between ticks
-- ============================================================================

namespace Activity

def fallback : Activity → ErgoTree
  | idle => .reactiveFallback .idle [idle.graspSequence, responseSequence]
  | running ready => .reactiveFallback .running [(running ready).graspSequence, responseSequence]

/-- The whole tree: idle, or as a tick leaves it that ends inside `GoGrasp`. -/
def tree : Activity → ErgoTree
  | idle => ergotree
  | running ready =>
      .reactiveSequence .running [
        .leaf .success .robotNavigating,
        poiSequence.setStatus .success,
        .leaf .success (.robotChangeFace .theHasBox .thePoi),
        (running ready).fallback]

/-- Both shapes have the same children, up to statuses that no tick reads. -/
theorem tree_eq (a : Activity) : ∃ st st₁ st₂ st₃, a.tree =
    .reactiveSequence st [.leaf st₁ .robotNavigating, poiSequence.setStatus st₂,
      .leaf st₃ (.robotChangeFace .theHasBox .thePoi), a.fallback] := by
  cases a with
  | idle => exact ⟨.idle, .idle, .idle, .idle, rfl⟩
  | running ready => exact ⟨.running, .success, .success, .success, rfl⟩

end Activity

/-- The memory once gaze and face follow the selected point of interest. -/
def Memory.perceive (m : Memory) (poi : Poi) (hasBox : String) : Memory :=
  { m with
    blackboard := m.blackboard.withPoi poi
    robotLookAtPOI := m.robotLookAtPOI.next poi.name
    robotChangeFace := m.robotChangeFace.next poi.name hasBox }

def perceptionEvents (env : Env) (m : Memory) (poi : Poi) (hasBox : String) : List Event :=
  .readNavigation env.navigation.getLast? ::
    (selectionEvents env (some hasBox) ++ (gazeEvents env m.robotLookAtPOI poi ++
      (.getInput .robotChangeFace .thePoi (some poi.name) ::
        .getInput .robotChangeFace .theHasBox (some hasBox) ::
        RobotChangeFace.emotionEvents env m.robotChangeFace poi.name hasBox)))

/-- The events of a tick with a closed gate, up to `DoResponseAction`. -/
def closedEvents (env : Env) (a : Activity) (m : Memory) (poi : Poi) (hasBox : String) :
    List Event :=
  perceptionEvents env m poi hasBox ++
    (gateEvents env poi.name ++ (a.haltEvents env 0 ++ listenEvents env))

/-- The events of a tick with an open gate, up to `GoGrasp`. -/
def openEvents (env : Env) (m : Memory) (poi : Poi) (hasBox : String) : List Event :=
  perceptionEvents env m poi hasBox ++
    (gateEvents env poi.name ++ [.checkString .theHasBox (some "no") "no"])

@[simp] theorem manipulations_perceptionEvents (env : Env) (m : Memory) (poi : Poi)
    (hasBox : String) : manipulations (perceptionEvents env m poi hasBox) = [] := by
  simp [perceptionEvents, Event.manipulation]

@[simp] theorem manipulations_openEvents (env : Env) (m : Memory) (poi : Poi)
    (hasBox : String) : manipulations (openEvents env m poi hasBox) = [] := by
  simp [openEvents, Event.manipulation]

/-- Only an abort calls the manipulation server before `DoResponseAction`. -/
@[simp] theorem manipulations_closedEvents (env : Env) (a : Activity) (m : Memory) (poi : Poi)
    (hasBox : String) :
    manipulations (closedEvents env a m poi hasBox) = manipulations (a.haltEvents env 0) := by
  simp [closedEvents]

@[simp] theorem manipulations_haltEvents (env : Env) (a : Activity) (k : Nat) :
    manipulations (a.haltEvents env k) =
      if a = .running false then
        [.performJointSpaceAction .goGrasp "home" (env.performJointSpaceAction k)]
      else [] := by
  match a with
  | .idle => rfl
  | .running false => rfl
  | .running true => rfl

-- ============================================================================
-- The parts of a tick
-- ============================================================================

/-- A robot on its way: the tick fails and everything is halted. -/
theorem tickRoot_navigating (hflag : a.Flag m) (hnav : env.navigating = true) :
    (a.tree.tickRoot (semantics env)).run ⟨m, []⟩ =
      .ok (.failure, ergotree)
        ⟨m, .readNavigation env.navigation.getLast? :: a.haltEvents env 0⟩ := by
  have hrun := RobotNavigating.tick_run (m := m) (l := []) env
  rw [if_pos hnav] at hrun
  have hfail := fun st => leaf_ok .robotNavigating st hrun
  cases a with
  | idle =>
      refine (tickRoot_ok (executeTick_sequence
        (tickSequence_failure (hfail .idle) (haltChildren_settled ?_)))).trans rfl
      simp [node, poiSequence]
  | running ready =>
      -- the halt goes down to `GoGrasp` through the nodes that store `RUNNING`
      have hgrasp := halt_sequence .running (haltChildren_grasp
        (l := [.readNavigation env.navigation.getLast?]) env hflag
        (show NodeStatus.success ≠ .running by decide))
      have hresponse : ∀ w, (haltChildren (semantics env) [responseSequence]).run w =
          .ok [responseSequence] w := fun w => haltChildren_settled (by simp [responseSequence])
      have hfallback := halt_fallback .running
        (haltChildren_running rfl hgrasp (hresponse _))
      have hnone : ∀ w, (haltChildren (semantics env) []).run w = .ok [] w := fun _ => rfl
      have hrest := haltChildren_settled_cons
        (show (Tree.leaf .success (.robotChangeFace .theHasBox .thePoi) : ErgoTree).status ≠
          .running by simp) (haltChildren_running rfl hfallback (hnone _))
      have hall := haltChildren_settled_cons
        (show (Tree.leaf .failure .robotNavigating : ErgoTree).status ≠ .running by simp)
        (haltChildren_settled_cons
          (show (poiSequence.setStatus .success).status ≠ .running by simp [poiSequence]) hrest)
      exact tickRoot_ok (executeTick_sequence (tickSequence_failure (hfail .success) hall))

/-- A detector that throws ends the tick. -/
theorem tickRoot_blind {e : Exception} (hnav : env.navigating = false)
    (hsel : selectPoi env m.blackboard.theHasBox = .error e) :
    (a.tree.tickRoot (semantics env)).run ⟨m, []⟩ =
      .error e ⟨m, .readNavigation env.navigation.getLast? ::
        selectionEvents env m.blackboard.theHasBox⟩ := by
  have hrun := RobotNavigating.tick_run (m := m) (l := []) env
  rw [hnav, if_neg Bool.false_ne_true] at hrun
  obtain ⟨st, st₁, st₂, st₃, htree⟩ := a.tree_eq
  rw [htree]
  exact tickRoot_error (executeTick_sequence_error
    ((tickSequence_success (leaf_ok .robotNavigating st₁ hrun)).trans
      (tickSequence_error (poiSequence_error hsel st₂))))

section Perceive

variable {poi : Poi} {hasBox : String} {w : World}

/-- Gaze and face are served before anything is grasped or answered. -/
theorem tickSequence_perceive (c : ErgoTree) (hnav : env.navigating = false)
    (hbox : m.blackboard.theHasBox = some hasBox) (hsel : selectPoi env (some hasBox) = .ok poi)
    (st₁ st₂ st₃ : NodeStatus) :
    (tickSequence (semantics env) [] [.leaf st₁ .robotNavigating, poiSequence.setStatus st₂,
      .leaf st₃ (.robotChangeFace .theHasBox .thePoi), c]).run ⟨m, []⟩ =
      (tickSequence (semantics env) [.leaf .success .robotNavigating,
        poiSequence.setStatus .success, .leaf .success (.robotChangeFace .theHasBox .thePoi)]
        [c]).run ⟨m.perceive poi hasBox, perceptionEvents env m poi hasBox⟩ := by
  have hfirst := RobotNavigating.tick_run (m := m) (l := []) env
  rw [hnav, if_neg Bool.false_ne_true] at hfirst
  rw [← hbox] at hsel
  have hpoi := poiSequence_ok (l := [.readNavigation env.navigation.getLast?]) hsel st₂
  have hface : ∀ l, (RobotChangeFace.tick env .thePoi .theHasBox).run
      ⟨{ m with
          blackboard := m.blackboard.withPoi poi
          robotLookAtPOI := m.robotLookAtPOI.next poi.name }, l⟩ =
      .ok .success ⟨m.perceive poi hasBox,
        l ++ [.getInput .robotChangeFace .thePoi (some poi.name),
          .getInput .robotChangeFace .theHasBox (some hasBox)] ++
          RobotChangeFace.emotionEvents env m.robotChangeFace poi.name hasBox⟩ :=
    fun l => RobotChangeFace.tick_run (by simp [Blackboard.get]) (by simp [Blackboard.get, hbox])
  refine (tickSequence_success (leaf_ok .robotNavigating st₁ hfirst)).trans ?_
  refine (tickSequence_success hpoi).trans ?_
  refine (tickSequence_success (leaf_ok (.robotChangeFace .theHasBox .thePoi) st₃ (hface _))).trans
    ?_
  simp [perceptionEvents, hbox]

/-- A tick that ends inside `GoGrasp`. -/
theorem tickRoot_running {ready : Bool} (hnav : env.navigating = false)
    (hbox : m.blackboard.theHasBox = some hasBox) (hsel : selectPoi env (some hasBox) = .ok poi)
    (h : (a.fallback.executeTick (semantics env)).run
      ⟨m.perceive poi hasBox, perceptionEvents env m poi hasBox⟩ =
        .ok (.running, (Activity.running ready).fallback) w) :
    (a.tree.tickRoot (semantics env)).run ⟨m, []⟩ =
      .ok (.running, (Activity.running ready).tree) w := by
  obtain ⟨st, st₁, st₂, st₃, htree⟩ := a.tree_eq
  rw [htree]
  have hnone : (haltChildren (semantics env) []).run w = .ok [] w := rfl
  exact tickRoot_ok (executeTick_sequence
    ((tickSequence_perceive a.fallback hnav hbox hsel st₁ st₂ st₃).trans
      (tickSequence_running h hnone)))

/-- A tick that is over leaves the tree idle. -/
theorem tickRoot_settled {r : TickStatus} (hnav : env.navigating = false)
    (hbox : m.blackboard.theHasBox = some hasBox) (hsel : selectPoi env (some hasBox) = .ok poi)
    (hr : r ≠ .running)
    (h : (a.fallback.executeTick (semantics env)).run
      ⟨m.perceive poi hasBox, perceptionEvents env m poi hasBox⟩ =
        .ok (r, Activity.idle.fallback.setStatus r.toNodeStatus) w) :
    (a.tree.tickRoot (semantics env)).run ⟨m, []⟩ = .ok (r, ergotree) w := by
  obtain ⟨st, st₁, st₂, st₃, htree⟩ := a.tree_eq
  rw [htree]
  have hbegin := tickSequence_perceive a.fallback hnav hbox hsel st₁ st₂ st₃
  cases r with
  | running => exact absurd rfl hr
  | success =>
      exact tickRoot_ok (executeTick_sequence (hbegin.trans ((tickSequence_success h).trans
        (tickSequence_nil (haltChildren_settled (by simp [poiSequence, Activity.fallback]))))))
  | failure =>
      exact tickRoot_ok (executeTick_sequence (hbegin.trans
        (tickSequence_failure h
          (haltChildren_settled (by simp [poiSequence, Activity.fallback])))))

theorem tickRoot_throws {e : Exception} (hnav : env.navigating = false)
    (hbox : m.blackboard.theHasBox = some hasBox) (hsel : selectPoi env (some hasBox) = .ok poi)
    (h : (a.fallback.executeTick (semantics env)).run
      ⟨m.perceive poi hasBox, perceptionEvents env m poi hasBox⟩ = .error e w) :
    (a.tree.tickRoot (semantics env)).run ⟨m, []⟩ = .error e w := by
  obtain ⟨st, st₁, st₂, st₃, htree⟩ := a.tree_eq
  rw [htree]
  exact tickRoot_error (executeTick_sequence_error
    ((tickSequence_perceive a.fallback hnav hbox hsel st₁ st₂ st₃).trans (tickSequence_error h)))

end Perceive

-- ============================================================================
-- Grasp or respond
-- ============================================================================

section Fallback

variable {poi : String} {w : World}

theorem Activity.fallback_eq (a : Activity) :
    ∃ st, a.fallback = .reactiveFallback st [a.graspSequence, responseSequence] := by
  cases a with
  | idle => exact ⟨.idle, rfl⟩
  | running ready => exact ⟨.running, rfl⟩

theorem fallback_open (ready : Bool) (hpoi : m.blackboard.thePoi = some "object")
    (hgrasp : env.graspable = true) (hbox : m.blackboard.theHasBox = some "no")
    (h : (GoGrasp.tick env .theHasBox a.status).run
      ⟨m, l ++ gateEvents env "object" ++ [.checkString .theHasBox (some "no") "no"]⟩ =
        .ok .running w) :
    (a.fallback.executeTick (semantics env)).run ⟨m, l⟩ =
      .ok (.running, (Activity.running ready).fallback) w := by
  obtain ⟨st, hfallback⟩ := a.fallback_eq
  rw [hfallback]
  exact executeTick_fallback (tickFallback_running (graspSequence_open ready hpoi hgrasp hbox h)
    (haltChildren_settled (by simp [responseSequence])))

theorem fallback_respond {r : TickStatus} (hflag : a.Flag m)
    (hpoi : m.blackboard.thePoi = some poi) (hclosed : graspGate env poi = false)
    (hr : r ≠ .running)
    (h : (respond env).run ⟨m.listen env, l ++ (gateEvents env poi ++
      (a.haltEvents env (motionCalls l) ++ listenEvents env))⟩ = .ok r w) :
    (a.fallback.executeTick (semantics env)).run ⟨m, l⟩ =
      .ok (r, Activity.idle.fallback.setStatus r.toNodeStatus) w := by
  rw [← List.append_assoc, ← List.append_assoc, List.append_assoc l] at h
  have hgrasp := graspSequence_closed (l := l) hflag hpoi hclosed
  have hrespond := responseSequence_ok hr h
  obtain ⟨st, hfallback⟩ := a.fallback_eq
  rw [hfallback]
  cases r with
  | running => exact absurd rfl hr
  | success =>
      exact executeTick_fallback ((tickFallback_failure hgrasp).trans
        (tickFallback_success hrespond
          (haltChildren_settled (by simp [graspSequence, responseSequence]))))
  | failure =>
      exact executeTick_fallback ((tickFallback_failure hgrasp).trans
        ((tickFallback_failure hrespond).trans
          (tickFallback_nil (haltChildren_settled (by simp [graspSequence, responseSequence])))))

theorem fallback_throws {e : Exception} (hflag : a.Flag m)
    (hpoi : m.blackboard.thePoi = some poi) (hclosed : graspGate env poi = false)
    (h : (respond env).run ⟨m.listen env, l ++ (gateEvents env poi ++
      (a.haltEvents env (motionCalls l) ++ listenEvents env))⟩ = .error e w) :
    (a.fallback.executeTick (semantics env)).run ⟨m, l⟩ = .error e w := by
  rw [← List.append_assoc, ← List.append_assoc, List.append_assoc l] at h
  obtain ⟨st, hfallback⟩ := a.fallback_eq
  rw [hfallback]
  exact executeTick_fallback_error
    ((tickFallback_failure (graspSequence_closed hflag hpoi hclosed)).trans
      (tickFallback_error (responseSequence_error h)))

end Fallback

-- ============================================================================
-- The eight ways of a tick
-- ============================================================================

/-- The memory after `DoResponseAction` found the last motion finished. -/
def Memory.respond (m : Memory) (env : Env) (hasBox : String) : Memory :=
  { m.listen env with
    doResponseAction := m.doResponseAction.next env.getAction env.focus hasBox
    blackboard :=
      if m.doResponseAction.confirms hasBox then (m.listen env).blackboard.set "no" .theHasBox
      else (m.listen env).blackboard }

def inputEvents (env : Env) (hasBox : String) : List Event :=
  DoResponseAction.inputEvents env.getAction env.focus hasBox .theAction .theFocus .theHasBox

/-- What `DoResponseAction` does once it has been told that the last motion is
    finished; an abort was a motion before it in this tick. -/
def respondEvents (env : Env) (a : Activity) (n : DoResponseAction) (hasBox : String)
    (human : List Double) : List Event :=
  DoResponseAction.comeEvents env env.getAction human ++
    (DoResponseAction.confirmEvents n hasBox .theHasBox ++
      DoResponseAction.sendEvents env n env.getAction env.focus hasBox
        (if a = .running false then 1 else 0))

/-- The record of a tick, by the way it went. -/
inductive TickCase (env : Env) (a : Activity) (m : Memory) (hasBox : String) :
    TickRecord → Prop where
  | navigating (hnav : env.navigating = true) :
      TickCase env a m hasBox
        { before := ⟨a.tree, m⟩, env
          trace := .readNavigation env.navigation.getLast? :: a.haltEvents env 0
          result := .ok .failure
          after := ⟨ergotree, m⟩ }
  | blind {e : Exception} (hnav : env.navigating = false)
      (hsel : selectPoi env (some hasBox) = .error e) :
      TickCase env a m hasBox
        { before := ⟨a.tree, m⟩, env
          trace := .readNavigation env.navigation.getLast? :: selectionEvents env (some hasBox)
          result := .error e
          after := ⟨a.tree, m⟩ }
  | start {p : List Double} (hnav : env.navigating = false)
      (hsel : selectPoi env (some hasBox) = .ok (.object p)) (hgrasp : env.graspable = true)
      (ha : a = .idle) :
      TickCase env a m hasBox
        { before := ⟨a.tree, m⟩, env
          trace := openEvents env m (.object p) hasBox ++
            [.onStart, .performJointSpaceAction .goGrasp "ready" (env.performJointSpaceAction 0)]
          result := .ok .running
          after := ⟨(Activity.running false).tree,
            { m.perceive (.object p) hasBox with goGrasp := { ready := some false } }⟩ }
  | grasp {p : List Double} (hnav : env.navigating = false)
      (hsel : selectPoi env (some hasBox) = .ok (.object p)) (hgrasp : env.graspable = true)
      (ha : a = .running false) (hfin : env.isFinished 0 = true) :
      TickCase env a m hasBox
        { before := ⟨a.tree, m⟩, env
          trace := openEvents env m (.object p) hasBox ++
            [.onRunning, .isFinished .goGrasp true, .setOutput .goGrasp .theHasBox "yes",
              .performJointSpaceAction .goGrasp "bottom_grasp" (env.performJointSpaceAction 0)]
          result := .ok .running
          after := ⟨(Activity.running true).tree,
            { m.perceive (.object p) hasBox with
              goGrasp := { ready := some true }
              blackboard := (m.perceive (.object p) hasBox).blackboard.set "yes" .theHasBox }⟩ }
  | wait {p : List Double} (hnav : env.navigating = false)
      (hsel : selectPoi env (some hasBox) = .ok (.object p)) (hgrasp : env.graspable = true)
      (ha : a = .running false) (hfin : env.isFinished 0 = false) :
      TickCase env a m hasBox
        { before := ⟨a.tree, m⟩, env
          trace := openEvents env m (.object p) hasBox ++
            [.onRunning, .isFinished .goGrasp false, .isFinished .goGrasp (env.isFinished 1)]
          result := .ok .running
          after := ⟨(Activity.running false).tree, m.perceive (.object p) hasBox⟩ }
  | unfinished {poi : Poi} (hnav : env.navigating = false)
      (hsel : selectPoi env (some hasBox) = .ok poi) (hclosed : graspGate env poi.name = false)
      (hfin : env.isFinished 0 = false) :
      TickCase env a m hasBox
        { before := ⟨a.tree, m⟩, env
          trace := closedEvents env a m poi hasBox ++
            (inputEvents env hasBox ++ [.isFinished .doResponseAction false])
          result := .ok .failure
          after := ⟨ergotree, (m.perceive poi hasBox).listen env⟩ }
  | respond {poi : Poi} {human : List Double} (hnav : env.navigating = false)
      (hsel : selectPoi env (some hasBox) = .ok poi) (hclosed : graspGate env poi.name = false)
      (hfin : env.isFinished 0 = true)
      (hhuman : env.getAction = "come" → position env.getHumanPosition = some human) :
      TickCase env a m hasBox
        { before := ⟨a.tree, m⟩, env
          trace := closedEvents env a m poi hasBox ++
            (inputEvents env hasBox ++ .isFinished .doResponseAction true ::
              respondEvents env a m.doResponseAction hasBox human)
          result := .ok
            (if (m.doResponseAction.command env.getAction env.focus hasBox).isSome then .success
            else .failure)
          after := ⟨ergotree, (m.perceive poi hasBox).respond env hasBox⟩ }
  | comeShort {poi : Poi} (hnav : env.navigating = false)
      (hsel : selectPoi env (some hasBox) = .ok poi) (hclosed : graspGate env poi.name = false)
      (hfin : env.isFinished 0 = true) (haction : env.getAction = "come")
      (hhuman : position env.getHumanPosition = none) :
      TickCase env a m hasBox
        { before := ⟨a.tree, m⟩, env
          trace := closedEvents env a m poi hasBox ++
            (inputEvents env hasBox ++ [.isFinished .doResponseAction true,
              .getHumanPosition env.getHumanPosition])
          result := .error .outOfBounds
          after := ⟨a.tree, (m.perceive poi hasBox).listen env⟩ }

section Respond

variable {hasBox : String}

theorem respond_unfinished (hbox : m.blackboard.theHasBox = some hasBox)
    (hfin : env.isFinished (finishedCalls l) = false) :
    (respond env).run ⟨m.listen env, l⟩ =
      .ok .failure ⟨m.listen env,
        l ++ (inputEvents env hasBox ++ [.isFinished .doResponseAction false])⟩ :=
  DoResponseAction.tick_unfinished rfl rfl hbox hfin

theorem respond_comeShort (hbox : m.blackboard.theHasBox = some hasBox)
    (hfin : env.isFinished (finishedCalls l) = true) (haction : env.getAction = "come")
    (hhuman : position env.getHumanPosition = none) :
    (respond env).run ⟨m.listen env, l⟩ =
      .error .outOfBounds ⟨m.listen env,
        l ++ (inputEvents env hasBox ++ [.isFinished .doResponseAction true,
          .getHumanPosition env.getHumanPosition])⟩ := by
  have hget : (m.listen env).blackboard.get .theAction = some "come" := by
    simp [Memory.listen, Blackboard.set, Blackboard.get, haction]
  unfold inputEvents
  rw [haction]
  exact DoResponseAction.tick_come_short hget rfl hbox hfin hhuman

theorem respond_finished {human : List Double} (hbox : m.blackboard.theHasBox = some hasBox)
    (hfin : env.isFinished (finishedCalls l) = true)
    (hhuman : env.getAction = "come" → position env.getHumanPosition = some human)
    (hcalls : motionCalls l = if a = .running false then 1 else 0) :
    (respond env).run ⟨m.listen env, l⟩ =
      .ok (if (m.doResponseAction.command env.getAction env.focus hasBox).isSome then .success
          else .failure)
        ⟨m.respond env hasBox, l ++ (inputEvents env hasBox ++
          .isFinished .doResponseAction true ::
            respondEvents env a m.doResponseAction hasBox human)⟩ := by
  unfold respondEvents
  rw [← hcalls]
  exact DoResponseAction.tick_finished rfl rfl hbox hfin hhuman

end Respond

section Counts

variable {poi : Poi} {hasBox : String}

theorem finishedCalls_closedEvents : finishedCalls (closedEvents env a m poi hasBox) = 0 := by
  rw [← finishedCalls_manipulations, manipulations_closedEvents, manipulations_haltEvents]
  split <;> rfl

theorem motionCalls_closedEvents :
    motionCalls (closedEvents env a m poi hasBox) = if a = .running false then 1 else 0 := by
  rw [← motionCalls_manipulations, manipulations_closedEvents, manipulations_haltEvents]
  split <;> rfl

theorem finishedCalls_openEvents : finishedCalls (openEvents env m poi hasBox) = 0 := by
  rw [← finishedCalls_manipulations, manipulations_openEvents]
  rfl

theorem motionCalls_openEvents : motionCalls (openEvents env m poi hasBox) = 0 := by
  rw [← motionCalls_manipulations, manipulations_openEvents]
  rfl

theorem motionCalls_perceptionEvents :
    motionCalls (perceptionEvents env m poi hasBox) = 0 := by
  rw [← motionCalls_manipulations, manipulations_perceptionEvents]
  rfl

end Counts

theorem tickRoot_ok_eq {env : Env} {s : State} {r : TickStatus} {t : ErgoTree} {w : World}
    (h : (s.tree.tickRoot (semantics env)).run ⟨s.memory, []⟩ = .ok (r, t) w) :
    ErgoCubBehavior.tickRoot env s =
      { before := s, env, trace := w.log, result := .ok r, after := ⟨t, w.memory⟩ } := by
  simp only [ErgoCubBehavior.tickRoot, h]

theorem tickRoot_error_eq {env : Env} {s : State} {e : Exception} {w : World}
    (h : (s.tree.tickRoot (semantics env)).run ⟨s.memory, []⟩ = .error e w) :
    ErgoCubBehavior.tickRoot env s =
      { before := s, env, trace := w.log, result := .error e, after := ⟨s.tree, w.memory⟩ } := by
  simp only [ErgoCubBehavior.tickRoot, h]

/-- An object is selected only while the hands are free. -/
theorem hasBox_of_object {hasBox : String} {p : List Double}
    (hsel : selectPoi env (some hasBox) = .ok (.object p)) : hasBox = "no" := by
  rcases selectPoi_cases hsel with ⟨q, -, hno, -⟩ | ⟨-, ⟨q, hq, -⟩ | ⟨hq, -⟩⟩
  · exact Option.some.inj hno
  · cases hq
  · cases hq

/-- A tick with an open gate does what `GoGrasp` does. -/
theorem tickRoot_open {hasBox : String} {p : List Double} {w : World} (ready : Bool)
    (hnav : env.navigating = false) (hbox : m.blackboard.theHasBox = some hasBox)
    (hsel : selectPoi env (some hasBox) = .ok (.object p)) (hgrasp : env.graspable = true)
    (h : (GoGrasp.tick env .theHasBox a.status).run
      ⟨m.perceive (.object p) hasBox, openEvents env m (.object p) hasBox⟩ = .ok .running w) :
    ErgoCubBehavior.tickRoot env ⟨a.tree, m⟩ =
      { before := ⟨a.tree, m⟩, env, trace := w.log, result := .ok .running
        after := ⟨(Activity.running ready).tree, w.memory⟩ } := by
  have hno := hasBox_of_object hsel
  subst hno
  rw [openEvents, ← List.append_assoc] at h
  exact tickRoot_ok_eq (tickRoot_running hnav hbox hsel (fallback_open ready rfl hgrasp hbox h))

section Closed

variable {hasBox : String} {poi : Poi} {w : World}

theorem closedEvents_eq : closedEvents env a m poi hasBox =
    perceptionEvents env m poi hasBox ++ (gateEvents env poi.name ++
      (a.haltEvents env (motionCalls (perceptionEvents env m poi hasBox)) ++
        listenEvents env)) := by
  rw [motionCalls_perceptionEvents, closedEvents]

theorem Activity.flag_perceive (hflag : a.Flag m) : a.Flag (m.perceive poi hasBox) := by
  cases a <;> exact hflag

/-- A tick with a closed gate does what `DoResponseAction` does. -/
theorem tickRoot_closed {r : TickStatus} (hnav : env.navigating = false)
    (hbox : m.blackboard.theHasBox = some hasBox) (hflag : a.Flag m)
    (hsel : selectPoi env (some hasBox) = .ok poi) (hclosed : graspGate env poi.name = false)
    (hr : r ≠ .running)
    (h : (ErgoCubBehavior.respond env).run
      ⟨(m.perceive poi hasBox).listen env, closedEvents env a m poi hasBox⟩ = .ok r w) :
    ErgoCubBehavior.tickRoot env ⟨a.tree, m⟩ =
      { before := ⟨a.tree, m⟩, env, trace := w.log, result := .ok r
        after := ⟨ergotree, w.memory⟩ } := by
  rw [closedEvents_eq] at h
  exact tickRoot_ok_eq (tickRoot_settled hnav hbox hsel hr
    (fallback_respond (Activity.flag_perceive hflag) (by simp [Memory.perceive]) hclosed hr h))

theorem tickRoot_closed_throws {e : Exception} (hnav : env.navigating = false)
    (hbox : m.blackboard.theHasBox = some hasBox) (hflag : a.Flag m)
    (hsel : selectPoi env (some hasBox) = .ok poi) (hclosed : graspGate env poi.name = false)
    (h : (ErgoCubBehavior.respond env).run
      ⟨(m.perceive poi hasBox).listen env, closedEvents env a m poi hasBox⟩ = .error e w) :
    ErgoCubBehavior.tickRoot env ⟨a.tree, m⟩ =
      { before := ⟨a.tree, m⟩, env, trace := w.log, result := .error e
        after := ⟨a.tree, w.memory⟩ } := by
  rw [closedEvents_eq] at h
  exact tickRoot_error_eq (tickRoot_throws hnav hbox hsel
    (fallback_throws (Activity.flag_perceive hflag) (by simp [Memory.perceive]) hclosed h))

end Closed

theorem tickCase_open {hasBox : String} {p : List Double} (hnav : env.navigating = false)
    (hbox : m.blackboard.theHasBox = some hasBox) (hflag : a.Flag m)
    (hheld : a = .running true → hasBox = "yes")
    (hsel : selectPoi env (some hasBox) = .ok (.object p)) (hgrasp : env.graspable = true) :
    TickCase env a m hasBox (ErgoCubBehavior.tickRoot env ⟨a.tree, m⟩) := by
  match a, hflag, hheld with
  | .idle, _, _ =>
      rw [tickRoot_open false hnav hbox hsel hgrasp GoGrasp.onStart_run]
      simp only [motionCalls_openEvents]
      exact .start hnav hsel hgrasp rfl
  | .running false, hflag, _ =>
      have hready : (m.perceive (.object p) hasBox).goGrasp.ready = some false := hflag
      cases hfin : env.isFinished 0 with
      | true =>
          have hcall : env.isFinished (finishedCalls (openEvents env m (.object p) hasBox)) =
              true := by
            rw [finishedCalls_openEvents, hfin]
          rw [tickRoot_open true hnav hbox hsel hgrasp (GoGrasp.onRunning_grasp hready hcall)]
          simp only [motionCalls_openEvents]
          exact .grasp hnav hsel hgrasp rfl hfin
      | false =>
          have hcall : env.isFinished (finishedCalls (openEvents env m (.object p) hasBox)) =
              false := by
            rw [finishedCalls_openEvents, hfin]
          rw [tickRoot_open false hnav hbox hsel hgrasp (GoGrasp.onRunning_wait hready hcall)]
          simp only [finishedCalls_openEvents]
          exact .wait hnav hsel hgrasp rfl hfin
  | .running true, _, hheld =>
      -- the box is held, so no object can have been selected
      have hyes := hheld rfl
      rw [hasBox_of_object hsel] at hyes
      exact absurd hyes (by decide)

theorem tickCase_closed {hasBox : String} {poi : Poi} (hnav : env.navigating = false)
    (hbox : m.blackboard.theHasBox = some hasBox) (hflag : a.Flag m)
    (hsel : selectPoi env (some hasBox) = .ok poi) (hclosed : graspGate env poi.name = false) :
    TickCase env a m hasBox (ErgoCubBehavior.tickRoot env ⟨a.tree, m⟩) := by
  have hbox' : (m.perceive poi hasBox).blackboard.theHasBox = some hasBox := by
    simp [Memory.perceive, hbox]
  have hcalls : env.isFinished (finishedCalls (closedEvents env a m poi hasBox)) =
      env.isFinished 0 := by
    rw [finishedCalls_closedEvents]
  cases hfin : env.isFinished 0 with
  | false =>
      rw [hfin] at hcalls
      rw [tickRoot_closed hnav hbox hflag hsel hclosed (by simp) (respond_unfinished hbox' hcalls)]
      exact .unfinished hnav hsel hclosed hfin
  | true =>
      rw [hfin] at hcalls
      by_cases hshort : env.getAction = "come" ∧ position env.getHumanPosition = none
      · obtain ⟨haction, hhuman⟩ := hshort
        rw [tickRoot_closed_throws hnav hbox hflag hsel hclosed
          (respond_comeShort hbox' hcalls haction hhuman)]
        exact .comeShort hnav hsel hclosed hfin haction hhuman
      · obtain ⟨human, hhuman⟩ : ∃ human, env.getAction = "come" →
            position env.getHumanPosition = some human := by
          cases hp : position env.getHumanPosition with
          | none => exact ⟨[], fun haction => absurd ⟨haction, hp⟩ hshort⟩
          | some human => exact ⟨human, fun _ => rfl⟩
        rw [tickRoot_closed hnav hbox hflag hsel hclosed (by split <;> simp)
          (respond_finished hbox' hcalls hhuman motionCalls_closedEvents)]
        exact .respond hnav hsel hclosed hfin hhuman

/-- Every tick goes one of the eight ways. -/
theorem tickRoot_cases {hasBox : String} (env : Env)
    (hbox : m.blackboard.theHasBox = some hasBox) (hflag : a.Flag m)
    (hheld : a = .running true → hasBox = "yes") :
    TickCase env a m hasBox (ErgoCubBehavior.tickRoot env ⟨a.tree, m⟩) := by
  cases hnav : env.navigating with
  | true =>
      rw [tickRoot_ok_eq (tickRoot_navigating hflag hnav)]
      exact .navigating hnav
  | false =>
    cases hsel : selectPoi env (some hasBox) with
    | error e =>
        rw [tickRoot_error_eq (tickRoot_blind hnav (hbox ▸ hsel)), hbox]
        exact .blind hnav hsel
    | ok poi =>
      cases hgate : graspGate env poi.name with
      | true =>
          obtain ⟨hobject, hgrasp⟩ : poi.name = "object" ∧ env.graspable = true := by
            simpa [graspGate] using hgate
          cases poi with
          | none => simp [Poi.name] at hobject
          | face p => simp [Poi.name] at hobject
          | object p => exact tickCase_open hnav hbox hflag hheld hsel hgrasp
      | false => exact tickCase_closed hnav hbox hflag hsel hgate

/-- The guards of the eight ways exclude each other, so that the answers determine
    the record. -/
theorem TickCase.unique {hasBox : String} {t t' : TickRecord} (h : TickCase env a m hasBox t)
    (h' : TickCase env a m hasBox t') : t = t' := by
  -- an object in reach does not leave the gate closed
  have hgate : ∀ p, env.graspable = true → graspGate env (Poi.object p).name = true := by
    intro p hgrasp
    simp [graspGate, Poi.name, hgrasp]
  cases h <;> cases h' <;> simp_all
  case respond.respond hsel _ hhuman _ _ _ _ =>
      by_cases hcome : env.getAction = "come"
      · rw [hhuman hcome]
      · simp [respondEvents, DoResponseAction.comeEvents, hcome]
  all_goals
    subst_vars
    simp_all

end ErgoCubBehavior
