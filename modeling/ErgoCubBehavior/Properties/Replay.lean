/-
  ErgoCubBehavior.Properties.Replay

  The log of a tick says all there is to know about it.  An environment that would
  give the answers in the log makes the same tick of it, from any state whatever,
  reachable or not; so runs with the same logs are the same run.

  * `tick_follows` — every node, and with them the tree, only learns what is logged;
  * `tick_replayed` — a tick under an environment that agrees with its log;
  * `run_replayed` — runs in which the services were asked and answered the same.
-/

import ErgoCubBehavior.Lib.Replay
import ErgoCubBehavior.Tick.Nodes

namespace ErgoCubBehavior

open BehaviorTree Binary64 Replay

-- ============================================================================
-- Agreement
-- ============================================================================

/-- The answer in an event is the one the environment gives there, after these events
    of the tick. -/
def Env.gives (env : Env) (before : List Event) : Event → Prop
  | .readNavigation status => env.navigation.getLast? = status
  | .getCenter answer => env.getCenter = answer
  | .getFacePosition answer => env.getFacePosition = answer
  | .getDistance answer => env.getDistance = answer
  | .isFocused answer => env.isFocused = answer
  | .getAction answer => env.getAction = answer
  | .getHumanPosition answer => env.getHumanPosition = answer
  | .isFinished _ answer => env.isFinished (finishedCalls before) = answer
  | .performJointSpaceAction _ _ answer =>
      env.performJointSpaceAction (motionCalls before) = answer
  | .lookAt _ answer => env.lookAt = answer
  | .setGain _ answer => env.setGain = answer
  | .setEmotion _ answer => env.setEmotion = answer
  | _ => True

/-- The environment would give every answer of the log. -/
inductive Env.Agrees (env : Env) : List Event → Prop where
  | nil : Env.Agrees env []
  | concat {l : List Event} {e : Event} :
      Env.Agrees env l → env.gives l e → Env.Agrees env (l ++ [e])

theorem Env.agrees_concat {env : Env} {l : List Event} {e : Event} :
    env.Agrees (l ++ [e]) ↔ env.Agrees l ∧ env.gives l e := by
  constructor
  · intro h
    generalize hk : l ++ [e] = k at h
    cases h with
    | nil => simp at hk
    | @concat l' e' h he =>
        obtain ⟨rfl, heq⟩ := List.append_inj' hk rfl
        obtain rfl := List.singleton_inj.mp heq
        exact ⟨h, he⟩
  · rintro ⟨h, he⟩
    exact .concat h he

-- ============================================================================
-- Exchanges
-- ============================================================================

/-- A service was asked, and has answered. -/
def Event.answered : Event → Bool
  | .readNavigation _ | .getCenter _ | .getFacePosition _ | .getDistance _ | .isFocused _
  | .getAction _ | .getHumanPosition _ | .isFinished .. | .performJointSpaceAction ..
  | .lookAt .. | .setGain .. | .setEmotion .. => true
  | _ => false

/-- What was asked and answered, without what a tick does by itself. -/
def exchanges (l : List Event) : List Event :=
  l.filter Event.answered

theorem exchanges_concat (l : List Event) (e : Event) :
    exchanges (l ++ [e]) = exchanges l ++ if e.answered then [e] else [] := by
  rw [exchanges, List.filter_append, exchanges]
  cases he : e.answered <;> simp [he]

theorem finishedCalls_exchanges (l : List Event) :
    finishedCalls (exchanges l) = finishedCalls l := by
  rw [exchanges, finishedCalls, List.countP_filter, finishedCalls]
  congr 1
  funext e
  cases e <;> rfl

theorem motionCalls_exchanges (l : List Event) : motionCalls (exchanges l) = motionCalls l := by
  rw [exchanges, motionCalls, List.countP_filter, motionCalls]
  congr 1
  funext e
  cases e <;> rfl

theorem gives_exchanges (env : Env) (l : List Event) (e : Event) :
    env.gives (exchanges l) e ↔ env.gives l e := by
  cases e with
  | isFinished | performJointSpaceAction =>
      simp only [Env.gives, finishedCalls_exchanges, motionCalls_exchanges]
  | _ => exact Iff.rfl

/-- Only what was asked and answered can disagree with an environment. -/
theorem agrees_exchanges (env : Env) (l : List Event) :
    env.Agrees (exchanges l) ↔ env.Agrees l := by
  induction l using List.reverseRecOn with
  | nil => exact Iff.rfl
  | append_singleton l e ih =>
      rw [exchanges_concat, Env.agrees_concat]
      cases he : e.answered with
      | true => rw [if_pos rfl, Env.agrees_concat, ih, gives_exchanges]
      | false =>
          have hfree : env.gives l e := by
            cases e <;> trivial
          rw [if_neg Bool.false_ne_true, List.append_nil, ih]
          exact (and_iff_left hfree).symm

-- ============================================================================
-- Calls
-- ============================================================================

variable {env env' : Env}

/-- `y` follows `x` where the log of `x` agrees with `env'`. -/
abbrev Learns (env' : Env) {α : Type} (x y : TickM α) : Prop :=
  Follows (fun w : World => env'.Agrees w.log) x y

/-- An event without an answer. -/
theorem learns_log (e : Event) (he : ∀ l, env'.gives l e) : Learns env' (log e) (log e) :=
  .modify fun w => ⟨fun h => (Env.agrees_concat.mp h).1, fun h => h.concat (he w.log)⟩

theorem learns_memory (f : Memory → Memory) : Learns env' (modifyMemory f) (modifyMemory f) :=
  .modify fun _ => Iff.rfl

/-- A call, under two environments that agree on its answer. -/
theorem learns_call {α : Type} {x y : TickM α} (e e' : List Event → Event)
    (a a' : List Event → α)
    (hx : ∀ w, x.run w = .ok (a w.log) ⟨w.memory, w.log ++ [e w.log]⟩)
    (hy : ∀ w, y.run w = .ok (a' w.log) ⟨w.memory, w.log ++ [e' w.log]⟩)
    (hgives : ∀ l, env'.gives l (e' l))
    (hsame : ∀ l, env'.gives l (e l) → e' l = e l ∧ a' l = a l) : Learns env' x y where
  back w hw := by
    rw [hx] at hw
    exact (Env.agrees_concat.mp hw).1
  forth w hw := by
    rw [hy]
    exact hw.concat (hgives w.log)
  run_eq w hw := by
    rw [hx] at hw
    obtain ⟨he, ha⟩ := hsame w.log (Env.agrees_concat.mp hw).2
    rw [hx, hy, he, ha]

/-- A call with one answer a tick. -/
theorem learns_answer {α : Type} (e : α → Event) {a a' : α}
    (h : ∀ l b, env'.gives l (e b) ↔ a' = b) : Learns env' (call (e a) a) (call (e a') a') := by
  refine learns_call (fun _ => e a) (fun _ => e a') (fun _ => a) (fun _ => a') (fun _ => rfl)
    (fun _ => rfl) (fun l => (h l a').mpr rfl) fun l hl => ?_
  rw [(h l a).mp hl]
  exact ⟨rfl, rfl⟩

theorem learns_isFinished (client : Node) :
    Learns env' (isFinished env client) (isFinished env' client) := by
  refine learns_call (fun l => .isFinished client (env.isFinished (finishedCalls l)))
    (fun l => .isFinished client (env'.isFinished (finishedCalls l)))
    (fun l => env.isFinished (finishedCalls l)) (fun l => env'.isFinished (finishedCalls l))
    (fun _ => rfl) (fun _ => rfl) (fun _ => rfl) fun l hl => ?_
  have hsame : env'.isFinished (finishedCalls l) = env.isFinished (finishedCalls l) := hl
  exact ⟨by rw [hsame], hsame⟩

theorem learns_performJointSpaceAction (client : Node) (actionName : String) :
    Learns env' (performJointSpaceAction env client actionName)
      (performJointSpaceAction env' client actionName) := by
  refine learns_call (fun l => .performJointSpaceAction client actionName
      (env.performJointSpaceAction (motionCalls l)))
    (fun l => .performJointSpaceAction client actionName
      (env'.performJointSpaceAction (motionCalls l)))
    (fun l => env.performJointSpaceAction (motionCalls l))
    (fun l => env'.performJointSpaceAction (motionCalls l)) (fun _ => rfl) (fun _ => rfl)
    (fun _ => rfl) fun l hl => ?_
  have hsame : env'.performJointSpaceAction (motionCalls l) =
    env.performJointSpaceAction (motionCalls l) := hl
  exact ⟨by rw [hsame], hsame⟩

theorem learns_getInput (reader : Node) (entry : StringEntry) :
    Learns env' (getInput reader entry) (getInput reader entry) :=
  Follows.bind .get fun w =>
    (learns_log (.getInput reader entry (w.memory.blackboard.get entry)) fun _ => trivial).bind
      fun _ => .pure _

theorem learns_getInputVector (reader : Node) (entry : VectorEntry) :
    Learns env' (getInputVector reader entry) (getInputVector reader entry) :=
  Follows.bind .get fun w =>
    (learns_log (.getInputVector reader entry (w.memory.blackboard.getVector entry))
      fun _ => trivial).bind fun _ => .pure _

theorem learns_setOutput (writer : Node) (entry : StringEntry) (value : String) :
    Learns env' (setOutput writer entry value) (setOutput writer entry value) :=
  (learns_memory _).bind fun _ => learns_log (.setOutput writer entry value) fun _ => trivial

theorem learns_setOutputVector (writer : Node) (entry : VectorEntry) (value : List Double) :
    Learns env' (setOutputVector writer entry value) (setOutputVector writer entry value) :=
  (learns_memory _).bind fun _ => learns_log (.setOutputVector writer entry value) fun _ => trivial

theorem learns_copyPosition (position : List Double) :
    Learns env' (copyPosition position) (copyPosition position) := by
  have helement : ∀ i, Learns env' (elementAt position i) (elementAt position i) := by
    intro i
    unfold elementAt
    split
    · exact .pure _
    · exact .throw _
  exact (helement 0).bind fun _ => (helement 1).bind fun _ => (helement 2).bind fun _ => .pure _

-- ============================================================================
-- Nodes
-- ============================================================================

theorem learns_robotNavigating :
    Learns env' (RobotNavigating.tick env) (RobotNavigating.tick env') := by
  unfold RobotNavigating.tick readNavigation
  refine (learns_answer .readNavigation fun _ _ => Iff.rfl).bind fun data => ?_
  split <;> exact .pure _

theorem learns_publishPosition (detector : Node) (poi : StringEntry) (poiPos : VectorEntry)
    (name what : String) (answer : List Double) :
    Learns env' (publishPosition detector poi poiPos name what answer)
      (publishPosition detector poi poiPos name what answer) := by
  unfold publishPosition
  refine (learns_copyPosition answer).bind fun position => ?_
  dsimp only
  have hpoi : Learns env' (setOutput detector poi name) (setOutput detector poi name) :=
    learns_setOutput detector poi name
  have hpublish := hpoi.bind fun _ =>
    (learns_setOutputVector detector poiPos position).bind fun _ => Follows.pure TickStatus.success
  exact .ite (Follows.bind (.throw _) fun _ => .ite (.pure _) hpublish)
    (Follows.bind (.pure _) fun _ => .ite (.pure _) hpublish)

theorem learns_boxDetected (poi : StringEntry) (poiPos : VectorEntry) :
    Learns env' (BoxDetected.tick env poi poiPos) (BoxDetected.tick env' poi poiPos) := by
  unfold BoxDetected.tick getCenter
  refine (learns_answer .getCenter fun _ _ => Iff.rfl).bind fun answer => ?_
  exact learns_publishPosition _ _ _ _ _ answer

theorem learns_faceDetected (poi : StringEntry) (poiPos : VectorEntry) :
    Learns env' (FaceDetected.tick env poi poiPos) (FaceDetected.tick env' poi poiPos) := by
  unfold FaceDetected.tick getFacePosition
  refine (learns_answer .getFacePosition fun _ _ => Iff.rfl).bind fun answer => ?_
  exact learns_publishPosition _ _ _ _ _ answer

theorem learns_objectIsGraspable :
    Learns env' (ObjectIsGraspable.tick env) (ObjectIsGraspable.tick env') := by
  unfold ObjectIsGraspable.tick getDistance
  refine (learns_answer .getDistance fun _ _ => Iff.rfl).bind fun distance => ?_
  exact .ite (.pure _) (.pure _)

theorem learns_focusDetected (focus : StringEntry) :
    Learns env' (FocusDetected.tick env focus) (FocusDetected.tick env' focus) := by
  unfold FocusDetected.tick isFocused
  refine (learns_answer .isFocused fun _ _ => Iff.rfl).bind fun focused => ?_
  dsimp only
  exact .ite ((learns_setOutput _ _ _).bind fun _ => .pure _)
    ((learns_setOutput _ _ _).bind fun _ => .pure _)

theorem learns_actionDetected (action : StringEntry) :
    Learns env' (ActionDetected.tick env action) (ActionDetected.tick env' action) := by
  unfold ActionDetected.tick getAction
  refine (learns_answer .getAction fun _ _ => Iff.rfl).bind fun answer => ?_
  exact (learns_setOutput _ _ _).bind fun _ => .pure _

theorem learns_robotLookAtPOI (poi : StringEntry) (poiPos : VectorEntry) :
    Learns env' (RobotLookAtPOI.tick env poi poiPos) (RobotLookAtPOI.tick env' poi poiPos) := by
  unfold RobotLookAtPOI.tick
  refine (learns_getInput _ _).bind fun poi => ?_
  cases poi with
  | none => exact .throw _
  | some poi =>
    dsimp only
    have hgain : ∀ gain, Learns env' (setGain env gain) (setGain env' gain) := fun gain =>
      learns_answer (.setGain gain) fun _ _ => Iff.rfl
    have hlook : ∀ point, Learns env' (lookAt env point) (lookAt env' point) := fun point =>
      learns_answer (.lookAt point) fun _ _ => Iff.rfl
    refine .ite (Follows.bind .get fun w => ?_) (Follows.bind .get fun w => ?_)
    · refine .ite ((hgain _).bind fun _ => (learns_memory _).bind fun _ => ?_) ?_
      all_goals
        refine (learns_memory _).bind fun _ => (learns_getInputVector _ _).bind fun poiPos => ?_
        cases poiPos with
        | none => exact Follows.bind (.throw _) fun _ => .pure _
        | some poiPos =>
            exact (learns_copyPosition _).bind fun _ => (hlook _).bind fun _ => .pure _
    · refine .ite ((hgain _).bind fun _ => (learns_memory _).bind fun _ => ?_) ?_
      all_goals
        refine Follows.bind .get fun _ => (learns_memory _).bind fun _ => Follows.bind .get fun _ => ?_
        exact .ite ((hlook _).bind fun _ => .pure _) (.pure _)

theorem learns_robotChangeFace (poi hasBox : StringEntry) :
    Learns env' (RobotChangeFace.tick env poi hasBox) (RobotChangeFace.tick env' poi hasBox) := by
  unfold RobotChangeFace.tick
  refine (learns_getInput _ _).bind fun msg => ?_
  cases msg with
  | none => exact .throw _
  | some msg =>
    refine (learns_getInput _ _).bind fun hasBox => ?_
    cases hasBox with
    | none => exact .throw _
    | some hasBox =>
      have hsend : ∀ emotion tag, Learns env' (RobotChangeFace.send env emotion tag)
          (RobotChangeFace.send env' emotion tag) := by
        intro emotion tag
        unfold RobotChangeFace.send
        exact Follows.bind (learns_answer (.setEmotion emotion) fun _ _ => Iff.rfl) fun _ =>
          learns_memory _
      have hdone : ∀ emotion tag, Learns env'
          (RobotChangeFace.send env emotion tag >>= fun _ => pure TickStatus.success)
          (RobotChangeFace.send env' emotion tag >>= fun _ => pure TickStatus.success) :=
        fun emotion tag => (hsend emotion tag).bind fun _ => .pure _
      refine Follows.bind .get fun w => ?_
      exact .ite (hdone _ _) (.ite (hdone _ _) (.ite (hdone _ _) (.ite (hdone _ _) (.pure _))))

theorem learns_sendHumanPosition :
    Learns env' (DoResponseAction.sendHumanPosition env)
      (DoResponseAction.sendHumanPosition env') := by
  unfold DoResponseAction.sendHumanPosition getHumanPosition
  exact (learns_answer .getHumanPosition fun _ _ => Iff.rfl).bind fun _ =>
    (learns_copyPosition _).bind fun b => learns_log (.writePose b) fun _ => trivial

theorem learns_hasBoxCommands (action focus : String) (hasBoxOut : StringEntry) :
    Learns env' (DoResponseAction.hasBoxCommands env action focus hasBoxOut)
      (DoResponseAction.hasBoxCommands env' action focus hasBoxOut) := by
  unfold DoResponseAction.hasBoxCommands
  dsimp only
  refine Follows.bind .get fun w => .ite ((learns_setOutput _ _ _).bind fun _ =>
    (learns_memory _).bind fun _ => .ite (Follows.bind .get fun w => ?_) (.pure _))
    (.ite (Follows.bind .get fun w => ?_) (.pure _))
  all_goals
    refine .ite ?_ (.pure _)
    exact (learns_performJointSpaceAction _ _).bind fun _ => (learns_memory _).bind fun _ =>
      (learns_memory _).bind fun _ => .pure _

theorem learns_hriCommands (action focus : String) :
    Learns env' (DoResponseAction.hriCommands env action focus)
      (DoResponseAction.hriCommands env' action focus) := by
  have hsend : ∀ actionName tag, Learns env'
      (performJointSpaceAction env .doResponseAction actionName >>= fun _ =>
        DoResponseAction.setLastSentCommand tag >>= fun _ => pure TickStatus.success)
      (performJointSpaceAction env' .doResponseAction actionName >>= fun _ =>
        DoResponseAction.setLastSentCommand tag >>= fun _ => pure TickStatus.success) :=
    fun actionName tag => (learns_performJointSpaceAction _ _).bind fun _ =>
      (learns_memory _).bind fun _ => .pure _
  unfold DoResponseAction.hriCommands
  exact .ite (Follows.bind .get fun w => .ite (hsend _ _) (.pure _))
    (Follows.bind .get fun w => .ite (hsend _ _) (.pure _))

theorem learns_doResponseAction (action focus hasBoxIn hasBoxOut : StringEntry) :
    Learns env' (DoResponseAction.tick env action focus hasBoxIn hasBoxOut)
      (DoResponseAction.tick env' action focus hasBoxIn hasBoxOut) := by
  unfold DoResponseAction.tick
  refine (learns_getInput _ _).bind fun action => ?_
  cases action with
  | none => exact .throw _
  | some action =>
    refine (learns_getInput _ _).bind fun focus => ?_
    cases focus with
    | none => exact .throw _
    | some focus =>
      refine (learns_getInput _ _).bind fun hasBox => ?_
      cases hasBox with
      | none => exact .throw _
      | some hasBox =>
        refine (learns_isFinished _).bind fun fin => ?_
        dsimp only
        exact .ite
          (.ite
            (learns_sendHumanPosition.bind fun _ =>
              .ite (learns_hasBoxCommands _ _ _) (learns_hriCommands _ _))
            (.ite (learns_hasBoxCommands _ _ _) (learns_hriCommands _ _)))
          (.pure _)

theorem learns_getReady : Learns env' GoGrasp.getReady GoGrasp.getReady := by
  unfold GoGrasp.getReady
  refine Follows.bind .get fun w => ?_
  split
  · exact .pure _
  · exact .throw _

theorem learns_onStart : Learns env' (GoGrasp.onStart env) (GoGrasp.onStart env') :=
  (learns_log .onStart fun _ => trivial).bind fun _ => (learns_performJointSpaceAction _ _).bind fun _ =>
    (learns_memory _).bind fun _ => .pure _

theorem learns_onRunning (hasBox : StringEntry) :
    Learns env' (GoGrasp.onRunning env hasBox) (GoGrasp.onRunning env' hasBox) := by
  have hconfirm : Learns env'
      (do
        if ← isFinished env .goGrasp then
          if ← GoGrasp.getReady then
            GoGrasp.setReady false
            return TickStatus.success
        return TickStatus.running)
      (do
        if ← isFinished env' .goGrasp then
          if ← GoGrasp.getReady then
            GoGrasp.setReady false
            return TickStatus.success
        return TickStatus.running) := by
    refine (learns_isFinished _).bind fun fin => .ite ?_ (.pure _)
    exact learns_getReady.bind fun ready =>
      .ite ((learns_memory _).bind fun _ => .pure _) (.pure _)
  unfold GoGrasp.onRunning
  refine (learns_log .onRunning fun _ => trivial).bind fun _ => (learns_isFinished _).bind fun fin => ?_
  refine .ite (learns_getReady.bind fun ready => .ite ?_ hconfirm) hconfirm
  exact (learns_memory _).bind fun _ => (learns_setOutput _ _ _).bind fun _ =>
    (learns_performJointSpaceAction _ _).bind fun _ => .pure _

theorem learns_onHalted : Learns env' (GoGrasp.onHalted env) (GoGrasp.onHalted env') := by
  unfold GoGrasp.onHalted
  refine (learns_log .onHalted fun _ => trivial).bind fun _ => learns_getReady.bind fun ready => ?_
  exact .ite ((learns_performJointSpaceAction _ _).bind fun _ => .pure _) (.pure _)

theorem learns_goGrasp (hasBox : StringEntry) (status : NodeStatus) :
    Learns env' (GoGrasp.tick env hasBox status) (GoGrasp.tick env' hasBox status) := by
  cases status with
  | idle => exact learns_onStart
  | running => exact learns_onRunning hasBox
  | success | failure => exact .pure _

-- ============================================================================
-- The tree
-- ============================================================================

/-- Nodes and guards learn from the environment only what they log. -/
theorem tick_follows (env env' : Env) :
    SemanticsFollow (fun w : World => env'.Agrees w.log) (semantics env) (semantics env') where
  tick n st := by
    cases n with
    | robotNavigating => exact learns_robotNavigating
    | boxDetected poi poiPos => exact learns_boxDetected poi poiPos
    | faceDetected poi poiPos => exact learns_faceDetected poi poiPos
    | setBlackboard outputKey value => exact (learns_setOutput _ _ _).bind fun _ => .pure _
    | robotLookAtPOI poi poiPos => exact learns_robotLookAtPOI poi poiPos
    | robotChangeFace hasBox poi => exact learns_robotChangeFace poi hasBox
    | objectIsGraspable => exact learns_objectIsGraspable
    | goGrasp hasBox => exact learns_goGrasp hasBox st
    | focusDetected focus => exact learns_focusDetected focus
    | actionDetected action => exact learns_actionDetected action
    | doResponseAction action focus hasBoxIn hasBoxOut =>
        exact learns_doResponseAction action focus hasBoxIn hasBoxOut
  onHalted n := by
    cases n with
    | goGrasp hasBox => exact learns_onHalted
    | _ => exact .pure _
  check g := Follows.bind .get fun w =>
    (learns_log (.checkString g.valueA (w.memory.blackboard.get g.valueA) g.valueB)
      fun _ => trivial).bind fun _ => .pure _
  onMismatch := rfl

-- ============================================================================
-- Ticks and runs
-- ============================================================================

variable {s s₁ s₂ : State} {h h' : List TickRecord}

theorem tickRoot_trace (env : Env) (s : State) :
    (tickRoot env s).trace =
      (final ((s.tree.tickRoot (semantics env)).run ⟨s.memory, []⟩)).log := by
  unfold tickRoot
  cases (s.tree.tickRoot (semantics env)).run ⟨s.memory, []⟩ with
  | ok a w => rfl
  | error e w => rfl

/-- The environment of a tick agrees with its log. -/
theorem agrees_tickRoot (env : Env) (s : State) : env.Agrees (tickRoot env s).trace := by
  rw [tickRoot_trace]
  exact (tickRoot_follows (tick_follows env env) s.tree).forth ⟨s.memory, []⟩ .nil

/-- An environment that agrees with the log of a tick makes the same tick. -/
theorem tick_replayed (hagrees : env'.Agrees (tickRoot env s).trace) :
    (tickRoot env' s).trace = (tickRoot env s).trace ∧
      (tickRoot env' s).result = (tickRoot env s).result ∧
      (tickRoot env' s).after = (tickRoot env s).after := by
  rw [tickRoot_trace] at hagrees
  have hrun := (tickRoot_follows (tick_follows env env') s.tree).run_eq ⟨s.memory, []⟩ hagrees
  unfold tickRoot
  rw [hrun]
  cases (s.tree.tickRoot (semantics env)).run ⟨s.memory, []⟩ with
  | ok a w => exact ⟨rfl, rfl, rfl⟩
  | error e w => exact ⟨rfl, rfl, rfl⟩

/-- What the services were asked and have answered determines a tick. -/
theorem tick_of_exchanges
    (hsame : exchanges (tickRoot env' s).trace = exchanges (tickRoot env s).trace) :
    (tickRoot env' s).trace = (tickRoot env s).trace ∧
      (tickRoot env' s).result = (tickRoot env s).result ∧
      (tickRoot env' s).after = (tickRoot env s).after := by
  have hagrees : env'.Agrees (exchanges (tickRoot env s).trace) := by
    rw [← hsame, agrees_exchanges]
    exact agrees_tickRoot env' s
  exact tick_replayed ((agrees_exchanges env' _).mp hagrees)

/-- What the services were asked and have answered determines a run: from whatever state,
    such ticks have the same logs, return the same and end in the same state, and the next
    tick, which may throw, is the same under every environment that agrees with its log. -/
theorem run_replayed (hp : Transition.Path mainLoop s h s₁)
    (hp' : Transition.Path mainLoop s h' s₂)
    (hsame : h.map (fun t => exchanges t.trace) = h'.map fun t => exchanges t.trace) :
    s₁ = s₂ ∧ h.map TickRecord.trace = h'.map TickRecord.trace ∧
      h.map TickRecord.result = h'.map TickRecord.result ∧
      ∀ env env', env'.Agrees (tickRoot env s₁).trace →
        (tickRoot env' s₂).trace = (tickRoot env s₁).trace ∧
          (tickRoot env' s₂).result = (tickRoot env s₁).result ∧
          (tickRoot env' s₂).after = (tickRoot env s₁).after := by
  have hruns : s₁ = s₂ ∧ h.map TickRecord.trace = h'.map TickRecord.trace ∧
      h.map TickRecord.result = h'.map TickRecord.result := by
    induction hp generalizing h' s₂ with
    | nil =>
        obtain rfl : h' = [] := by simpa using hsame.symm
        exact ⟨hp'.nil_inv.symm, rfl, rfl⟩
    | @snoc h s s₁ t _ hstep ih =>
        rcases List.eq_nil_or_concat h' with rfl | ⟨k, t', rfl⟩
        · simp at hsame
        rw [List.concat_eq_append] at hp' hsame ⊢
        rw [List.map_append, List.map_append] at hsame
        obtain ⟨hfront, hlast⟩ := List.append_inj' hsame rfl
        obtain ⟨s', hp', hstep'⟩ := hp'.snoc_inv
        obtain ⟨rfl, htraces, hresults⟩ := ih hp' hfront
        obtain ⟨⟨env, rfl⟩, -, rfl⟩ := hstep
        obtain ⟨⟨env', rfl⟩, -, rfl⟩ := hstep'
        obtain ⟨htrace, hresult, hafter⟩ := tick_of_exchanges (List.singleton_inj.mp hlast)
        refine ⟨hafter, ?_, ?_⟩
        · rw [List.map_append, List.map_append, htraces]
          simp [htrace]
        · rw [List.map_append, List.map_append, hresults]
          simp [hresult]
  obtain ⟨rfl, htraces, hresults⟩ := hruns
  exact ⟨rfl, htraces, hresults, fun env env' hagrees => tick_replayed hagrees⟩

/-- Nobody asks for the distance of an object that is not there, nor for the position of
    a human who does not want the robot to come. -/
theorem run_replayed_alone :
    reached [Env.alone] = reached [{ Env.alone with getDistance := 300, getHumanPosition := [] }] :=
  (run_replayed (run_history [Env.alone])
    (run_history [{ Env.alone with getDistance := 300, getHumanPosition := [] }])
    (by decide +kernel)).1

end ErgoCubBehavior
