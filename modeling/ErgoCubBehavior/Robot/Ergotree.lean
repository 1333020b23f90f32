/-
  ErgoCubBehavior.Robot.Ergotree

  The tree of `descriptions/ergotree.xml`, its leaves wired to the blackboard,
  and the loop of `main`: from the initial blackboard, tick the root again and
  again, until a tick throws and takes the process with it.
-/

import ErgoCubBehavior.Lib.Transition
import ErgoCubBehavior.Robot.Actions

namespace ErgoCubBehavior

open BehaviorTree Binary64

-- ============================================================================
-- Leaves and guards
-- ============================================================================

/-- A leaf of the tree with the entries its ports are mapped to. -/
inductive Leaf where
  | robotNavigating
  | boxDetected (poi : StringEntry) (poiPos : VectorEntry)
  | faceDetected (poi : StringEntry) (poiPos : VectorEntry)
  | setBlackboard (outputKey : StringEntry) (value : String)
  | robotLookAtPOI (poi : StringEntry) (poiPos : VectorEntry)
  | robotChangeFace (hasBox poi : StringEntry)
  | objectIsGraspable
  | goGrasp (hasBox : StringEntry)
  | focusDetected (focus : StringEntry)
  | actionDetected (action : StringEntry)
  | doResponseAction (action focus hasBoxIn hasBoxOut : StringEntry)
deriving DecidableEq, Repr

/-- `BlackboardCheckString`: an entry against a literal. -/
structure BlackboardCheckString where
  returnOnMismatch : TickStatus
  valueA : StringEntry
  valueB : String
deriving DecidableEq, Repr

/-- An undefined entry does not match. -/
def BlackboardCheckString.check (g : BlackboardCheckString) : TickM Bool := do
  let value := (← get).memory.blackboard.get g.valueA
  log (.checkString g.valueA value g.valueB)
  return value = some g.valueB

def SetBlackboard.tick (outputKey : StringEntry) (value : String) : TickM TickStatus := do
  setOutput .setBlackboard outputKey value
  return .success

def Leaf.tick (env : Env) (status : NodeStatus) : Leaf → TickM TickStatus
  | .robotNavigating => RobotNavigating.tick env
  | .boxDetected poi poiPos => BoxDetected.tick env poi poiPos
  | .faceDetected poi poiPos => FaceDetected.tick env poi poiPos
  | .setBlackboard outputKey value => SetBlackboard.tick outputKey value
  | .robotLookAtPOI poi poiPos => RobotLookAtPOI.tick env poi poiPos
  | .robotChangeFace hasBox poi => RobotChangeFace.tick env poi hasBox
  | .objectIsGraspable => ObjectIsGraspable.tick env
  | .goGrasp hasBox => GoGrasp.tick env hasBox status
  | .focusDetected focus => FocusDetected.tick env focus
  | .actionDetected action => ActionDetected.tick env action
  | .doResponseAction action focus hasBoxIn hasBoxOut =>
      DoResponseAction.tick env action focus hasBoxIn hasBoxOut

/-- `GoGrasp` is the only leaf that can be halted while it runs. -/
def Leaf.onHalted (env : Env) : Leaf → TickM Unit
  | .goGrasp _ => GoGrasp.onHalted env
  | _ => return ()

def semantics (env : Env) : Semantics Leaf BlackboardCheckString Exception World where
  tick n status := n.tick env status
  onHalted n := n.onHalted env
  check g := g.check
  onMismatch g := g.returnOnMismatch

-- ============================================================================
-- The tree
-- ============================================================================

abbrev ErgoTree := Tree Leaf BlackboardCheckString

def node (n : Leaf) : ErgoTree := .leaf .idle n

def blackboardCheckString (valueA : StringEntry) (valueB : String) (child : ErgoTree) :
    ErgoTree :=
  .decorator .idle ⟨.failure, valueA, valueB⟩ child

/-- Which point of interest there is. -/
def poiFallback : ErgoTree :=
  .reactiveFallback .idle [
    blackboardCheckString .theHasBox "no" (node (.boxDetected .thePoi .thePoiPos)),
    node (.faceDetected .thePoi .thePoiPos),
    node (.setBlackboard .thePoi "none")]

def poiSequence : ErgoTree :=
  .reactiveSequence .idle [
    poiFallback,
    node (.robotLookAtPOI .thePoi .thePoiPos)]

def graspSequence : ErgoTree :=
  .reactiveSequence .idle [
    blackboardCheckString .thePoi "object" (node .objectIsGraspable),
    blackboardCheckString .theHasBox "no" (node (.goGrasp .theHasBox))]

def responseSequence : ErgoTree :=
  .reactiveSequence .idle [
    node (.focusDetected .theFocus),
    node (.actionDetected .theAction),
    node (.doResponseAction .theAction .theFocus .theHasBox .theHasBox)]

def ergotree : ErgoTree :=
  .reactiveSequence .idle [
    node .robotNavigating,
    poiSequence,
    node (.robotChangeFace .theHasBox .thePoi),
    .reactiveFallback .idle [graspSequence, responseSequence]]

-- ============================================================================
-- The loop of main
-- ============================================================================

/-- What the process keeps between ticks. -/
structure State where
  tree : ErgoTree
  memory : Memory

/-- The blackboard `main` fills before it builds the tree. -/
def initialBlackboard : Blackboard where
  theHasBox := some "no"
  thePoi := some "none"
  thePoiPos := none
  theFocus := none
  theAction := none

def initialState : State where
  tree := ergotree
  memory := {
    blackboard := initialBlackboard
    robotLookAtPOI := RobotLookAtPOI.init
    robotChangeFace := RobotChangeFace.init
    doResponseAction := DoResponseAction.init
    goGrasp := GoGrasp.init }

/-- One tick of the root: where it began, the answers it got, what it did, and
    what it returned or threw.  A throw leaves the statuses of the tree as they
    were; nothing ticks it again. -/
structure TickRecord where
  before : State
  env : Env
  trace : List Event
  result : Except Exception TickStatus
  after : State

def tickRoot (env : Env) (s : State) : TickRecord :=
  match (s.tree.tickRoot (semantics env)).run ⟨s.memory, []⟩ with
  | .ok (status, tree) w =>
      { before := s, env, trace := w.log, result := .ok status, after := ⟨tree, w.memory⟩ }
  | .error e w =>
      { before := s, env, trace := w.log, result := .error e, after := ⟨s.tree, w.memory⟩ }

@[simp] theorem tickRoot_before (env : Env) (s : State) : (tickRoot env s).before = s := by
  unfold tickRoot
  split <;> rfl

@[simp] theorem tickRoot_env (env : Env) (s : State) : (tickRoot env s).env = env := by
  unfold tickRoot
  split <;> rfl

/-- The loop of `main`: each step is a tick that returns. -/
def mainLoop : Transition.System State TickRecord where
  start := initialState
  Step s t s' := (∃ env, t = tickRoot env s) ∧ (∃ status, t.result = .ok status) ∧ s' = t.after

/-- `h` are the ticks of a run of `main`, oldest first, and `s` is the state
    after them.  A last tick that throws is not part of `h`: it is `tickRoot` at
    `s`. -/
abbrev Run (h : List TickRecord) (s : State) : Prop :=
  Transition.Run mainLoop h s

/-- `GoGrasp` stores `RUNNING`. -/
def GoGraspRunning (s : State) : Prop :=
  (.goGrasp .theHasBox, .running) ∈ s.tree.leaves

instance (s : State) : Decidable (GoGraspRunning s) :=
  inferInstanceAs (Decidable (_ ∈ _))

-- ============================================================================
-- Running the loop
-- ============================================================================

/-- The ticks that given answers lead to, up to the first that throws. -/
def play (s : State) : List Env → List TickRecord × State
  | [] => ([], s)
  | env :: envs =>
      match (tickRoot env s).result with
      | .ok _ =>
          let (h, s') := play (tickRoot env s).after envs
          (tickRoot env s :: h, s')
      | .error _ => ([], s)

theorem play_path (s : State) (envs : List Env) :
    Transition.Path mainLoop s (play s envs).1 (play s envs).2 := by
  induction envs generalizing s with
  | nil => exact .nil
  | cons env envs ih =>
      unfold play
      cases hr : (tickRoot env s).result with
      | error e => exact .nil
      | ok r =>
          have hstep : mainLoop.Step s (tickRoot env s) (tickRoot env s).after :=
            ⟨⟨env, rfl⟩, ⟨r, hr⟩, rfl⟩
          exact (Transition.Path.single hstep).append (ih _)

/-- The history and the last state of `main` under given answers. -/
def history (envs : List Env) : List TickRecord := (play initialState envs).1

def reached (envs : List Env) : State := (play initialState envs).2

theorem run_history (envs : List Env) : Run (history envs) (reached envs) :=
  play_path initialState envs

/-- Nobody and nothing in sight, no navigation, every motion finished and every
    command accepted. -/
def Env.alone : Env where
  navigation := []
  getCenter := [Double.minusOne, Double.minusOne, Double.minusOne]
  getFacePosition := [Double.minusOne, Double.minusOne, Double.minusOne]
  getDistance := -1
  isFocused := false
  getAction := "none"
  getHumanPosition := [Double.one, Double.one, Double.one]
  isFinished _ := true
  performJointSpaceAction _ := true
  lookAt := true
  setGain := true
  setEmotion := true

/-- An object within reach. -/
def Env.object (env : Env) : Env :=
  { env with getCenter := [Double.one, Double.one, Double.one], getDistance := 300 }

/-- A box detector that has died. -/
def Env.blind (env : Env) : Env :=
  { env with getCenter := [Double.zero, Double.zero, Double.zero] }

/-- Somebody who looks at the robot and does `action`. -/
def Env.human (env : Env) (action : String) : Env :=
  { env with
    getFacePosition := [Double.one, Double.one, Double.one]
    isFocused := true
    getAction := action }

end ErgoCubBehavior
