/-
  ErgoCubBehavior.Robot.Services

  What the nodes of the tree share: the blackboard, the remote services they
  call, and the fields each node keeps between ticks.

  The other side of every connection is an environment that answers as it
  likes.  Perception, gaze and emotions answer each of their calls at most once
  a tick, so `Env` holds one answer for each; the manipulation server is asked
  several times in one tick by two nodes, so its answers are indexed by how many
  such calls the tick has already made.

  Everything a tick does outside its own fields is appended to a log of
  `Event`s, oldest first: calls with their answers, ports read and written,
  callbacks of the stateful action node.
-/

import ErgoCubBehavior.Lib.Binary64
import Mathlib.Data.List.Basic

namespace ErgoCubBehavior

open Binary64

-- ============================================================================
-- The blackboard
-- ============================================================================

/-- Entries that hold a `std::string`. -/
inductive StringEntry where
  | theHasBox | thePoi | theFocus | theAction
deriving DecidableEq, Repr

/-- Entries that hold a `std::vector<double>`. -/
inductive VectorEntry where
  | thePoiPos
deriving DecidableEq, Repr

/-- The entries of `ergotree.xml`; an entry nobody has written is `none`. -/
structure Blackboard where
  theHasBox : Option String
  thePoi : Option String
  thePoiPos : Option (List Double)
  theFocus : Option String
  theAction : Option String
deriving DecidableEq, Repr

namespace Blackboard

def get (b : Blackboard) : StringEntry → Option String
  | .theHasBox => b.theHasBox
  | .thePoi => b.thePoi
  | .theFocus => b.theFocus
  | .theAction => b.theAction

def set (b : Blackboard) (value : String) : StringEntry → Blackboard
  | .theHasBox => { b with theHasBox := some value }
  | .thePoi => { b with thePoi := some value }
  | .theFocus => { b with theFocus := some value }
  | .theAction => { b with theAction := some value }

def getVector (b : Blackboard) : VectorEntry → Option (List Double)
  | .thePoiPos => b.thePoiPos

def setVector (b : Blackboard) (value : List Double) : VectorEntry → Blackboard
  | .thePoiPos => { b with thePoiPos := some value }

end Blackboard

-- ============================================================================
-- Fields of the nodes
-- ============================================================================

/-- `RobotLookAtPOI`: `none_counter` is a 32-bit `int`. -/
structure RobotLookAtPOI where
  noneCounter : Int
  lastPoi : String
deriving DecidableEq

structure RobotChangeFace where
  lastSentEmotion : String
deriving DecidableEq

structure DoResponseAction where
  lastSentCommand : String
  wasReleasing : Bool
deriving DecidableEq

/-- `GoGrasp`: the constructor leaves `ready` uninitialised. -/
structure GoGrasp where
  ready : Option Bool
deriving DecidableEq

/-- What survives a tick, the statuses of the tree apart. -/
structure Memory where
  blackboard : Blackboard
  robotLookAtPOI : RobotLookAtPOI
  robotChangeFace : RobotChangeFace
  doResponseAction : DoResponseAction
  goGrasp : GoGrasp
deriving DecidableEq

-- ============================================================================
-- The environment and the log
-- ============================================================================

/-- The answers of one tick. -/
structure Env where
  /-- navigation statuses that arrived since the last tick, oldest first -/
  navigation : List Int
  getCenter : List Double
  getFacePosition : List Double
  getDistance : Int
  isFocused : Bool
  getAction : String
  getHumanPosition : List Double
  /-- answer to the `n`-th `is_finished` of the tick -/
  isFinished : Nat → Bool
  /-- answer to the `n`-th `perform_joint_space_action` of the tick -/
  performJointSpaceAction : Nat → Bool
  lookAt : Bool
  setGain : Bool
  setEmotion : Bool

/-- The nodes of the tree that act on something. -/
inductive Node where
  | robotNavigating | boxDetected | faceDetected | setBlackboard
  | robotLookAtPOI | robotChangeFace | objectIsGraspable | goGrasp
  | focusDetected | actionDetected | doResponseAction
deriving DecidableEq, Repr

inductive Event where
  | readNavigation (status : Option Int)
  | getCenter (answer : List Double)
  | getFacePosition (answer : List Double)
  | getDistance (answer : Int)
  | isFocused (answer : Bool)
  | getAction (answer : String)
  | getHumanPosition (answer : List Double)
  | writePose (point : List Double)
  | isFinished (client : Node) (answer : Bool)
  | performJointSpaceAction (client : Node) (actionName : String) (answer : Bool)
  | lookAt (point : List Double) (answer : Bool)
  | setGain (gain : Double) (answer : Bool)
  | setEmotion (command : String) (answer : Bool)
  | getInput (reader : Node) (entry : StringEntry) (value : Option String)
  | getInputVector (reader : Node) (entry : VectorEntry) (value : Option (List Double))
  | setOutput (writer : Node) (entry : StringEntry) (value : String)
  | setOutputVector (writer : Node) (entry : VectorEntry) (value : List Double)
  | checkString (entry : StringEntry) (value : Option String) (expected : String)
  | onStart
  | onRunning
  | onHalted
deriving DecidableEq, Repr

/-- The node an event comes from; the checks of the guards come from none. -/
def Event.node : Event → Option Node
  | .readNavigation _ => some .robotNavigating
  | .getCenter _ => some .boxDetected
  | .getFacePosition _ => some .faceDetected
  | .getDistance _ => some .objectIsGraspable
  | .isFocused _ => some .focusDetected
  | .getAction _ => some .actionDetected
  | .getHumanPosition _ => some .doResponseAction
  | .writePose _ => some .doResponseAction
  | .isFinished client _ => some client
  | .performJointSpaceAction client _ _ => some client
  | .lookAt _ _ => some .robotLookAtPOI
  | .setGain _ _ => some .robotLookAtPOI
  | .setEmotion _ _ => some .robotChangeFace
  | .getInput reader _ _ => some reader
  | .getInputVector reader _ _ => some reader
  | .setOutput writer _ _ => some writer
  | .setOutputVector writer _ _ => some writer
  | .checkString _ _ _ => none
  | .onStart => some .goGrasp
  | .onRunning => some .goGrasp
  | .onHalted => some .goGrasp

/-- What one node did, of all that was done. -/
def eventsOf (n : Node) (l : List Event) : List Event :=
  l.filter fun e => e.node = some n

/-- A motion command and the node that sent it. -/
structure Motion where
  client : Node
  actionName : String
deriving DecidableEq, Repr

def Event.motion? : Event → Option Motion
  | .performJointSpaceAction client actionName _ => some ⟨client, actionName⟩
  | _ => none

/-- The motion commands of a trace. -/
def motions (l : List Event) : List Motion :=
  l.filterMap Event.motion?

@[simp] theorem motions_nil : motions [] = [] := rfl

@[simp] theorem motions_cons (e : Event) (l : List Event) :
    motions (e :: l) = e.motion?.toList ++ motions l := by
  cases h : e.motion? <;> simp [motions, h]

@[simp] theorem motions_append (l₁ l₂ : List Event) :
    motions (l₁ ++ l₂) = motions l₁ ++ motions l₂ := by
  simp [motions]

/-- Where the robot is told to look. -/
def setpoints (l : List Event) : List (List Double) :=
  l.filterMap fun
    | .lookAt point _ => some point
    | _ => none

@[simp] theorem setpoints_append (l₁ l₂ : List Event) :
    setpoints (l₁ ++ l₂) = setpoints l₁ ++ setpoints l₂ := by
  simp [setpoints]

/-- The gains a trace sets, in order. -/
def gains (l : List Event) : List Double :=
  l.filterMap fun
    | .setGain gain _ => some gain
    | _ => none

@[simp] theorem gains_append (l₁ l₂ : List Event) : gains (l₁ ++ l₂) = gains l₁ ++ gains l₂ := by
  simp [gains]

/-- The emotions a trace sends, in order. -/
def emotions (l : List Event) : List String :=
  l.filterMap fun
    | .setEmotion command _ => some command
    | _ => none

/-- A message to a server: what is sent, without the answer. -/
inductive Message where
  | lookAt (point : List Double)
  | setGain (gain : Double)
  | setEmotion (command : String)
  | performJointSpaceAction (client : Node) (actionName : String)
  | writePose (point : List Double)
deriving DecidableEq, Repr

def Event.message? : Event → Option Message
  | .lookAt point _ => some (.lookAt point)
  | .setGain gain _ => some (.setGain gain)
  | .setEmotion command _ => some (.setEmotion command)
  | .performJointSpaceAction client actionName _ =>
      some (.performJointSpaceAction client actionName)
  | .writePose point => some (.writePose point)
  | _ => none

/-- The messages of a trace, in order. -/
def messages (l : List Event) : List Message :=
  l.filterMap Event.message?

@[simp] theorem messages_nil : messages [] = [] := rfl

@[simp] theorem messages_cons (e : Event) (l : List Event) :
    messages (e :: l) = e.message?.toList ++ messages l := by
  cases h : e.message? <;> simp [messages, h]

@[simp] theorem messages_append (l₁ l₂ : List Event) :
    messages (l₁ ++ l₂) = messages l₁ ++ messages l₂ := by
  simp [messages]

/-- What ends a tick, and with it the process: an exception that `main` does not
    catch, or one of two undefined behaviours. -/
inductive Exception where
  /-- `std::runtime_error` -/
  | runtimeError (what : String)
  /-- `BT::RuntimeError("missing required input [message]: ", error)`; `port` is
      the port whose error is reported -/
  | missingRequiredInput (port : String)
  /-- a vector is indexed at or past its end -/
  | outOfBounds
  /-- `GoGrasp::ready` is read before it is assigned -/
  | uninitializedReady
deriving DecidableEq, Repr

/-- What a tick works on. -/
structure World where
  memory : Memory
  log : List Event
deriving DecidableEq

/-- Code that runs within a tick. -/
abbrev TickM := EStateM Exception World

def log (e : Event) : TickM Unit :=
  modify fun w => { w with log := w.log ++ [e] }

def modifyMemory (f : Memory → Memory) : TickM Unit :=
  modify fun w => { w with memory := f w.memory }

-- ============================================================================
-- Ports
-- ============================================================================

def getInput (reader : Node) (entry : StringEntry) : TickM (Option String) := do
  let value := (← get).memory.blackboard.get entry
  log (.getInput reader entry value)
  return value

def getInputVector (reader : Node) (entry : VectorEntry) : TickM (Option (List Double)) := do
  let value := (← get).memory.blackboard.getVector entry
  log (.getInputVector reader entry value)
  return value

def setOutput (writer : Node) (entry : StringEntry) (value : String) : TickM Unit := do
  modifyMemory fun m => { m with blackboard := m.blackboard.set value entry }
  log (.setOutput writer entry value)

def setOutputVector (writer : Node) (entry : VectorEntry) (value : List Double) :
    TickM Unit := do
  modifyMemory fun m => { m with blackboard := m.blackboard.setVector value entry }
  log (.setOutputVector writer entry value)

-- ============================================================================
-- Service clients
-- ============================================================================

/-- A call and its answer. -/
def call {α : Type} (e : Event) (answer : α) : TickM α := do
  log e
  return answer

/-- How often the tick has asked `is_finished` so far. -/
def finishedCalls (l : List Event) : Nat :=
  l.countP fun
    | .isFinished .. => true
    | _ => false

/-- How many joint-space actions the tick has commanded so far. -/
def motionCalls (l : List Event) : Nat :=
  l.countP fun
    | .performJointSpaceAction .. => true
    | _ => false

section Clients

variable (env : Env)

/-- `BufferedPort::read(false)`: the newest unread message, if any. -/
def readNavigation : TickM (Option Int) :=
  call (.readNavigation env.navigation.getLast?) env.navigation.getLast?

def getCenter : TickM (List Double) :=
  call (.getCenter env.getCenter) env.getCenter

def getFacePosition : TickM (List Double) :=
  call (.getFacePosition env.getFacePosition) env.getFacePosition

def getDistance : TickM Int :=
  call (.getDistance env.getDistance) env.getDistance

def isFocused : TickM Bool :=
  call (.isFocused env.isFocused) env.isFocused

def getAction : TickM String :=
  call (.getAction env.getAction) env.getAction

def getHumanPosition : TickM (List Double) :=
  call (.getHumanPosition env.getHumanPosition) env.getHumanPosition

/-- `CommandInterface::is_finished` -/
def isFinished (client : Node) : TickM Bool := do
  let answer := env.isFinished (finishedCalls (← get).log)
  call (.isFinished client answer) answer

/-- `CommandInterface::perform_joint_space_action` -/
def performJointSpaceAction (client : Node) (actionName : String) : TickM Bool := do
  let answer := env.performJointSpaceAction (motionCalls (← get).log)
  call (.performJointSpaceAction client actionName answer) answer

def lookAt (point : List Double) : TickM Bool :=
  call (.lookAt point env.lookAt) env.lookAt

def setGain (gain : Double) : TickM Bool :=
  call (.setGain gain env.setGain) env.setGain

def setEmotion (command : String) : TickM Bool :=
  call (.setEmotion command env.setEmotion) env.setEmotion

end Clients

/-- `v[i]` of a vector: nothing checks the index. -/
def elementAt (v : List Double) (i : Nat) : TickM Double :=
  match v[i]? with
  | some x => return x
  | none => throw .outOfBounds

/-- The first three components of a position, as the nodes copy them. -/
def copyPosition (position : List Double) : TickM (List Double) := do
  let x ← elementAt position 0
  let y ← elementAt position 1
  let z ← elementAt position 2
  return [x, y, z]

end ErgoCubBehavior
