/-
  ErgoCubBehavior.Robot.Actions

  The action nodes (`src/actions`).  The answers of the calls that command the
  robot are dropped by the source, and so they are here.
-/

import ErgoCubBehavior.Robot.Conditions

namespace ErgoCubBehavior

open BehaviorTree Binary64

variable (env : Env)

-- ============================================================================
-- RobotLookAtPOI
-- ============================================================================

namespace RobotLookAtPOI

/-- The literal `0.01`. -/
def poiGain : Double := ⟨0x3F847AE147AE147B#64⟩

/-- The literal `0.001`. -/
def noneGain : Double := ⟨0x3F50624DD2F1A9FC#64⟩

/-- `(1, 0, 0.8)`, where the robot looks when nothing has been seen for a
    while. -/
def restPoint : List Double :=
  [Double.one, Double.zero, ⟨0x3FE999999999999A#64⟩]

/-- `++` on a 32-bit `int`, taken to wrap on overflow. -/
def increment (n : Int) : Int := (BitVec.ofInt 32 (n + 1)).toInt

/-- The fields the constructor leaves, after it has set the gain to `poiGain`. -/
def init : RobotLookAtPOI := { noneCounter := 0, lastPoi := "" }

def setLastPoi (value : String) : TickM Unit :=
  modifyMemory fun m =>
    { m with robotLookAtPOI := { m.robotLookAtPOI with lastPoi := value } }

def setNoneCounter (value : Int) : TickM Unit :=
  modifyMemory fun m =>
    { m with robotLookAtPOI := { m.robotLookAtPOI with noneCounter := value } }

def tick (poi : StringEntry) (poiPos : VectorEntry) : TickM TickStatus := do
  let some poi ← getInput .robotLookAtPOI poi
    | throw (.missingRequiredInput "poi")
  if poi ≠ "none" then
    if (← get).memory.robotLookAtPOI.lastPoi ≠ "not none" then
      let _ ← setGain env poiGain
      setLastPoi "not none"
    setNoneCounter 0
    let some poiPos ← getInputVector .robotLookAtPOI poiPos
      | throw (.missingRequiredInput "poi_pos")
    let setpoint ← copyPosition poiPos
    let _ ← lookAt env setpoint
  else
    if (← get).memory.robotLookAtPOI.lastPoi ≠ "none" then
      let _ ← setGain env noneGain
      setLastPoi "none"
    setNoneCounter (increment (← get).memory.robotLookAtPOI.noneCounter)
    if (← get).memory.robotLookAtPOI.noneCounter > 12 then
      let _ ← lookAt env restPoint
  return .success

end RobotLookAtPOI

-- ============================================================================
-- RobotChangeFace
-- ============================================================================

namespace RobotChangeFace

def init : RobotChangeFace := { lastSentEmotion := "" }

/-- Send an emotion and remember its tag. -/
def send (emotion tag : String) : TickM Unit := do
  let _ ← setEmotion env emotion
  modifyMemory fun m => { m with robotChangeFace := { lastSentEmotion := tag } }

def tick (poi hasBox : StringEntry) : TickM TickStatus := do
  let some msg ← getInput .robotChangeFace poi
    | throw (.missingRequiredInput "poi")
  let some hasBox ← getInput .robotChangeFace hasBox
    -- the source reports the error of `poi` here too
    | throw (.missingRequiredInput "poi")
  let lastSentEmotion := (← get).memory.robotChangeFace.lastSentEmotion
  if hasBox = "yes" ∧ lastSentEmotion ≠ "has_box" then
    send env "shy" "has_box"
  else if msg = "none" ∧ lastSentEmotion ≠ "none" ∧ hasBox = "no" then
    send env "neutral" "none"
  else if msg = "face" ∧ lastSentEmotion ≠ "face" ∧ hasBox = "no" then
    send env "happy" "face"
  else if msg = "object" ∧ lastSentEmotion ≠ "object" ∧ hasBox = "no" then
    send env "alert" "object"
  return .success

end RobotChangeFace

-- ============================================================================
-- DoResponseAction
-- ============================================================================

namespace DoResponseAction

def init : DoResponseAction := { lastSentCommand := "", wasReleasing := false }

def setLastSentCommand (value : String) : TickM Unit :=
  modifyMemory fun m =>
    { m with doResponseAction := { m.doResponseAction with lastSentCommand := value } }

def setWasReleasing (value : Bool) : TickM Unit :=
  modifyMemory fun m =>
    { m with doResponseAction := { m.doResponseAction with wasReleasing := value } }

/-- The come action: publish where the human stands. -/
def sendHumanPosition : TickM Unit := do
  let humanPosition ← getHumanPosition env
  let b ← copyPosition humanPosition
  log (.writePose b)

/-- HAS_BOX COMMANDS: `tick` read `has_box` as `"yes"`, and goes on so after it
    has written `"no"`. -/
def hasBoxCommands (action focus : String) (hasBoxOut : StringEntry) : TickM TickStatus := do
  if (← get).memory.doResponseAction.wasReleasing then
    setOutput .doResponseAction hasBoxOut "no"
    setWasReleasing false
  if action = "release" then
    if (← get).memory.doResponseAction.lastSentCommand ≠ "release" ∧ focus = "yes" then
      let _ ← performJointSpaceAction env .doResponseAction "ready"
      setWasReleasing true
      setLastSentCommand action
      return .success
    else
      return .failure
  return .failure

/-- HRI COMMANDS: `tick` read `has_box` as anything else. -/
def hriCommands (action focus : String) : TickM TickStatus := do
  if action = "wave" ∨ action = "shake" ∨ action = "t_pose" then
    if (← get).memory.doResponseAction.lastSentCommand ≠ action ∧ focus = "yes" then
      let _ ← performJointSpaceAction env .doResponseAction action
      setLastSentCommand action
      return .success
    else
      return .failure
  else if (← get).memory.doResponseAction.lastSentCommand ≠ "home" then
    let _ ← performJointSpaceAction env .doResponseAction "home"
    setLastSentCommand "home"
    return .success
  return .failure

def tick (action focus hasBoxIn hasBoxOut : StringEntry) : TickM TickStatus := do
  let some action ← getInput .doResponseAction action
    | throw (.missingRequiredInput "action")
  let some focus ← getInput .doResponseAction focus
    | throw (.missingRequiredInput "focus")
  let some hasBox ← getInput .doResponseAction hasBoxIn
    | throw (.missingRequiredInput "has_box_in")
  let fin ← isFinished env .doResponseAction
  if fin then
    if action = "come" then
      sendHumanPosition env
    if hasBox = "yes" then
      hasBoxCommands env action focus hasBoxOut
    else
      hriCommands env action focus
  else
    return .failure

end DoResponseAction

-- ============================================================================
-- GoGrasp
-- ============================================================================

namespace GoGrasp

def init : GoGrasp := { ready := none }

def setReady (value : Bool) : TickM Unit :=
  modifyMemory fun m => { m with goGrasp := { ready := some value } }

def getReady : TickM Bool := do
  match (← get).memory.goGrasp.ready with
  | some ready => return ready
  | none => throw .uninitializedReady

def onStart : TickM TickStatus := do
  log .onStart
  let _ ← performJointSpaceAction env .goGrasp "ready"
  setReady false
  return .running

def onRunning (hasBox : StringEntry) : TickM TickStatus := do
  log .onRunning
  -- `&&` reads `ready` only after a true `is_finished`
  if ← isFinished env .goGrasp then
    if !(← getReady) then
      setReady true
      setOutput .goGrasp hasBox "yes"
      let _ ← performJointSpaceAction env .goGrasp "bottom_grasp"
      return .running
  if ← isFinished env .goGrasp then
    if ← getReady then
      setReady false
      return .success
  return .running

def onHalted : TickM Unit := do
  log .onHalted
  if !(← getReady) then
    let _ ← performJointSpaceAction env .goGrasp "home"

/-- `StatefulActionNode::tick`: the stored status selects the callback; a node
    that has finished and has not been reset answers its last result. -/
def tick (hasBox : StringEntry) (status : NodeStatus) : TickM TickStatus :=
  match status with
  | .idle => onStart env
  | .running => onRunning env hasBox
  | .success => return .success
  | .failure => return .failure

end GoGrasp

end ErgoCubBehavior
