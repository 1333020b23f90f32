/-
  ErgoCubBehavior.Robot.Conditions

  The condition nodes (`src/conditions`) and the two helpers of `common.cpp`
  they use.  A tick takes the ports of its node, as `ergotree.xml` maps them to
  blackboard entries.
-/

import ErgoCubBehavior.Lib.BehaviorTree
import ErgoCubBehavior.Robot.Services

namespace ErgoCubBehavior

open BehaviorTree Binary64

-- ============================================================================
-- common.cpp
-- ============================================================================

def areAllElementsMinusOne (vec : List Double) : Bool :=
  vec.all fun element => element.eq Double.minusOne

def areAllElementsZero (vec : List Double) : Bool :=
  vec.all fun element => element.eq Double.zero

-- ============================================================================
-- Condition nodes
-- ============================================================================

variable (env : Env)

def RobotNavigating.tick : TickM TickStatus := do
  let data ← readNavigation env
  match data with
  | none => return .success
  | some 0 => return .success    -- STATUS_UNKNOWN
  | some 1 => return .failure    -- STATUS_ACCEPTED
  | some 2 => return .failure    -- STATUS_EXECUTING
  | some 3 => return .success    -- STATUS_CANCELING
  | some 4 => return .success    -- STATUS_SUCCEEDED
  | some 5 => return .success    -- STATUS_CANCELED
  | some 6 => return .success    -- STATUS_ABORTED
  | some _ => return .success    -- a warning is printed

/-- The body the two detectors share: `(0,0,0)` stands for a dead detector,
    `(-1,-1,-1)` for nothing in sight. -/
def publishPosition (detector : Node) (poi : StringEntry) (poiPos : VectorEntry)
    (name what : String) (answer : List Double) : TickM TickStatus := do
  let position ← copyPosition answer
  if areAllElementsZero position then
    throw (.runtimeError what)
  if areAllElementsMinusOne position then
    return .failure
  setOutput detector poi name
  setOutputVector detector poiPos position
  return .success

def BoxDetected.what : String :=
  "box_detected: received (0,0,0) as target position (maybe segmentation is dead?"

def BoxDetected.tick (poi : StringEntry) (poiPos : VectorEntry) : TickM TickStatus := do
  let objectPositionYarp ← getCenter env
  publishPosition .boxDetected poi poiPos "object" BoxDetected.what objectPositionYarp

def FaceDetected.what : String :=
  "face_detected: received (0,0,0) as target position (maybe focus is dead?"

def FaceDetected.tick (poi : StringEntry) (poiPos : VectorEntry) : TickM TickStatus := do
  let facePositionYarp ← getFacePosition env
  publishPosition .faceDetected poi poiPos "face" FaceDetected.what facePositionYarp

def ObjectIsGraspable.tick : TickM TickStatus := do
  let distance ← getDistance env
  if distance = -1 ∨ distance = 0 ∨ distance < 250 ∨ distance ≥ 400 then
    return .failure
  return .success

def FocusDetected.tick (focus : StringEntry) : TickM TickStatus := do
  if ← isFocused env then
    setOutput .focusDetected focus "yes"
  else
    setOutput .focusDetected focus "no"
  return .success

def ActionDetected.tick (action : StringEntry) : TickM TickStatus := do
  let answer ← getAction env
  setOutput .actionDetected action answer
  return .success

end ErgoCubBehavior
