/-
  ErgoCubBehavior.Rpc.Interfaces

  The three interfaces of the components: `CommandInterface` (manipulation),
  `RPCServerInterface` (gaze) and `ergoCubEmotions_IDL` (emotions).  For each its
  helper classes with the constants of the source, the interface, and the class
  whose functions a server overrides.

  The state of a server is of an arbitrary type `σ`; a function takes the state and
  leaves another.
-/

import ErgoCubBehavior.Rpc.Service

namespace ErgoCubBehavior

open Wire Binary64

-- ============================================================================
-- CommandInterface
-- ============================================================================

namespace CommandInterface

def graspHelper : Helper where
  tag := "grasp"
  tagLen := 1
  cmdLen := 1
  replyLen := 1
  prototype := "bool CommandInterface::grasp()"
  help := ""
  args := []
  ret := .bool

def isFinishedHelper : Helper where
  tag := "is_finished"
  tagLen := 2
  cmdLen := 2
  replyLen := 1
  prototype := "bool CommandInterface::is_finished()"
  help := ""
  args := []
  ret := .bool

def performCartesianActionHelper : Helper where
  tag := "perform_cartesian_action"
  tagLen := 3
  cmdLen := 4
  replyLen := 1
  prototype := "bool CommandInterface::perform_cartesian_action(const std::string& actionName)"
  help := ""
  args := [.string]
  ret := .bool

def performGraspActionHelper : Helper where
  tag := "perform_grasp_action"
  tagLen := 3
  cmdLen := 4
  replyLen := 1
  prototype := "bool CommandInterface::perform_grasp_action(const std::string& actionName)"
  help := ""
  args := [.string]
  ret := .bool

def performJointSpaceActionHelper : Helper where
  tag := "perform_joint_space_action"
  tagLen := 4
  cmdLen := 5
  replyLen := 1
  prototype := "bool CommandInterface::perform_joint_space_action(const std::string& actionName)"
  help := ""
  args := [.string]
  ret := .bool

def moveHandsToPoseHelper : Helper where
  tag := "move_hands_to_pose"
  tagLen := 4
  cmdLen := 7
  replyLen := 1
  prototype :=
    "bool CommandInterface::move_hands_to_pose(" ++
    "const yarp::sig::Matrix& leftPose, const yarp::sig::Matrix& rightPose, " ++
    "const double time)"
  help := ""
  args := [.nested, .nested, .float64]
  ret := .bool

def moveJointsToPositionHelper : Helper where
  tag := "move_joints_to_position"
  tagLen := 4
  cmdLen := 6
  replyLen := 1
  prototype :=
    "bool CommandInterface::move_joints_to_position(" ++
    "const std::vector<double>& position, const double time)"
  help := ""
  args := [.listFloat64, .float64]
  ret := .bool

def moveObjectToPoseHelper : Helper where
  tag := "move_object_to_pose"
  tagLen := 4
  cmdLen := 6
  replyLen := 1
  prototype :=
    "bool CommandInterface::move_object_to_pose(" ++
    "const yarp::sig::Matrix& pose, const double time)"
  help := ""
  args := [.nested, .float64]
  ret := .bool

def releaseObjectHelper : Helper where
  tag := "release_object"
  tagLen := 2
  cmdLen := 2
  replyLen := 1
  prototype := "bool CommandInterface::release_object()"
  help := ""
  args := []
  ret := .bool

def stopHelper : Helper where
  tag := "stop"
  tagLen := 1
  cmdLen := 1
  replyLen := 0
  prototype := "void CommandInterface::stop()"
  help := ""
  args := []
  ret := .void

def shutDownHelper : Helper where
  tag := "shut_down"
  tagLen := 2
  cmdLen := 2
  replyLen := 0
  prototype := "void CommandInterface::shut_down()"
  help := ""
  args := []
  ret := .void

/-- The functions `CommandInterface::read` tells apart. -/
def interface : Interface where
  maxTagLen := 4
  helpers := [
    graspHelper,
    isFinishedHelper,
    performCartesianActionHelper,
    performGraspActionHelper,
    performJointSpaceActionHelper,
    moveHandsToPoseHelper,
    moveJointsToPositionHelper,
    moveObjectToPoseHelper,
    releaseObjectHelper,
    stopHelper,
    shutDownHelper]

end CommandInterface

/-- The functions a manipulation server overrides. -/
@[ext] structure CommandInterface (σ : Type) where
  grasp : σ → Bool × σ
  isFinished : σ → Bool × σ
  performCartesianAction : String → σ → Bool × σ
  performGraspAction : String → σ → Bool × σ
  performJointSpaceAction : String → σ → Bool × σ
  moveHandsToPose : Matrix → Matrix → Double → σ → Bool × σ
  moveJointsToPosition : List Double → Double → σ → Bool × σ
  moveObjectToPose : Matrix → Double → σ → Bool × σ
  releaseObject : σ → Bool × σ
  stop : σ → σ
  shutDown : σ → σ

/-- The dispatch of the class: every function is called with the arguments of the
    message. -/
def CommandInterface.service {σ : Type} (server : CommandInterface σ) :
    Service CommandInterface.interface σ where
  methods := [
    ⟨CommandInterface.graspHelper, fun _ object => server.grasp object⟩,
    ⟨CommandInterface.isFinishedHelper, fun _ object => server.isFinished object⟩,
    ⟨CommandInterface.performCartesianActionHelper, fun (actionName, ()) object =>
      server.performCartesianAction actionName object⟩,
    ⟨CommandInterface.performGraspActionHelper, fun (actionName, ()) object =>
      server.performGraspAction actionName object⟩,
    ⟨CommandInterface.performJointSpaceActionHelper, fun (actionName, ()) object =>
      server.performJointSpaceAction actionName object⟩,
    ⟨CommandInterface.moveHandsToPoseHelper, fun (leftPose, rightPose, time, ()) object =>
      server.moveHandsToPose leftPose rightPose time object⟩,
    ⟨CommandInterface.moveJointsToPositionHelper, fun (position, time, ()) object =>
      server.moveJointsToPosition position time object⟩,
    ⟨CommandInterface.moveObjectToPoseHelper, fun (pose, time, ()) object =>
      server.moveObjectToPose pose time object⟩,
    ⟨CommandInterface.releaseObjectHelper, fun _ object => server.releaseObject object⟩,
    ⟨CommandInterface.stopHelper, fun _ object => ((), server.stop object)⟩,
    ⟨CommandInterface.shutDownHelper, fun _ object => ((), server.shutDown object)⟩]
  helpers_eq := rfl

-- ============================================================================
-- RPCServerInterface
-- ============================================================================

namespace RPCServerInterface

def lookAtHelper : Helper where
  tag := "look_at"
  tagLen := 2
  cmdLen := 3
  replyLen := 1
  prototype := "bool RPCServerInterface::look_at(const std::vector<double>& point)"
  help := ""
  args := [.listFloat64]
  ret := .bool

def setGainHelper : Helper where
  tag := "set_gain"
  tagLen := 2
  cmdLen := 3
  replyLen := 1
  prototype := "bool RPCServerInterface::set_gain(const double gain)"
  help := ""
  args := [.float64]
  ret := .bool

/-- The functions `RPCServerInterface::read` tells apart. -/
def interface : Interface where
  maxTagLen := 2
  helpers := [
    lookAtHelper,
    setGainHelper]

end RPCServerInterface

/-- The functions a gaze controller overrides. -/
@[ext] structure RPCServerInterface (σ : Type) where
  lookAt : List Double → σ → Bool × σ
  setGain : Double → σ → Bool × σ

/-- The dispatch of the class: every function is called with the arguments of the
    message. -/
def RPCServerInterface.service {σ : Type} (server : RPCServerInterface σ) :
    Service RPCServerInterface.interface σ where
  methods := [
    ⟨RPCServerInterface.lookAtHelper, fun (point, ()) object =>
      server.lookAt point object⟩,
    ⟨RPCServerInterface.setGainHelper, fun (gain, ()) object =>
      server.setGain gain object⟩]
  helpers_eq := rfl

-- ============================================================================
-- ergoCubEmotions_IDL
-- ============================================================================

namespace ErgoCubEmotionsIDL

def setEmotionHelper : Helper where
  tag := "setEmotion"
  tagLen := 1
  cmdLen := 2
  replyLen := 1
  prototype := "bool ergoCubEmotions_IDL::setEmotion(const std::string& command)"
  help :=
    "Display a specific facial expression.\n" ++
    "@param command is the name of the emotion that will be set.\n" ++
    "@return true/false on success/failure."
  args := [.string]
  ret := .bool

def availableEmotionsHelper : Helper where
  tag := "availableEmotions"
  tagLen := 1
  cmdLen := 1
  replyLen := 1
  prototype := "std::vector<std::string> ergoCubEmotions_IDL::availableEmotions()"
  help :=
    "Print the list of all the available facial expressions.\n" ++
    "@return a list of commands."
  args := []
  ret := .listString

/-- The functions `ergoCubEmotions_IDL::read` tells apart. -/
def interface : Interface where
  maxTagLen := 1
  helpers := [
    setEmotionHelper,
    availableEmotionsHelper]

end ErgoCubEmotionsIDL

/-- The functions an emotions server overrides. -/
@[ext] structure ErgoCubEmotionsIDL (σ : Type) where
  setEmotion : String → σ → Bool × σ
  availableEmotions : σ → List String × σ

/-- The dispatch of the class: every function is called with the arguments of the
    message. -/
def ErgoCubEmotionsIDL.service {σ : Type} (server : ErgoCubEmotionsIDL σ) :
    Service ErgoCubEmotionsIDL.interface σ where
  methods := [
    ⟨ErgoCubEmotionsIDL.setEmotionHelper, fun (command, ()) object =>
      server.setEmotion command object⟩,
    ⟨ErgoCubEmotionsIDL.availableEmotionsHelper, fun _ object => server.availableEmotions object⟩]
  helpers_eq := rfl

end ErgoCubBehavior
