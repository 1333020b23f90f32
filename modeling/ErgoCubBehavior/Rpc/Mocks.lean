/-
  ErgoCubBehavior.Rpc.Mocks

  The servers of `src/mock_components`, which stand in for the manipulation, the
  gaze controller and the emotions.  None of them keeps a state.

  `MockEmotions::setEmotion` takes its argument by value, so it does not override
  the function of the class, which takes a reference: the dispatcher calls the
  function of the class, and this one calls over the object's own link.
-/

import ErgoCubBehavior.Rpc.Deployment

namespace ErgoCubBehavior

def MockManipulation : CommandInterface Unit where
  grasp _ := (true, ())
  isFinished _ := (true, ())
  performCartesianAction _ _ := (true, ())
  performGraspAction _ _ := (true, ())
  performJointSpaceAction _ _ := (true, ())
  moveHandsToPose _ _ _ _ := (true, ())
  moveJointsToPosition _ _ _ := (true, ())
  moveObjectToPose _ _ _ := (true, ())
  releaseObject _ := (true, ())
  stop _ := ()
  shutDown _ := ()

def MockGazeController : RPCServerInterface Unit where
  lookAt _ _ := (true, ())
  setGain _ _ := (true, ())

/-- `link` is `yarp()` of the server. -/
def MockEmotions (link : WireLink Unit) : ErgoCubEmotionsIDL Unit :=
  { ErgoCubEmotionsIDL.base link with
    availableEmotions := fun _ => (["none"], ()) }

/-- The link of an object on a port that only receives: nothing it writes arrives. -/
def WireLink.ReceivesOnly {σ : Type} (link : WireLink σ) : Prop :=
  ∀ h args o, link.write h args o = (none, o)

/-- The mocks in the place of the components. -/
def mockComponents (link : WireLink Unit) : Components Unit where
  manipulation := MockManipulation
  gaze := MockGazeController
  emotions := MockEmotions link

/-- What a mock answers to the call behind an event. -/
theorem mockComponents_perform {link : WireLink Unit} (hlink : link.ReceivesOnly) {e : Event}
    {f : Unit → Bool × Unit} (hf : (mockComponents link).perform e = some f) :
    (f ()).1 = match e with
      | .setEmotion _ _ => false
      | _ => true := by
  cases e with
  | setEmotion command answer =>
      cases hf
      have hnone := hlink ErgoCubEmotionsIDL.setEmotionHelper (command, ()) ()
      exact congrArg (fun x => x.1.getD false) hnone
  | isFinished | performJointSpaceAction | lookAt | setGain =>
      cases hf
      rfl
  | _ => cases hf

end ErgoCubBehavior
