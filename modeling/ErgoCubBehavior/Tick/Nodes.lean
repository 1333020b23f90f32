/-
  ErgoCubBehavior.Tick.Nodes

  What one tick of each node does, in closed form: the result, the new memory
  and the events appended to the log, as functions of the answers and of what
  the node reads.  Nothing after this module unfolds a node again.

  * `sighting` — what a detector makes of a position;
  * `RobotLookAtPOI.next`, `gainEvents`, `restEvents` — the gaze node;
  * `RobotChangeFace.emotionFor`, `emotionEvents` — the face node;
  * `DoResponseAction.command`, `confirms`, `sendEvents` — the response node;
  * `tick_missing`, `tick_short`, `tick_come_short` — ticks that throw;
  * `GoGrasp.onStart_run`, `onRunning_grasp`, `onRunning_wait`, `onHalted_run` — the
    grasp node.
-/

import ErgoCubBehavior.Robot.Ergotree

namespace ErgoCubBehavior

open BehaviorTree Binary64

variable {m : Memory} {l : List Event}

-- ============================================================================
-- Ports, calls and fields
-- ============================================================================

@[simp] theorem log_run (e : Event) : (log e).run ⟨m, l⟩ = .ok () ⟨m, l ++ [e]⟩ := rfl

@[simp] theorem modifyMemory_run (f : Memory → Memory) :
    (modifyMemory f).run ⟨m, l⟩ = .ok () ⟨f m, l⟩ := rfl

@[simp] theorem getInput_run (reader : Node) (entry : StringEntry) :
    (getInput reader entry).run ⟨m, l⟩ =
      .ok (m.blackboard.get entry)
        ⟨m, l ++ [.getInput reader entry (m.blackboard.get entry)]⟩ := rfl

@[simp] theorem getInputVector_run (reader : Node) (entry : VectorEntry) :
    (getInputVector reader entry).run ⟨m, l⟩ =
      .ok (m.blackboard.getVector entry)
        ⟨m, l ++ [.getInputVector reader entry (m.blackboard.getVector entry)]⟩ := rfl

@[simp] theorem setOutput_run (writer : Node) (entry : StringEntry) (value : String) :
    (setOutput writer entry value).run ⟨m, l⟩ =
      .ok () ⟨{ m with blackboard := m.blackboard.set value entry },
        l ++ [.setOutput writer entry value]⟩ := rfl

@[simp] theorem setOutputVector_run (writer : Node) (entry : VectorEntry)
    (value : List Double) :
    (setOutputVector writer entry value).run ⟨m, l⟩ =
      .ok () ⟨{ m with blackboard := m.blackboard.setVector value entry },
        l ++ [.setOutputVector writer entry value]⟩ := rfl

@[simp] theorem call_run {α : Type} (e : Event) (answer : α) :
    (call e answer).run ⟨m, l⟩ = .ok answer ⟨m, l ++ [e]⟩ := rfl

@[simp] theorem isFinished_run (env : Env) (client : Node) :
    (isFinished env client).run ⟨m, l⟩ =
      .ok (env.isFinished (finishedCalls l))
        ⟨m, l ++ [.isFinished client (env.isFinished (finishedCalls l))]⟩ := rfl

@[simp] theorem performJointSpaceAction_run (env : Env) (client : Node) (name : String) :
    (performJointSpaceAction env client name).run ⟨m, l⟩ =
      .ok (env.performJointSpaceAction (motionCalls l))
        ⟨m, l ++ [.performJointSpaceAction client name
          (env.performJointSpaceAction (motionCalls l))]⟩ := rfl

@[simp] theorem throw_run {α : Type} (e : Exception) :
    (throw e : TickM α).run ⟨m, l⟩ = .error e ⟨m, l⟩ := rfl

-- ============================================================================
-- Navigation
-- ============================================================================

/-- The newest unread navigation message says `ACCEPTED` or `EXECUTING`. -/
def Env.navigating (env : Env) : Bool :=
  env.navigation.getLast? = some 1 ∨ env.navigation.getLast? = some 2

theorem RobotNavigating.tick_run (env : Env) :
    (RobotNavigating.tick env).run ⟨m, l⟩ =
      .ok (if env.navigating then .failure else .success)
        ⟨m, l ++ [.readNavigation env.navigation.getLast?]⟩ := by
  simp only [RobotNavigating.tick, readNavigation, EStateM.run_bind, call_run, Env.navigating]
  split <;> simp_all

-- ============================================================================
-- Positions
-- ============================================================================

/-- The first three components of an answer, if it has that many. -/
def position : List Double → Option (List Double)
  | x :: y :: z :: _ => some [x, y, z]
  | _ => none

theorem copyPosition_run {v p : List Double} (h : position v = some p) :
    (copyPosition v).run ⟨m, l⟩ = .ok p ⟨m, l⟩ := by
  match v, h with
  | x :: y :: z :: _, h =>
      simp only [position, Option.some.injEq] at h
      simp [copyPosition, elementAt, ← h]

theorem copyPosition_run_short {v : List Double} (h : position v = none) :
    (copyPosition v).run ⟨m, l⟩ = .error .outOfBounds ⟨m, l⟩ := by
  match v, h with
  | [], _ => simp [copyPosition, elementAt]
  | [_], _ => simp [copyPosition, elementAt]
  | [_, _], _ => simp [copyPosition, elementAt]

/-- What a detector makes of the answer of its service. -/
inductive Sighting where
  /-- fewer than three components -/
  | short
  /-- `(0,0,0)` -/
  | dead
  /-- `(-1,-1,-1)` -/
  | absent
  /-- the three components of anything else -/
  | seen (position : List Double)
deriving DecidableEq, Repr

def sighting (answer : List Double) : Sighting :=
  match position answer with
  | none => .short
  | some p =>
      if areAllElementsZero p then .dead
      else if areAllElementsMinusOne p then .absent
      else .seen p

/-- A detector copies its position first and looks for the sentinels then. -/
theorem publishPosition_run (detector : Node) (poi : StringEntry) (poiPos : VectorEntry)
    (name what : String) (answer : List Double) :
    (publishPosition detector poi poiPos name what answer).run ⟨m, l⟩ =
      match sighting answer with
      | .short => .error .outOfBounds ⟨m, l⟩
      | .dead => .error (.runtimeError what) ⟨m, l⟩
      | .absent => .ok .failure ⟨m, l⟩
      | .seen p =>
          .ok .success ⟨{ m with
            blackboard := (m.blackboard.set name poi).setVector p poiPos },
            l ++ [.setOutput detector poi name, .setOutputVector detector poiPos p]⟩ := by
  unfold sighting
  cases hp : position answer with
  | none => rw [publishPosition, bind_error (copyPosition_run_short hp)]
  | some p =>
      rw [publishPosition, bind_ok (copyPosition_run hp)]
      by_cases hz : areAllElementsZero p = true
      · simp [hz]
      · by_cases hm : areAllElementsMinusOne p = true
        · simp [hz, hm]
        · simp [hz, hm]

theorem BoxDetected.tick_run (env : Env) (poi : StringEntry) (poiPos : VectorEntry) :
    (BoxDetected.tick env poi poiPos).run ⟨m, l⟩ =
      (publishPosition .boxDetected poi poiPos "object" BoxDetected.what env.getCenter).run
        ⟨m, l ++ [.getCenter env.getCenter]⟩ := by
  simp [BoxDetected.tick, getCenter]

theorem FaceDetected.tick_run (env : Env) (poi : StringEntry) (poiPos : VectorEntry) :
    (FaceDetected.tick env poi poiPos).run ⟨m, l⟩ =
      (publishPosition .faceDetected poi poiPos "face" FaceDetected.what
        env.getFacePosition).run ⟨m, l ++ [.getFacePosition env.getFacePosition]⟩ := by
  simp [FaceDetected.tick, getFacePosition]

-- ============================================================================
-- The other conditions, guards and setters
-- ============================================================================

/-- The distance `ObjectIsGraspable` accepts. -/
def Env.graspable (env : Env) : Bool :=
  250 ≤ env.getDistance ∧ env.getDistance < 400

theorem ObjectIsGraspable.tick_run (env : Env) :
    (ObjectIsGraspable.tick env).run ⟨m, l⟩ =
      .ok (if env.graspable then .success else .failure)
        ⟨m, l ++ [.getDistance env.getDistance]⟩ := by
  simp only [ObjectIsGraspable.tick, getDistance, EStateM.run_bind, call_run]
  by_cases hg : env.graspable = true
  · have hd : 250 ≤ env.getDistance ∧ env.getDistance < 400 := by
      simpa [Env.graspable] using hg
    rw [if_neg (by omega), if_pos hg]
    rfl
  · have hd : ¬ (250 ≤ env.getDistance ∧ env.getDistance < 400) := by
      simpa [Env.graspable] using hg
    rw [if_pos (by omega), if_neg hg]
    rfl

/-- What `FocusDetected` writes. -/
def Env.focus (env : Env) : String :=
  if env.isFocused then "yes" else "no"

theorem FocusDetected.tick_run (env : Env) (focus : StringEntry) :
    (FocusDetected.tick env focus).run ⟨m, l⟩ =
      .ok .success ⟨{ m with blackboard := m.blackboard.set env.focus focus },
        l ++ [.isFocused env.isFocused, .setOutput .focusDetected focus env.focus]⟩ := by
  cases hf : env.isFocused <;> simp [FocusDetected.tick, isFocused, Env.focus, hf]

theorem ActionDetected.tick_run (env : Env) (action : StringEntry) :
    (ActionDetected.tick env action).run ⟨m, l⟩ =
      .ok .success ⟨{ m with blackboard := m.blackboard.set env.getAction action },
        l ++ [.getAction env.getAction, .setOutput .actionDetected action env.getAction]⟩ := by
  simp [ActionDetected.tick, getAction]

theorem SetBlackboard.tick_run (outputKey : StringEntry) (value : String) :
    (SetBlackboard.tick outputKey value).run ⟨m, l⟩ =
      .ok .success ⟨{ m with blackboard := m.blackboard.set value outputKey },
        l ++ [.setOutput .setBlackboard outputKey value]⟩ := by
  simp [SetBlackboard.tick]

theorem BlackboardCheckString.check_run (g : BlackboardCheckString) :
    g.check.run ⟨m, l⟩ =
      .ok (decide (m.blackboard.get g.valueA = some g.valueB))
        ⟨m, l ++ [.checkString g.valueA (m.blackboard.get g.valueA) g.valueB]⟩ := by
  simp [BlackboardCheckString.check]

-- ============================================================================
-- RobotLookAtPOI
-- ============================================================================

namespace RobotLookAtPOI

/-- The fields after a tick that read `poi`. -/
def next (n : RobotLookAtPOI) (poi : String) : RobotLookAtPOI :=
  if poi = "none" then
    { noneCounter := increment n.noneCounter, lastPoi := "none" }
  else
    { noneCounter := 0, lastPoi := "not none" }

/-- The gain is set on the first tick and when `none` comes or goes. -/
def gainEvents (env : Env) (n : RobotLookAtPOI) (poi : String) : List Event :=
  if poi = "none" then
    if n.lastPoi ≠ "none" then [.setGain noneGain env.setGain] else []
  else
    if n.lastPoi ≠ "not none" then [.setGain poiGain env.setGain] else []

/-- With nothing in sight the robot looks at the rest point after 12 ticks. -/
def restEvents (env : Env) (n : RobotLookAtPOI) : List Event :=
  if increment n.noneCounter > 12 then [.lookAt restPoint env.lookAt] else []

variable {env : Env} {poiEntry : StringEntry} {posEntry : VectorEntry}

theorem tick_none (hpoi : m.blackboard.get poiEntry = some "none") :
    (tick env poiEntry posEntry).run ⟨m, l⟩ =
      .ok .success ⟨{ m with robotLookAtPOI := m.robotLookAtPOI.next "none" },
        l ++ .getInput .robotLookAtPOI poiEntry (some "none") ::
          (gainEvents env m.robotLookAtPOI "none" ++ restEvents env m.robotLookAtPOI)⟩ := by
  by_cases hlast : m.robotLookAtPOI.lastPoi = "none" <;>
    by_cases hrest : increment m.robotLookAtPOI.noneCounter > 12 <;>
    simp [tick, next, gainEvents, restEvents, setGain, lookAt, setLastPoi, setNoneCounter,
      hpoi, hlast, hrest]

theorem tick_poi {poi : String} {v p : List Double}
    (hpoi : m.blackboard.get poiEntry = some poi) (hne : poi ≠ "none")
    (hpos : m.blackboard.getVector posEntry = some v) (hp : position v = some p) :
    (tick env poiEntry posEntry).run ⟨m, l⟩ =
      .ok .success ⟨{ m with robotLookAtPOI := m.robotLookAtPOI.next poi },
        l ++ .getInput .robotLookAtPOI poiEntry (some poi) ::
          (gainEvents env m.robotLookAtPOI poi ++
            [.getInputVector .robotLookAtPOI posEntry (some v), .lookAt p env.lookAt])⟩ := by
  by_cases hlast : m.robotLookAtPOI.lastPoi = "not none" <;>
    simp [tick, next, gainEvents, setGain, lookAt, setLastPoi, setNoneCounter,
      hpoi, hne, hpos, hlast, copyPosition_run hp]

theorem tick_missing (hpoi : m.blackboard.get poiEntry = none) :
    (tick env poiEntry posEntry).run ⟨m, l⟩ =
      .error (.missingRequiredInput "poi")
        ⟨m, l ++ [.getInput .robotLookAtPOI poiEntry none]⟩ := by
  simp [tick, hpoi]

/-- Without a position to look at the tick throws after it has set its fields. -/
theorem tick_short {poi : String} (hpoi : m.blackboard.get poiEntry = some poi)
    (hne : poi ≠ "none") (hpos : (m.blackboard.getVector posEntry).bind position = none) :
    (tick env poiEntry posEntry).run ⟨m, l⟩ =
      .error (if (m.blackboard.getVector posEntry).isSome then .outOfBounds
          else .missingRequiredInput "poi_pos")
        ⟨{ m with robotLookAtPOI := m.robotLookAtPOI.next poi },
          l ++ .getInput .robotLookAtPOI poiEntry (some poi) ::
            (gainEvents env m.robotLookAtPOI poi ++
              [.getInputVector .robotLookAtPOI posEntry (m.blackboard.getVector posEntry)])⟩ := by
  cases hv : m.blackboard.getVector posEntry with
  | none =>
      by_cases hlast : m.robotLookAtPOI.lastPoi = "not none" <;>
        simp [tick, next, gainEvents, setGain, setLastPoi, setNoneCounter, hpoi, hne, hv, hlast]
  | some v =>
      have hshort : position v = none := by simpa [hv] using hpos
      by_cases hlast : m.robotLookAtPOI.lastPoi = "not none" <;>
        simp [tick, next, gainEvents, setGain, setLastPoi, setNoneCounter, hpoi, hne, hv, hlast,
          copyPosition_run_short hshort]

end RobotLookAtPOI

-- ============================================================================
-- RobotChangeFace
-- ============================================================================

namespace RobotChangeFace

/-- The emotion to send and the tag to remember, if the face has to change. -/
def emotionFor (n : RobotChangeFace) (poi hasBox : String) : Option (String × String) :=
  if hasBox = "yes" ∧ n.lastSentEmotion ≠ "has_box" then some ("shy", "has_box")
  else if poi = "none" ∧ n.lastSentEmotion ≠ "none" ∧ hasBox = "no" then
    some ("neutral", "none")
  else if poi = "face" ∧ n.lastSentEmotion ≠ "face" ∧ hasBox = "no" then
    some ("happy", "face")
  else if poi = "object" ∧ n.lastSentEmotion ≠ "object" ∧ hasBox = "no" then
    some ("alert", "object")
  else none

def next (n : RobotChangeFace) (poi hasBox : String) : RobotChangeFace :=
  match n.emotionFor poi hasBox with
  | some (_, tag) => { lastSentEmotion := tag }
  | none => n

def emotionEvents (env : Env) (n : RobotChangeFace) (poi hasBox : String) : List Event :=
  match n.emotionFor poi hasBox with
  | some (emotion, _) => [.setEmotion emotion env.setEmotion]
  | none => []

theorem tick_run {env : Env} {poiEntry boxEntry : StringEntry} {poi hasBox : String}
    (hpoi : m.blackboard.get poiEntry = some poi)
    (hbox : m.blackboard.get boxEntry = some hasBox) :
    (tick env poiEntry boxEntry).run ⟨m, l⟩ =
      .ok .success ⟨{ m with robotChangeFace := m.robotChangeFace.next poi hasBox },
        l ++ [.getInput .robotChangeFace poiEntry (some poi),
          .getInput .robotChangeFace boxEntry (some hasBox)] ++
          emotionEvents env m.robotChangeFace poi hasBox⟩ := by
  simp only [tick, next, emotionEvents, emotionFor, EStateM.run_bind, getInput_run,
    EStateM.run_get, hpoi, hbox]
  -- the cascade of the source and that of `emotionFor` split alike
  split_ifs <;> simp [send, setEmotion]

/-- An input that cannot be read ends the tick before it has done anything. -/
theorem tick_missing {poiEntry boxEntry : StringEntry}
    (h : m.blackboard.get poiEntry = none ∨ m.blackboard.get boxEntry = none) :
    ∃ inputs, (∀ e ∈ inputs, ∃ entry value, e = .getInput .robotChangeFace entry value) ∧
      ∀ env : Env, (tick env poiEntry boxEntry).run ⟨m, l⟩ =
        .error (.missingRequiredInput "poi") ⟨m, l ++ inputs⟩ := by
  cases hpoi : m.blackboard.get poiEntry with
  | none =>
      exact ⟨[.getInput .robotChangeFace poiEntry none], by simp, fun env => by
        simp [tick, hpoi]⟩
  | some poi =>
      have hbox : m.blackboard.get boxEntry = none := by simpa [hpoi] using h
      exact ⟨[.getInput .robotChangeFace poiEntry (some poi),
        .getInput .robotChangeFace boxEntry none], by simp, fun env => by
        simp [tick, hpoi, hbox]⟩

end RobotChangeFace

-- ============================================================================
-- DoResponseAction
-- ============================================================================

namespace DoResponseAction

/-- The actions the robot answers with a gesture of the same name. -/
def isGesture (action : String) : Bool :=
  action = "wave" ∨ action = "shake" ∨ action = "t_pose"

/-- The command a tick sends once the last motion is finished, with the value it
    remembers. -/
def command (n : DoResponseAction) (action focus hasBox : String) :
    Option (String × String) :=
  if hasBox = "yes" then
    if action = "release" ∧ n.lastSentCommand ≠ "release" ∧ focus = "yes" then
      some ("ready", "release")
    else none
  else if isGesture action then
    if n.lastSentCommand ≠ action ∧ focus = "yes" then some (action, action) else none
  else if n.lastSentCommand ≠ "home" then some ("home", "home")
  else none

/-- The tick that finds a release finished puts the box down. -/
def confirms (n : DoResponseAction) (hasBox : String) : Bool :=
  hasBox = "yes" ∧ n.wasReleasing = true

/-- The fields after a tick that found the last motion finished. -/
def next (n : DoResponseAction) (action focus hasBox : String) : DoResponseAction where
  lastSentCommand :=
    match n.command action focus hasBox with
    | some (_, tag) => tag
    | none => n.lastSentCommand
  wasReleasing :=
    if hasBox = "yes" then (n.command action focus hasBox).isSome else n.wasReleasing

def inputEvents (action focus hasBox : String)
    (actionEntry focusEntry boxEntry : StringEntry) : List Event :=
  [.getInput .doResponseAction actionEntry (some action),
    .getInput .doResponseAction focusEntry (some focus),
    .getInput .doResponseAction boxEntry (some hasBox)]

def comeEvents (env : Env) (action : String) (human : List Double) : List Event :=
  if action = "come" then [.getHumanPosition env.getHumanPosition, .writePose human] else []

def confirmEvents (n : DoResponseAction) (hasBox : String) (outEntry : StringEntry) :
    List Event :=
  if n.confirms hasBox then [.setOutput .doResponseAction outEntry "no"] else []

/-- `k` motions have been commanded before in this tick. -/
def sendEvents (env : Env) (n : DoResponseAction) (action focus hasBox : String) (k : Nat) :
    List Event :=
  match n.command action focus hasBox with
  | some (name, _) =>
      [.performJointSpaceAction .doResponseAction name (env.performJointSpaceAction k)]
  | none => []

section Run

variable {env : Env} {actionEntry focusEntry boxEntry outEntry : StringEntry}
  {action focus hasBox : String}

theorem tick_missing (outEntry : StringEntry)
    (h : m.blackboard.get actionEntry = none ∨ m.blackboard.get focusEntry = none ∨
      m.blackboard.get boxEntry = none) :
    ∃ inputs port, (∀ e ∈ inputs, ∃ entry value, e = .getInput .doResponseAction entry value) ∧
      ∀ env : Env, (tick env actionEntry focusEntry boxEntry outEntry).run ⟨m, l⟩ =
        .error (.missingRequiredInput port) ⟨m, l ++ inputs⟩ := by
  cases haction : m.blackboard.get actionEntry with
  | none =>
      exact ⟨[.getInput .doResponseAction actionEntry none], "action", by simp, fun env => by
        simp [tick, haction]⟩
  | some action =>
      cases hfocus : m.blackboard.get focusEntry with
      | none =>
          exact ⟨[.getInput .doResponseAction actionEntry (some action),
            .getInput .doResponseAction focusEntry none], "focus", by simp, fun env => by
            simp [tick, haction, hfocus]⟩
      | some focus =>
          have hbox : m.blackboard.get boxEntry = none := by simpa [haction, hfocus] using h
          exact ⟨[.getInput .doResponseAction actionEntry (some action),
            .getInput .doResponseAction focusEntry (some focus),
            .getInput .doResponseAction boxEntry none], "has_box_in", by simp, fun env => by
            simp [tick, haction, hfocus, hbox]⟩

theorem tick_unfinished (haction : m.blackboard.get actionEntry = some action)
    (hfocus : m.blackboard.get focusEntry = some focus)
    (hbox : m.blackboard.get boxEntry = some hasBox)
    (hfin : env.isFinished (finishedCalls l) = false) :
    (tick env actionEntry focusEntry boxEntry outEntry).run ⟨m, l⟩ =
      .ok .failure ⟨m, l ++ (inputEvents action focus hasBox actionEntry focusEntry boxEntry ++
        [.isFinished .doResponseAction false])⟩ := by
  have hcalls : finishedCalls (l ++ inputEvents action focus hasBox actionEntry focusEntry
      boxEntry) = finishedCalls l := by
    simp [finishedCalls, inputEvents]
  simp only [inputEvents] at hcalls
  simp [tick, inputEvents, haction, hfocus, hbox, hcalls, hfin]

theorem tick_come_short (haction : m.blackboard.get actionEntry = some "come")
    (hfocus : m.blackboard.get focusEntry = some focus)
    (hbox : m.blackboard.get boxEntry = some hasBox)
    (hfin : env.isFinished (finishedCalls l) = true)
    (hhuman : position env.getHumanPosition = none) :
    (tick env actionEntry focusEntry boxEntry outEntry).run ⟨m, l⟩ =
      .error .outOfBounds ⟨m, l ++ (inputEvents "come" focus hasBox actionEntry focusEntry
        boxEntry ++ [.isFinished .doResponseAction true,
          .getHumanPosition env.getHumanPosition])⟩ := by
  have hcalls : finishedCalls (l ++ inputEvents "come" focus hasBox actionEntry focusEntry
      boxEntry) = finishedCalls l := by
    simp [finishedCalls, inputEvents]
  simp only [inputEvents] at hcalls
  simp [tick, inputEvents, sendHumanPosition, getHumanPosition, haction, hfocus, hbox, hcalls,
    hfin, copyPosition_run_short hhuman]

theorem hasBoxCommands_run :
    (hasBoxCommands env action focus outEntry).run ⟨m, l⟩ =
      .ok (if (m.doResponseAction.command action focus "yes").isSome then .success else .failure)
        ⟨{ m with
            doResponseAction := m.doResponseAction.next action focus "yes"
            blackboard :=
              if m.doResponseAction.confirms "yes" then m.blackboard.set "no" outEntry
              else m.blackboard },
          l ++ (confirmEvents m.doResponseAction "yes" outEntry ++
            sendEvents env m.doResponseAction action focus "yes" (motionCalls l))⟩ := by
  obtain ⟨board, gaze, face, ⟨last, was⟩, grasp⟩ := m
  by_cases hrelease : action = "release" <;>
    by_cases hsend : last ≠ "release" ∧ focus = "yes" <;>
    cases was <;>
    simp [hasBoxCommands, command, next, confirms, confirmEvents, sendEvents, setWasReleasing,
      setLastSentCommand, motionCalls, hrelease, hsend]

theorem hriCommands_run (hbox : hasBox ≠ "yes") :
    (hriCommands env action focus).run ⟨m, l⟩ =
      .ok (if (m.doResponseAction.command action focus hasBox).isSome then .success else .failure)
        ⟨{ m with doResponseAction := m.doResponseAction.next action focus hasBox },
          l ++ sendEvents env m.doResponseAction action focus hasBox (motionCalls l)⟩ := by
  obtain ⟨board, gaze, face, ⟨last, was⟩, grasp⟩ := m
  by_cases hgesture : action = "wave" ∨ action = "shake" ∨ action = "t_pose"
  · by_cases hsend : last ≠ action ∧ focus = "yes" <;>
      simp [hriCommands, command, next, sendEvents, isGesture, setLastSentCommand, hbox, hgesture,
        hsend]
  · by_cases hsend : last = "home" <;>
      simp [hriCommands, command, next, sendEvents, isGesture, setLastSentCommand, hbox, hgesture,
        hsend]

/-- The come action does not change what follows it. -/
theorem come_run {human : List Double} (x : TickM TickStatus)
    (hhuman : action = "come" → position env.getHumanPosition = some human) :
    (if action = "come" then do sendHumanPosition env; x else x).run ⟨m, l⟩ =
      x.run ⟨m, l ++ comeEvents env action human⟩ := by
  by_cases h : action = "come"
  · simp [h, comeEvents, sendHumanPosition, getHumanPosition, copyPosition_run (hhuman h)]
  · simp [h, comeEvents]

theorem tick_finished {human : List Double}
    (haction : m.blackboard.get actionEntry = some action)
    (hfocus : m.blackboard.get focusEntry = some focus)
    (hbox : m.blackboard.get boxEntry = some hasBox)
    (hfin : env.isFinished (finishedCalls l) = true)
    (hhuman : action = "come" → position env.getHumanPosition = some human) :
    (tick env actionEntry focusEntry boxEntry outEntry).run ⟨m, l⟩ =
      .ok (if (m.doResponseAction.command action focus hasBox).isSome then .success else .failure)
        ⟨{ m with
            doResponseAction := m.doResponseAction.next action focus hasBox
            blackboard :=
              if m.doResponseAction.confirms hasBox then m.blackboard.set "no" outEntry
              else m.blackboard },
          l ++ (inputEvents action focus hasBox actionEntry focusEntry boxEntry ++
            .isFinished .doResponseAction true :: (comeEvents env action human ++
              (confirmEvents m.doResponseAction hasBox outEntry ++
                sendEvents env m.doResponseAction action focus hasBox (motionCalls l))))⟩ := by
  have hcalls : finishedCalls (l ++ inputEvents action focus hasBox actionEntry focusEntry
      boxEntry) = finishedCalls l := by
    simp [finishedCalls, inputEvents]
  -- the log when the commands are reached has no motion more than `l`
  have hmotions : motionCalls (l ++ (inputEvents action focus hasBox actionEntry focusEntry
      boxEntry ++ .isFinished .doResponseAction true :: comeEvents env action human)) =
        motionCalls l := by
    by_cases h : action = "come" <;> simp [motionCalls, inputEvents, comeEvents, h]
  simp only [inputEvents, List.cons_append, List.nil_append] at hcalls hmotions
  by_cases hyes : hasBox = "yes"
  · subst hyes
    simp [tick, haction, hfocus, hbox, hcalls, hfin, come_run _ hhuman, hasBoxCommands_run,
      hmotions, inputEvents]
  · have hconfirms : m.doResponseAction.confirms hasBox = false := by simp [confirms, hyes]
    simp [tick, haction, hfocus, hbox, hcalls, hfin, come_run _ hhuman, hriCommands_run hyes,
      hmotions, inputEvents, hyes, hconfirms, confirmEvents]

end Run

end DoResponseAction

-- ============================================================================
-- GoGrasp
-- ============================================================================

namespace GoGrasp

variable {env : Env} {boxEntry : StringEntry}

theorem onStart_run :
    (tick env boxEntry .idle).run ⟨m, l⟩ =
      .ok .running ⟨{ m with goGrasp := { ready := some false } },
        l ++ [.onStart,
          .performJointSpaceAction .goGrasp "ready"
            (env.performJointSpaceAction (motionCalls l))]⟩ := by
  simp [tick, onStart, setReady, motionCalls]

/-- The approach is finished: grasp, and believe at once that the box is held. -/
theorem onRunning_grasp (hready : m.goGrasp.ready = some false)
    (hfin : env.isFinished (finishedCalls l) = true) :
    (tick env boxEntry .running).run ⟨m, l⟩ =
      .ok .running ⟨{ m with
          goGrasp := { ready := some true }
          blackboard := m.blackboard.set "yes" boxEntry },
        l ++ [.onRunning, .isFinished .goGrasp true, .setOutput .goGrasp boxEntry "yes",
          .performJointSpaceAction .goGrasp "bottom_grasp"
            (env.performJointSpaceAction (motionCalls l))]⟩ := by
  have hcalls : finishedCalls (l ++ [.onRunning]) = finishedCalls l := by simp [finishedCalls]
  simp [tick, onRunning, getReady, setReady, motionCalls, hcalls, hfin, hready]

/-- The approach is not finished; the second question changes nothing. -/
theorem onRunning_wait (hready : m.goGrasp.ready = some false)
    (hfin : env.isFinished (finishedCalls l) = false) :
    (tick env boxEntry .running).run ⟨m, l⟩ =
      .ok .running ⟨m, l ++ [.onRunning, .isFinished .goGrasp false,
        .isFinished .goGrasp (env.isFinished (finishedCalls l + 1))]⟩ := by
  have hcalls : finishedCalls (l ++ [.onRunning]) = finishedCalls l := by simp [finishedCalls]
  have hagain : finishedCalls (l ++ [.onRunning, .isFinished .goGrasp false]) =
      finishedCalls l + 1 := by
    simp [finishedCalls]
  cases hsecond : env.isFinished (finishedCalls l + 1) <;>
    simp [tick, onRunning, getReady, hcalls, hagain, hfin, hsecond, hready]

/-- A halted approach is answered with `home`, a halted grasp with nothing. -/
def haltEvents (env : Env) (ready : Bool) (k : Nat) : List Event :=
  .onHalted ::
    if ready then [] else [.performJointSpaceAction .goGrasp "home" (env.performJointSpaceAction k)]

theorem onHalted_run {ready : Bool} (hready : m.goGrasp.ready = some ready) :
    (onHalted env).run ⟨m, l⟩ = .ok () ⟨m, l ++ haltEvents env ready (motionCalls l)⟩ := by
  cases ready <;> simp [onHalted, getReady, haltEvents, motionCalls, hready]

end GoGrasp

end ErgoCubBehavior
