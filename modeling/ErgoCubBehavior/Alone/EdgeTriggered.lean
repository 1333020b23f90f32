/-
  ErgoCubBehavior.Alone.EdgeTriggered

  Three nodes send a command only when it differs from the last one they have sent.
  What the server answers is dropped, so a command that has failed counts as sent.

  * `tick_command`           — a tick sends the command its inputs call for and
    remembers it, or does neither;
  * `command_settled`        — a command that is remembered is not called for again;
  * `refused_not_repeated`   — a command that fails is remembered all the same, and
    unchanged inputs never send a second one.
-/

import ErgoCubBehavior.Alone.Gaze
import ErgoCubBehavior.Alone.Response

namespace ErgoCubBehavior

open BehaviorTree Binary64 Transition

variable {env : Env} {m m' : Memory} {h : List NodeRecord} {t : NodeRecord} {l : List Event}

-- ============================================================================
-- Commands sent on an edge
-- ============================================================================

/-- The calls that a node remembers to have made. -/
def Message.isTriggered : Message → Bool
  | .setGain _ => true
  | .setEmotion _ => true
  | .performJointSpaceAction _ _ => true
  | _ => false

def triggered (l : List Event) : List Message :=
  (messages l).filter Message.isTriggered

@[simp] theorem triggered_append (l₁ l₂ : List Event) :
    triggered (l₁ ++ l₂) = triggered l₁ ++ triggered l₂ := by
  simp [triggered]

inductive EdgeTriggered where
  | robotLookAtPOI (poi : StringEntry) (poiPos : VectorEntry)
  | robotChangeFace (hasBox poi : StringEntry)
  | doResponseAction (action focus hasBoxIn hasBoxOut : StringEntry)
deriving DecidableEq, Repr

namespace EdgeTriggered

def leaf : EdgeTriggered → Leaf
  | .robotLookAtPOI poi poiPos => .robotLookAtPOI poi poiPos
  | .robotChangeFace hasBox poi => .robotChangeFace hasBox poi
  | .doResponseAction action focus hasBoxIn hasBoxOut =>
      .doResponseAction action focus hasBoxIn hasBoxOut

/-- The entries that decide which command is called for. -/
def inputs : EdgeTriggered → List StringEntry
  | .robotLookAtPOI poi _ => [poi]
  | .robotChangeFace hasBox poi => [poi, hasBox]
  | .doResponseAction action focus hasBoxIn _ => [action, focus, hasBoxIn]

/-- `last_poi`, `last_sent_emotion` or `last_sent_command` -/
def lastSent : EdgeTriggered → Memory → String
  | .robotLookAtPOI _ _, m => m.robotLookAtPOI.lastPoi
  | .robotChangeFace _ _, m => m.robotChangeFace.lastSentEmotion
  | .doResponseAction _ _ _ _, m => m.doResponseAction.lastSentCommand

/-- The command that the values read call for, unless `last` says that it has been
    sent, with the value that stands for it. -/
def command (read : StringEntry → Option String) (last : String) :
    EdgeTriggered → Option (Message × String)
  | .robotLookAtPOI poi _ => do
      let poi ← read poi
      if last = tagOf (some poi) then none
      else some (.setGain (gainOf (some poi)), tagOf (some poi))
  | .robotChangeFace hasBox poi => do
      let (emotion, tag) ←
        RobotChangeFace.emotionFor { lastSentEmotion := last } (← read poi) (← read hasBox)
      return (.setEmotion emotion, tag)
  | .doResponseAction action focus hasBoxIn _ => do
      let (name, tag) ←
        DoResponseAction.command { lastSentCommand := last, wasReleasing := false }
          (← read action) (← read focus) (← read hasBoxIn)
      return (.performJointSpaceAction .doResponseAction name, tag)

end EdgeTriggered

-- ============================================================================
-- What is sent
-- ============================================================================

theorem triggered_of_messages (hnone : messages l = []) : triggered l = [] := by
  rw [triggered, hnone, List.filter_nil]

theorem triggered_gainEvents (env : Env) (n : RobotLookAtPOI) (poi : String) :
    triggered (n.gainEvents env poi) =
      if n.lastPoi = tagOf (some poi) then [] else [.setGain (gainOf (some poi))] := by
  unfold RobotLookAtPOI.gainEvents tagOf gainOf
  by_cases hnone : poi = "none"
  · by_cases hlast : n.lastPoi = "none" <;> simp [hnone, hlast, triggered, Event.message?,
      Message.isTriggered]
  · by_cases hlast : n.lastPoi = "not none" <;> simp [hnone, hlast, triggered, Event.message?,
      Message.isTriggered]

theorem triggered_restEvents (n : RobotLookAtPOI) : triggered (n.restEvents env) = [] := by
  unfold RobotLookAtPOI.restEvents
  split_ifs <;> rfl

theorem triggered_emotionEvents (env : Env) (n : RobotChangeFace) (poi hasBox : String) :
    triggered (n.emotionEvents env poi hasBox) =
      ((n.emotionFor poi hasBox).map fun c => Message.setEmotion c.1).toList := by
  unfold RobotChangeFace.emotionEvents
  cases n.emotionFor poi hasBox <;> rfl

theorem triggered_sendEvents (n : DoResponseAction) (action focus hasBox : String) (k : Nat) :
    triggered (n.sendEvents env action focus hasBox k) =
      ((n.command action focus hasBox).map fun c =>
        Message.performJointSpaceAction .doResponseAction c.1).toList := by
  unfold DoResponseAction.sendEvents
  cases n.command action focus hasBox <;> rfl

/-- A tick that sends nothing and remembers nothing new. -/
def Keeps (n : EdgeTriggered) (m : Memory) (t : NodeRecord) : Prop :=
  triggered t.trace = [] ∧ n.lastSent t.after = n.lastSent m

/-- A tick that sends what its inputs call for, and remembers it. -/
def Sends (n : EdgeTriggered) (m : Memory) (t : NodeRecord) : Prop :=
  ∃ c tag, n.command m.blackboard.get (n.lastSent m) = some (c, tag) ∧
    triggered t.trace = [c] ∧ n.lastSent t.after = tag

section Gaze

variable {poiEntry : StringEntry} {posEntry : VectorEntry} {poi : String}

/-- A tick that has read a point of interest, whatever it looks at. -/
theorem gaze_command_of_read {looks : List Event} (hpoi : m.blackboard.get poiEntry = some poi)
    (hfields : t.after.robotLookAtPOI = m.robotLookAtPOI.next poi)
    (htrace : t.trace = .getInput .robotLookAtPOI poiEntry (some poi) ::
      (m.robotLookAtPOI.gainEvents env poi ++ looks))
    (hlooks : triggered looks = []) :
    Keeps (.robotLookAtPOI poiEntry posEntry) m t ∨
      Sends (.robotLookAtPOI poiEntry posEntry) m t := by
  have hsent : triggered t.trace = if m.robotLookAtPOI.lastPoi = tagOf (some poi) then []
      else [.setGain (gainOf (some poi))] := by
    rw [htrace, ← triggered_gainEvents env]
    show triggered (_ ++ _) = _
    rw [triggered_append, hlooks, List.append_nil]
  have hlast : t.after.robotLookAtPOI.lastPoi = tagOf (some poi) := by
    rw [hfields, next_lastPoi]
  by_cases hsame : m.robotLookAtPOI.lastPoi = tagOf (some poi)
  · rw [if_pos hsame] at hsent
    exact Or.inl ⟨hsent, hlast.trans hsame.symm⟩
  · rw [if_neg hsame] at hsent
    refine Or.inr ⟨_, _, ?_, hsent, hlast⟩
    simp [EdgeTriggered.command, EdgeTriggered.lastSent, hpoi, hsame]

theorem gaze_command (poiEntry : StringEntry) (posEntry : VectorEntry) (env : Env) (m : Memory) :
    Keeps (.robotLookAtPOI poiEntry posEntry) m
        (tickNode (.robotLookAtPOI poiEntry posEntry) env m) ∨
      Sends (.robotLookAtPOI poiEntry posEntry) m
        (tickNode (.robotLookAtPOI poiEntry posEntry) env m) := by
  cases hpoi : m.blackboard.get poiEntry with
  | none =>
      rw [gaze_missing hpoi]
      exact Or.inl ⟨rfl, rfl⟩
  | some poi =>
      by_cases hne : poi = "none"
      · subst hne
        rw [gaze_none hpoi]
        exact gaze_command_of_read hpoi rfl rfl (triggered_restEvents _)
      · cases hpos : (m.blackboard.getVector posEntry).bind position with
        | none =>
            rw [gaze_short hpoi hne hpos]
            exact gaze_command_of_read hpoi rfl rfl rfl
        | some p =>
            obtain ⟨v, hv, hp⟩ := Option.bind_eq_some_iff.mp hpos
            rw [gaze_poi hpoi hne hv hp]
            exact gaze_command_of_read hpoi rfl rfl rfl

end Gaze

section Face

variable {boxEntry poiEntry : StringEntry} {poi hasBox : String}

theorem face_missing
    (hmissing : m.blackboard.get poiEntry = none ∨ m.blackboard.get boxEntry = none) :
    ∃ inputs, (∀ e ∈ inputs, ∃ entry value, e = .getInput .robotChangeFace entry value) ∧
      ∀ env, tickNode (.robotChangeFace boxEntry poiEntry) env m =
        { before := m, env, trace := inputs
          result := .error (.missingRequiredInput "poi"), after := m } := by
  obtain ⟨inputs, hinputs, hrun⟩ := RobotChangeFace.tick_missing (l := []) hmissing
  exact ⟨inputs, hinputs, fun env => tickNode_error (hrun env)⟩

theorem face_tick (hpoi : m.blackboard.get poiEntry = some poi)
    (hbox : m.blackboard.get boxEntry = some hasBox) :
    tickNode (.robotChangeFace boxEntry poiEntry) env m =
      { before := m, env
        trace := [.getInput .robotChangeFace poiEntry (some poi),
          .getInput .robotChangeFace boxEntry (some hasBox)] ++
            m.robotChangeFace.emotionEvents env poi hasBox
        result := .ok .success
        after := { m with robotChangeFace := m.robotChangeFace.next poi hasBox } } :=
  tickNode_ok (RobotChangeFace.tick_run (l := []) hpoi hbox)

theorem face_command (boxEntry poiEntry : StringEntry) (env : Env) (m : Memory) :
    Keeps (.robotChangeFace boxEntry poiEntry) m
        (tickNode (.robotChangeFace boxEntry poiEntry) env m) ∨
      Sends (.robotChangeFace boxEntry poiEntry) m
        (tickNode (.robotChangeFace boxEntry poiEntry) env m) := by
  by_cases hmissing : m.blackboard.get poiEntry = none ∨ m.blackboard.get boxEntry = none
  · obtain ⟨inputs, hinputs, hrun⟩ := face_missing hmissing
    rw [hrun]
    exact Or.inl ⟨triggered_of_messages (messages_inputs hinputs), rfl⟩
  · simp only [not_or, ← ne_eq, Option.ne_none_iff_exists'] at hmissing
    obtain ⟨⟨poi, hpoi⟩, ⟨hasBox, hbox⟩⟩ := hmissing
    rw [face_tick hpoi hbox]
    have hsent := triggered_emotionEvents env m.robotChangeFace poi hasBox
    cases hemotion : m.robotChangeFace.emotionFor poi hasBox with
    | none =>
        rw [hemotion] at hsent
        refine Or.inl ⟨hsent, ?_⟩
        show (m.robotChangeFace.next poi hasBox).lastSentEmotion = _
        rw [RobotChangeFace.next, hemotion]
        rfl
    | some c =>
        obtain ⟨emotion, tag⟩ := c
        rw [hemotion] at hsent
        refine Or.inr ⟨_, tag, ?_, hsent, ?_⟩
        · simp [EdgeTriggered.command, EdgeTriggered.lastSent, hpoi, hbox, hemotion]
        · show (m.robotChangeFace.next poi hasBox).lastSentEmotion = _
          rw [RobotChangeFace.next, hemotion]

end Face

section Response

variable {actionEntry focusEntry inEntry outEntry : StringEntry}
  {action focus hasBox : String} {human : List Double}

/-- Where the last motion is finished, the command is all that counts here. -/
theorem triggered_finished (env : Env) (n : DoResponseAction) :
    triggered (DoResponseAction.openingEvents env action focus hasBox actionEntry focusEntry inEntry
      human ++ (n.confirmEvents hasBox outEntry ++ n.sendEvents env action focus hasBox 0)) =
      ((n.command action focus hasBox).map fun c =>
        Message.performJointSpaceAction .doResponseAction c.1).toList := by
  have hopening : triggered (DoResponseAction.openingEvents env action focus hasBox actionEntry
      focusEntry inEntry human) = [] := by
    unfold DoResponseAction.openingEvents DoResponseAction.comeEvents
    split_ifs <;> rfl
  have hconfirm : triggered (n.confirmEvents hasBox outEntry) = [] := by
    unfold DoResponseAction.confirmEvents
    split_ifs <;> rfl
  rw [triggered_append, hopening, List.nil_append, triggered_append, hconfirm,
    List.nil_append, triggered_sendEvents]

theorem response_command (actionEntry focusEntry inEntry outEntry : StringEntry) (env : Env)
    (m : Memory) :
    Keeps (.doResponseAction actionEntry focusEntry inEntry outEntry) m
        (tickNode (.doResponseAction actionEntry focusEntry inEntry outEntry) env m) ∨
      Sends (.doResponseAction actionEntry focusEntry inEntry outEntry) m
        (tickNode (.doResponseAction actionEntry focusEntry inEntry outEntry) env m) := by
  have hcase := response_case actionEntry focusEntry inEntry outEntry env m
  generalize tickNode (.doResponseAction actionEntry focusEntry inEntry outEntry) env m = t
    at hcase
  cases hcase with
  | missing _ hinputs => exact Or.inl ⟨triggered_of_messages (messages_inputs hinputs), rfl⟩
  | unfinished => exact Or.inl ⟨rfl, rfl⟩
  | comeShort => exact Or.inl ⟨rfl, rfl⟩
  | @finished action focus hasBox human haction hfocus hbox =>
      cases hcommand : m.doResponseAction.command action focus hasBox with
      | none =>
          refine Or.inl ⟨(triggered_finished env m.doResponseAction).trans ?_, ?_⟩
          · rw [hcommand]
            rfl
          · show (m.doResponseAction.next action focus hasBox).lastSentCommand = _
            rw [DoResponseAction.next, hcommand]
            rfl
      | some c =>
          obtain ⟨name, tag⟩ := c
          refine Or.inr ⟨.performJointSpaceAction .doResponseAction name, tag, ?_,
            (triggered_finished env m.doResponseAction).trans ?_, ?_⟩
          · have hsame : DoResponseAction.command
                { lastSentCommand := m.doResponseAction.lastSentCommand, wasReleasing := false }
                action focus hasBox = some (name, tag) := hcommand
            simp [EdgeTriggered.command, EdgeTriggered.lastSent, haction, hfocus, hbox, hsame]
          · rw [hcommand]
            rfl
          · show (m.doResponseAction.next action focus hasBox).lastSentCommand = _
            rw [DoResponseAction.next, hcommand]

end Response

/-- Every tick, of whatever inputs and answers, does one of the two. -/
theorem tick_command (n : EdgeTriggered) (env : Env) (m : Memory) :
    Keeps n m (tickNode n.leaf env m) ∨ Sends n m (tickNode n.leaf env m) := by
  cases n with
  | robotLookAtPOI poiEntry posEntry => exact gaze_command poiEntry posEntry env m
  | robotChangeFace boxEntry poiEntry => exact face_command boxEntry poiEntry env m
  | doResponseAction actionEntry focusEntry inEntry outEntry =>
      exact response_command actionEntry focusEntry inEntry outEntry env m

-- ============================================================================
-- A command that is remembered
-- ============================================================================

theorem emotionFor_settled {n : RobotChangeFace} {poi hasBox emotion tag : String}
    (hemotion : n.emotionFor poi hasBox = some (emotion, tag)) :
    n.lastSentEmotion ≠ tag ∧
      RobotChangeFace.emotionFor { lastSentEmotion := tag } poi hasBox = none := by
  unfold RobotChangeFace.emotionFor at hemotion
  split_ifs at hemotion with hheld hnone hface hobject
  · obtain ⟨rfl, rfl⟩ := Prod.mk.inj (Option.some.inj hemotion)
    exact ⟨hheld.2, by simp [RobotChangeFace.emotionFor, hheld.1]⟩
  · obtain ⟨rfl, rfl⟩ := Prod.mk.inj (Option.some.inj hemotion)
    exact ⟨hnone.2.1, by simp [RobotChangeFace.emotionFor, hnone.1, hnone.2.2]⟩
  · obtain ⟨rfl, rfl⟩ := Prod.mk.inj (Option.some.inj hemotion)
    exact ⟨hface.2.1, by simp [RobotChangeFace.emotionFor, hface.1, hface.2.2]⟩
  · obtain ⟨rfl, rfl⟩ := Prod.mk.inj (Option.some.inj hemotion)
    exact ⟨hobject.2.1, by simp [RobotChangeFace.emotionFor, hobject.1, hobject.2.2]⟩

theorem response_settled {n : DoResponseAction} {action focus hasBox name tag : String}
    (hcommand : n.command action focus hasBox = some (name, tag)) :
    n.lastSentCommand ≠ tag ∧
      DoResponseAction.command { lastSentCommand := tag, wasReleasing := false } action focus
        hasBox = none := by
  obtain ⟨hfresh, ⟨-, rfl, -, -, hyes⟩ | ⟨-, rfl, hgesture, -, hfree⟩ |
    ⟨-, rfl, hother, hfree⟩⟩ := command_eq_some hcommand
  · exact ⟨hfresh, by simp [DoResponseAction.command, hyes]⟩
  · exact ⟨hfresh, by simp [DoResponseAction.command, hgesture, hfree]⟩
  · exact ⟨hfresh, by simp [DoResponseAction.command, hother, hfree]⟩

/-- A command is new, and once remembered it is not called for by the same inputs. -/
theorem command_settled {n : EdgeTriggered} {read : StringEntry → Option String}
    {last tag : String} {c : Message} (hcommand : n.command read last = some (c, tag)) :
    last ≠ tag ∧ n.command read tag = none := by
  cases n with
  | robotLookAtPOI poiEntry posEntry =>
      obtain ⟨poi, hpoi, hsend⟩ := Option.bind_eq_some_iff.mp hcommand
      split_ifs at hsend with hlast
      obtain ⟨-, rfl⟩ := Prod.mk.inj (Option.some.inj hsend)
      exact ⟨hlast, by simp [EdgeTriggered.command, hpoi]⟩
  | robotChangeFace boxEntry poiEntry =>
      obtain ⟨poi, hpoi, hrest⟩ := Option.bind_eq_some_iff.mp hcommand
      obtain ⟨hasBox, hbox, hrest⟩ := Option.bind_eq_some_iff.mp hrest
      obtain ⟨⟨emotion, tag'⟩, hemotion, hsend⟩ := Option.bind_eq_some_iff.mp hrest
      obtain ⟨-, rfl⟩ := Prod.mk.inj (Option.some.inj hsend)
      obtain ⟨hfresh, hsettled⟩ := emotionFor_settled hemotion
      exact ⟨hfresh, by simp [EdgeTriggered.command, hpoi, hbox, hsettled]⟩
  | doResponseAction actionEntry focusEntry inEntry outEntry =>
      obtain ⟨action, haction, hrest⟩ := Option.bind_eq_some_iff.mp hcommand
      obtain ⟨focus, hfocus, hrest⟩ := Option.bind_eq_some_iff.mp hrest
      obtain ⟨hasBox, hbox, hrest⟩ := Option.bind_eq_some_iff.mp hrest
      obtain ⟨⟨name, tag'⟩, hname, hsend⟩ := Option.bind_eq_some_iff.mp hrest
      obtain ⟨-, rfl⟩ := Prod.mk.inj (Option.some.inj hsend)
      obtain ⟨hfresh, hsettled⟩ := response_settled hname
      exact ⟨hfresh, by simp [EdgeTriggered.command, haction, hfocus, hbox, hsettled]⟩

-- ============================================================================
-- Answers
-- ============================================================================

/-- Other answers to the calls that command the robot, and nothing else changed. -/
def Env.answering (env : Env) (motion : Nat → Bool) (look gain emotion : Bool) : Env :=
  { env with
    performJointSpaceAction := motion
    lookAt := look
    setGain := gain
    setEmotion := emotion }

/-- Two ticks that leave, return and send the same. -/
structure SameOutcome (t t' : NodeRecord) : Prop where
  after : t.after = t'.after
  result : t.result = t'.result
  messages : messages t.trace = messages t'.trace

theorem messages_gainEvents (env env' : Env) (n : RobotLookAtPOI) (poi : String) :
    messages (n.gainEvents env poi) = messages (n.gainEvents env' poi) := by
  unfold RobotLookAtPOI.gainEvents
  split_ifs <;> rfl

theorem messages_restEvents (env env' : Env) (n : RobotLookAtPOI) :
    messages (n.restEvents env) = messages (n.restEvents env') := by
  unfold RobotLookAtPOI.restEvents
  split_ifs <;> rfl

theorem messages_emotionEvents (env env' : Env) (n : RobotChangeFace) (poi hasBox : String) :
    messages (n.emotionEvents env poi hasBox) = messages (n.emotionEvents env' poi hasBox) := by
  unfold RobotChangeFace.emotionEvents
  cases n.emotionFor poi hasBox <;> rfl

theorem messages_sendEvents (env env' : Env) (n : DoResponseAction)
    (action focus hasBox : String) (k : Nat) :
    messages (n.sendEvents env action focus hasBox k) =
      messages (n.sendEvents env' action focus hasBox k) := by
  unfold DoResponseAction.sendEvents
  cases n.command action focus hasBox <;> rfl

section Answers

variable (env : Env) (m : Memory) (motion : Nat → Bool) (look gain emotion : Bool)

theorem gaze_answers (poiEntry : StringEntry) (posEntry : VectorEntry) :
    SameOutcome
      (tickNode (.robotLookAtPOI poiEntry posEntry) (env.answering motion look gain emotion) m)
      (tickNode (.robotLookAtPOI poiEntry posEntry) env m) := by
  cases hpoi : m.blackboard.get poiEntry with
  | none =>
      rw [gaze_missing hpoi, gaze_missing hpoi]
      exact ⟨rfl, rfl, rfl⟩
  | some poi =>
      have hgain := messages_gainEvents (env.answering motion look gain emotion) env
        m.robotLookAtPOI poi
      by_cases hne : poi = "none"
      · subst hne
        rw [gaze_none hpoi, gaze_none hpoi]
        refine ⟨rfl, rfl, ?_⟩
        simp only [messages_cons, messages_append, hgain,
          messages_restEvents (env.answering motion look gain emotion) env]
      · cases hpos : (m.blackboard.getVector posEntry).bind position with
        | none =>
            rw [gaze_short hpoi hne hpos, gaze_short hpoi hne hpos]
            refine ⟨rfl, rfl, ?_⟩
            simp only [messages_cons, messages_append, hgain]
        | some p =>
            obtain ⟨v, hv, hp⟩ := Option.bind_eq_some_iff.mp hpos
            rw [gaze_poi hpoi hne hv hp, gaze_poi hpoi hne hv hp]
            refine ⟨rfl, rfl, ?_⟩
            simp only [messages_cons, messages_append, hgain]
            rfl

theorem face_answers (boxEntry poiEntry : StringEntry) :
    SameOutcome
      (tickNode (.robotChangeFace boxEntry poiEntry) (env.answering motion look gain emotion) m)
      (tickNode (.robotChangeFace boxEntry poiEntry) env m) := by
  by_cases hmissing : m.blackboard.get poiEntry = none ∨ m.blackboard.get boxEntry = none
  · obtain ⟨inputs, -, hrun⟩ := face_missing hmissing
    rw [hrun, hrun]
    exact ⟨rfl, rfl, rfl⟩
  · simp only [not_or, ← ne_eq, Option.ne_none_iff_exists'] at hmissing
    obtain ⟨⟨poi, hpoi⟩, ⟨hasBox, hbox⟩⟩ := hmissing
    rw [face_tick hpoi hbox, face_tick hpoi hbox]
    refine ⟨rfl, rfl, ?_⟩
    rw [messages_append, messages_append,
      messages_emotionEvents (env.answering motion look gain emotion) env]

theorem response_answers (actionEntry focusEntry inEntry outEntry : StringEntry) :
    SameOutcome
      (tickNode (.doResponseAction actionEntry focusEntry inEntry outEntry)
        (env.answering motion look gain emotion) m)
      (tickNode (.doResponseAction actionEntry focusEntry inEntry outEntry) env m) := by
  have hsame : ∀ answer, env.isFinished 0 = answer →
      (env.answering motion look gain emotion).isFinished 0 = answer := fun _ hfin => hfin
  rcases response_ways actionEntry focusEntry inEntry env m with
    hmissing | ⟨action, focus, hasBox, haction, hfocus, hbox,
      hfin | ⟨hfin, ⟨hcome, hhuman⟩ | ⟨human, hhuman⟩⟩⟩
  · obtain ⟨inputs, port, -, hrun⟩ := response_missing outEntry hmissing
    rw [hrun, hrun]
    exact ⟨rfl, rfl, rfl⟩
  · rw [response_unfinished haction hfocus hbox hfin,
      response_unfinished haction hfocus hbox (hsame _ hfin)]
    exact ⟨rfl, rfl, rfl⟩
  · rw [response_short haction hfocus hbox hfin hcome hhuman,
      response_short haction hfocus hbox (hsame _ hfin) hcome hhuman]
    exact ⟨rfl, rfl, rfl⟩
  · rw [response_finished haction hfocus hbox hfin hhuman,
      response_finished haction hfocus hbox (hsame _ hfin) hhuman]
    refine ⟨rfl, rfl, ?_⟩
    have hopening : messages (DoResponseAction.openingEvents
        (env.answering motion look gain emotion) action focus hasBox actionEntry focusEntry inEntry
          human) = messages (DoResponseAction.openingEvents env action focus hasBox actionEntry
            focusEntry inEntry human) := rfl
    simp only [messages_append, hopening,
      messages_sendEvents (env.answering motion look gain emotion) env]

/-- What a node leaves, returns and sends does not depend on the answers. -/
theorem tick_answers (n : EdgeTriggered) :
    SameOutcome (tickNode n.leaf (env.answering motion look gain emotion) m)
      (tickNode n.leaf env m) := by
  cases n with
  | robotLookAtPOI poiEntry posEntry =>
      exact gaze_answers env m motion look gain emotion poiEntry posEntry
  | robotChangeFace boxEntry poiEntry =>
      exact face_answers env m motion look gain emotion boxEntry poiEntry
  | doResponseAction actionEntry focusEntry inEntry outEntry =>
      exact response_answers env m motion look gain emotion actionEntry focusEntry inEntry outEntry

end Answers

-- ============================================================================
-- A command that fails
-- ============================================================================

theorem command_congr {n : EdgeTriggered} {read read' : StringEntry → Option String}
    (hread : ∀ entry ∈ n.inputs, read entry = read' entry) (last : String) :
    n.command read last = n.command read' last := by
  cases n <;> simp_all [EdgeTriggered.inputs, EdgeTriggered.command]

@[simp] theorem lastSent_blackboard (n : EdgeTriggered) (m : Memory) (board : Blackboard) :
    n.lastSent { m with blackboard := board } = n.lastSent m := by
  cases n <;> rfl

/-- Ticks that read the same send one command at most, whatever it is answered. -/
theorem sends_once {n : EdgeTriggered} {read : StringEntry → Option String}
    (hp : Path (nodeLoop n.leaf) m h m')
    (hread : ∀ t ∈ h, ∀ entry ∈ n.inputs, t.read entry = read entry) :
    (h.flatMap fun t => triggered t.trace).length ≤ 1 := by
  refine Path.emits_once (fun m => n.command read (n.lastSent m) = none) hp ?_
  rintro m t m' hmem ⟨⟨env, board, rfl⟩, -, rfl⟩
  have hboard : ∀ last, n.command board.get last = n.command read last := by
    refine command_congr fun entry hentry => ?_
    rw [← hread _ hmem entry hentry, NodeRecord.read, tickNode_before]
  rcases tick_command n env { m with blackboard := board } with
    ⟨hnone, hkeep⟩ | ⟨c, tag, hcommand, hsent, hlast⟩
  · refine Or.inl ⟨hnone, fun hsettled => ?_⟩
    rw [hkeep, lastSent_blackboard]
    exact hsettled
  · rw [lastSent_blackboard] at hcommand
    have hcalled : n.command read (n.lastSent m) = some (c, tag) := by
      rw [← hboard]
      exact hcommand
    refine Or.inr ⟨?_, ?_, ?_⟩
    · rw [hcalled]
      exact Option.some_ne_none _
    · rw [hsent]
      exact Nat.le_refl 1
    · rw [hlast]
      exact (command_settled hcalled).2

/-- Only `DoResponseAction` commands motions. -/
theorem command_motion {n : EdgeTriggered} {read : StringEntry → Option String}
    {last name tag : String} {client : Node}
    (hcommand : n.command read last = some (.performJointSpaceAction client name, tag)) :
    ∃ actionEntry focusEntry inEntry outEntry,
      n = .doResponseAction actionEntry focusEntry inEntry outEntry := by
  cases n with
  | robotLookAtPOI poiEntry posEntry =>
      obtain ⟨poi, -, hgain⟩ := Option.bind_eq_some_iff.mp hcommand
      split_ifs at hgain
      cases hgain
  | robotChangeFace boxEntry poiEntry =>
      obtain ⟨poi, -, hrest⟩ := Option.bind_eq_some_iff.mp hcommand
      obtain ⟨hasBox, -, hrest⟩ := Option.bind_eq_some_iff.mp hrest
      obtain ⟨c, -, hemotion⟩ := Option.bind_eq_some_iff.mp hrest
      cases hemotion
  | doResponseAction actionEntry focusEntry inEntry outEntry =>
      exact ⟨actionEntry, focusEntry, inEntry, outEntry, rfl⟩

/-- A release is waited for once it has been sent. -/
theorem response_releasing {actionEntry focusEntry inEntry outEntry : StringEntry}
    (hcase : ResponseCase actionEntry focusEntry inEntry outEntry env m t)
    (hsent : .performJointSpaceAction .doResponseAction "ready" ∈ triggered t.trace) :
    t.after.doResponseAction.wasReleasing = true := by
  cases hcase with
  | missing _ hinputs =>
      rw [triggered_of_messages (messages_inputs hinputs)] at hsent
      cases hsent
  | unfinished => cases hsent
  | comeShort => cases hsent
  | @finished action focus hasBox human =>
      rw [triggered_finished env, Option.mem_toList, Option.map_eq_some_iff] at hsent
      obtain ⟨⟨name, tag⟩, hcommand, hname⟩ := hsent
      have hready : name = "ready" := by simpa using hname
      obtain ⟨-, ⟨-, -, -, -, hyes⟩ | ⟨hsame, -, hgesture, -⟩ | ⟨hhome, -⟩⟩ :=
        command_eq_some hcommand
      · show (m.doResponseAction.next action focus hasBox).wasReleasing = true
        rw [DoResponseAction.next, if_pos hyes, hcommand]
        rfl
      · rw [← hsame, hready] at hgesture
        cases hgesture
      · rw [hready] at hhome
        exact absurd hhome (by decide)

/-- What one of the three nodes does about a command that fails. -/
structure SentOnce (n : EdgeTriggered) : Prop where
  /-- a tick leaves, returns and sends the same, whatever its commands are answered -/
  answers : ∀ (env : Env) (m : Memory) (motion : Nat → Bool) (look gain emotion : Bool),
    SameOutcome (tickNode n.leaf (env.answering motion look gain emotion) m)
      (tickNode n.leaf env m)
  /-- a tick that sends a command remembers it -/
  remembered : ∀ (env : Env) (m : Memory), triggered (tickNode n.leaf env m).trace ≠ [] →
    n.lastSent (tickNode n.leaf env m).after ≠ n.lastSent m
  releasing : ∀ (env : Env) (m : Memory), .performJointSpaceAction .doResponseAction "ready" ∈
      triggered (tickNode n.leaf env m).trace →
    (tickNode n.leaf env m).after.doResponseAction.wasReleasing = true
  /-- ticks that read the same send one command at most -/
  once : ∀ (m m' : Memory) (h : List NodeRecord) (read : StringEntry → Option String),
    Path (nodeLoop n.leaf) m h m' →
    (∀ t ∈ h, ∀ entry ∈ n.inputs, t.read entry = read entry) →
    (h.flatMap fun t => triggered t.trace).length ≤ 1

/-- A command counts as sent even when it has failed, and is not sent again. -/
theorem refused_not_repeated (n : EdgeTriggered) : SentOnce n where
  answers env m motion look gain emotion := tick_answers env m motion look gain emotion n
  remembered env m hsome := by
    rcases tick_command n env m with ⟨hnone, -⟩ | ⟨c, tag, hcommand, -, hlast⟩
    · exact absurd hnone hsome
    · rw [hlast]
      exact (command_settled hcommand).1.symm
  releasing env m hsent := by
    rcases tick_command n env m with ⟨hnone, -⟩ | ⟨c, tag, hcommand, hone, -⟩
    · rw [hnone] at hsent
      cases hsent
    · have hmotion : .performJointSpaceAction .doResponseAction "ready" = c := by
        rw [hone] at hsent
        exact List.mem_singleton.mp hsent
      rw [← hmotion] at hcommand
      obtain ⟨_, _, _, _, rfl⟩ := command_motion hcommand
      exact response_releasing (response_case ..) hsent
  once m m' h read hp hread := sends_once hp hread

/-- Nothing is accepted. -/
def Env.refusingAll (env : Env) : Env :=
  env.answering (fun _ => false) false false false

/-- The first tick of a node on a board, with every call refused. -/
def refusedTick (n : EdgeTriggered) (board : Blackboard) : NodeRecord :=
  tickNode n.leaf Env.alone.refusingAll { initialState.memory with blackboard := board }

/-- The tick after it, on the same board, with every call accepted. -/
def acceptedTick (n : EdgeTriggered) (board : Blackboard) : NodeRecord :=
  tickNode n.leaf Env.alone { (refusedTick n board).after with blackboard := board }

/-- A command that is refused and remembered, and not sent again. -/
def Forgotten (n : EdgeTriggered) (board : Blackboard) (c : Message) : Prop :=
  triggered (refusedTick n board).trace = [c] ∧
    n.lastSent (refusedTick n board).after ≠ n.lastSent initialState.memory ∧
    triggered (acceptedTick n board).trace = []

instance (n : EdgeTriggered) (board : Blackboard) (c : Message) : Decidable (Forgotten n board c) :=
  inferInstanceAs (Decidable (_ ∧ _))

/-- So it goes with a gain, an emotion and a release. -/
theorem refused_forgotten :
    Forgotten (.robotLookAtPOI .thePoi .thePoiPos) initialBlackboard
        (.setGain RobotLookAtPOI.noneGain) ∧
      Forgotten (.robotChangeFace .theHasBox .thePoi) initialBlackboard (.setEmotion "neutral") ∧
      Forgotten (.doResponseAction .theAction .theFocus .theHasBox .theHasBox)
        (initialBlackboard.asked "release" "yes")
        (.performJointSpaceAction .doResponseAction "ready") ∧
      (refusedTick (.doResponseAction .theAction .theFocus .theHasBox .theHasBox)
        (initialBlackboard.asked "release" "yes")).after.doResponseAction.wasReleasing = true := by
  decide +kernel

end ErgoCubBehavior
