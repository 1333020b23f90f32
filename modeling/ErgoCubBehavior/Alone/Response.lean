/-
  ErgoCubBehavior.Alone.Response

  `DoResponseAction` on its own, over every history of actions, focus and boxes.

  * `response_case`           — the four ways a tick can go;
  * `command_eq_some`         — what asks for each command;
  * `NodeRun.responseState`   — `last_sent_command` is the value recorded last, and a
    release that is waited for has been sent and has not put a box down yet;
  * `response_gating`         — what a tick sends and writes after any history.
-/

import ErgoCubBehavior.Robot.NodeLoop
import ErgoCubBehavior.Tick.Traces
import Mathlib.Data.List.Chain

namespace ErgoCubBehavior

open BehaviorTree Binary64 Transition

variable {env : Env} {m : Memory} {h : List NodeRecord} {t : NodeRecord} {l k : List Event}
  {actionEntry focusEntry inEntry outEntry : StringEntry} {action focus hasBox : String}

-- ============================================================================
-- One tick
-- ============================================================================

/-- What a tick that finds the last motion finished does before it writes or commands. -/
def DoResponseAction.openingEvents (env : Env) (action focus hasBox : String)
    (actionEntry focusEntry inEntry : StringEntry) (human : List Double) : List Event :=
  inputEvents action focus hasBox actionEntry focusEntry inEntry ++
    .isFinished .doResponseAction true :: comeEvents env action human

/-- The ways a tick can go, with what it leaves. -/
inductive ResponseCase (actionEntry focusEntry inEntry outEntry : StringEntry) (env : Env)
    (m : Memory) : NodeRecord → Prop where
  | missing {inputs : List Event} {port : String}
      (hmissing : m.blackboard.get actionEntry = none ∨ m.blackboard.get focusEntry = none ∨
        m.blackboard.get inEntry = none)
      (hinputs : ∀ e ∈ inputs, ∃ entry value, e = .getInput .doResponseAction entry value) :
      ResponseCase actionEntry focusEntry inEntry outEntry env m
        { before := m, env, trace := inputs
          result := .error (.missingRequiredInput port), after := m }
  | unfinished {action focus hasBox : String} :
      ResponseCase actionEntry focusEntry inEntry outEntry env m
        { before := m, env
          trace := DoResponseAction.inputEvents action focus hasBox actionEntry focusEntry
            inEntry ++ [.isFinished .doResponseAction false]
          result := .ok .failure, after := m }
  | comeShort {focus hasBox : String} (haction : m.blackboard.get actionEntry = some "come")
      (hhuman : position env.getHumanPosition = none) :
      ResponseCase actionEntry focusEntry inEntry outEntry env m
        { before := m, env
          trace := DoResponseAction.inputEvents "come" focus hasBox actionEntry focusEntry
            inEntry ++ [.isFinished .doResponseAction true,
              .getHumanPosition env.getHumanPosition]
          result := .error .outOfBounds, after := m }
  | finished {action focus hasBox : String} {human : List Double}
      (haction : m.blackboard.get actionEntry = some action)
      (hfocus : m.blackboard.get focusEntry = some focus)
      (hbox : m.blackboard.get inEntry = some hasBox) :
      ResponseCase actionEntry focusEntry inEntry outEntry env m
        { before := m, env
          trace := DoResponseAction.openingEvents env action focus hasBox actionEntry focusEntry
            inEntry human ++ (m.doResponseAction.confirmEvents hasBox outEntry ++
              m.doResponseAction.sendEvents env action focus hasBox 0)
          result := .ok (if (m.doResponseAction.command action focus hasBox).isSome then .success
            else .failure)
          after := { m with
            doResponseAction := m.doResponseAction.next action focus hasBox
            blackboard :=
              if m.doResponseAction.confirms hasBox then m.blackboard.set "no" outEntry
              else m.blackboard } }

section TickNode

theorem response_missing (outEntry : StringEntry)
    (hmissing : m.blackboard.get actionEntry = none ∨ m.blackboard.get focusEntry = none ∨
      m.blackboard.get inEntry = none) :
    ∃ inputs port, (∀ e ∈ inputs, ∃ entry value, e = .getInput .doResponseAction entry value) ∧
      ∀ env, tickNode (.doResponseAction actionEntry focusEntry inEntry outEntry) env m =
        { before := m, env, trace := inputs
          result := .error (.missingRequiredInput port), after := m } := by
  obtain ⟨inputs, port, hinputs, hrun⟩ :=
    DoResponseAction.tick_missing (l := []) outEntry hmissing
  exact ⟨inputs, port, hinputs, fun env => tickNode_error (hrun env)⟩

variable (haction : m.blackboard.get actionEntry = some action)
  (hfocus : m.blackboard.get focusEntry = some focus)
  (hbox : m.blackboard.get inEntry = some hasBox)
include haction hfocus hbox

theorem response_unfinished (hfin : env.isFinished 0 = false) :
    tickNode (.doResponseAction actionEntry focusEntry inEntry outEntry) env m =
      { before := m, env
        trace := DoResponseAction.inputEvents action focus hasBox actionEntry focusEntry inEntry ++
          [.isFinished .doResponseAction false]
        result := .ok .failure, after := m } :=
  tickNode_ok (DoResponseAction.tick_unfinished (l := []) haction hfocus hbox hfin)

theorem response_short (hfin : env.isFinished 0 = true) (hcome : action = "come")
    (hhuman : position env.getHumanPosition = none) :
    tickNode (.doResponseAction actionEntry focusEntry inEntry outEntry) env m =
      { before := m, env
        trace := DoResponseAction.inputEvents "come" focus hasBox actionEntry focusEntry inEntry ++
          [.isFinished .doResponseAction true, .getHumanPosition env.getHumanPosition]
        result := .error .outOfBounds, after := m } := by
  subst hcome
  exact tickNode_error
    (DoResponseAction.tick_come_short (l := []) haction hfocus hbox hfin hhuman)

theorem response_finished {human : List Double} (hfin : env.isFinished 0 = true)
    (hhuman : action = "come" → position env.getHumanPosition = some human) :
    tickNode (.doResponseAction actionEntry focusEntry inEntry outEntry) env m =
      { before := m, env
        trace := DoResponseAction.openingEvents env action focus hasBox actionEntry focusEntry
          inEntry human ++ (m.doResponseAction.confirmEvents hasBox outEntry ++
            m.doResponseAction.sendEvents env action focus hasBox 0)
        result := .ok (if (m.doResponseAction.command action focus hasBox).isSome then .success
          else .failure)
        after := { m with
          doResponseAction := m.doResponseAction.next action focus hasBox
          blackboard :=
            if m.doResponseAction.confirms hasBox then m.blackboard.set "no" outEntry
            else m.blackboard } } := by
  rw [DoResponseAction.openingEvents, List.append_assoc]
  exact tickNode_ok (DoResponseAction.tick_finished (l := []) haction hfocus hbox hfin hhuman)

end TickNode

/-- What decides how a tick goes: the inputs, the answer of `is_finished`, and the
    position of a human who is asked to come. -/
theorem response_ways (actionEntry focusEntry inEntry : StringEntry) (env : Env) (m : Memory) :
    (m.blackboard.get actionEntry = none ∨ m.blackboard.get focusEntry = none ∨
      m.blackboard.get inEntry = none) ∨
    ∃ action focus hasBox, m.blackboard.get actionEntry = some action ∧
      m.blackboard.get focusEntry = some focus ∧ m.blackboard.get inEntry = some hasBox ∧
      (env.isFinished 0 = false ∨
        (env.isFinished 0 = true ∧
          ((action = "come" ∧ position env.getHumanPosition = none) ∨
            ∃ human, action = "come" → position env.getHumanPosition = some human))) := by
  by_cases hmissing : m.blackboard.get actionEntry = none ∨ m.blackboard.get focusEntry = none ∨
      m.blackboard.get inEntry = none
  · exact Or.inl hmissing
  · simp only [not_or, ← ne_eq, Option.ne_none_iff_exists'] at hmissing
    obtain ⟨⟨action, haction⟩, ⟨focus, hfocus⟩, ⟨hasBox, hbox⟩⟩ := hmissing
    refine Or.inr ⟨action, focus, hasBox, haction, hfocus, hbox, ?_⟩
    cases hfin : env.isFinished 0 with
    | false => exact Or.inl rfl
    | true =>
        refine Or.inr ⟨rfl, ?_⟩
        cases hhuman : position env.getHumanPosition with
        | some human => exact Or.inr ⟨human, fun _ => rfl⟩
        | none =>
            by_cases hcome : action = "come"
            · exact Or.inl ⟨hcome, rfl⟩
            · exact Or.inr ⟨[], fun h => absurd h hcome⟩

theorem response_case (actionEntry focusEntry inEntry outEntry : StringEntry) (env : Env)
    (m : Memory) :
    ResponseCase actionEntry focusEntry inEntry outEntry env m
      (tickNode (.doResponseAction actionEntry focusEntry inEntry outEntry) env m) := by
  rcases response_ways actionEntry focusEntry inEntry env m with
    hmissing | ⟨action, focus, hasBox, haction, hfocus, hbox,
      hfin | ⟨hfin, ⟨hcome, hhuman⟩ | ⟨human, hhuman⟩⟩⟩
  · obtain ⟨inputs, port, hinputs, hrun⟩ := response_missing outEntry hmissing
    rw [hrun]
    exact .missing hmissing hinputs
  · rw [response_unfinished haction hfocus hbox hfin]
    exact .unfinished
  · rw [response_short haction hfocus hbox hfin hcome hhuman]
    exact .comeShort (hcome ▸ haction) hhuman
  · rw [response_finished haction hfocus hbox hfin hhuman]
    exact .finished haction hfocus hbox

-- ============================================================================
-- Commands and releases
-- ============================================================================

/-- What a command is, and what asks for it. -/
theorem command_eq_some {n : DoResponseAction} {name tag : String}
    (hcommand : n.command action focus hasBox = some (name, tag)) :
    n.lastSentCommand ≠ tag ∧
      ((name = "ready" ∧ tag = "release" ∧ action = "release" ∧ focus = "yes" ∧ hasBox = "yes") ∨
       (name = action ∧ tag = action ∧ DoResponseAction.isGesture action = true ∧ focus = "yes" ∧
        hasBox ≠ "yes") ∨
       (name = "home" ∧ tag = "home" ∧ DoResponseAction.isGesture action = false ∧
        hasBox ≠ "yes")) := by
  unfold DoResponseAction.command at hcommand
  split_ifs at hcommand with hyes hrelease hgesture hsend hhome
  · obtain ⟨rfl, rfl⟩ := Prod.mk.inj (Option.some.inj hcommand)
    exact ⟨hrelease.2.1, Or.inl ⟨rfl, rfl, hrelease.1, hrelease.2.2, hyes⟩⟩
  · obtain ⟨rfl, rfl⟩ := Prod.mk.inj (Option.some.inj hcommand)
    exact ⟨hsend.1, Or.inr (Or.inl ⟨rfl, rfl, hgesture, hsend.2, hyes⟩)⟩
  · obtain ⟨rfl, rfl⟩ := Prod.mk.inj (Option.some.inj hcommand)
    exact ⟨hhome, Or.inr (Or.inr ⟨rfl, rfl, by simpa using hgesture, hyes⟩)⟩

/-- The release motion is commanded. -/
def Event.isRelease : Event → Bool
  | .performJointSpaceAction client actionName _ =>
      client = .doResponseAction ∧ actionName = "ready"
  | _ => false

/-- The box is put down: `DoResponseAction` writes its output. -/
def Event.putsDown : Event → Bool
  | .setOutput writer _ _ => writer = .doResponseAction
  | _ => false

/-- Neither of the two. -/
def Plain (l : List Event) : Prop :=
  ∀ e ∈ l, e.isRelease = false ∧ e.putsDown = false

theorem Plain.append (hl : Plain l) (hk : Plain k) : Plain (l ++ k) := by
  intro e he
  rcases List.mem_append.mp he with he | he
  · exact hl e he
  · exact hk e he

theorem plain_inputs
    (hinputs : ∀ e ∈ l, ∃ entry value, e = .getInput .doResponseAction entry value) : Plain l := by
  intro e he
  obtain ⟨entry, value, rfl⟩ := hinputs e he
  exact ⟨rfl, rfl⟩

theorem plain_inputEvents :
    Plain (DoResponseAction.inputEvents action focus hasBox actionEntry focusEntry inEntry) := by
  simp [Plain, DoResponseAction.inputEvents, Event.isRelease, Event.putsDown]

theorem plain_comeEvents {human : List Double} :
    Plain (DoResponseAction.comeEvents env action human) := by
  unfold DoResponseAction.comeEvents
  split_ifs <;> simp [Plain, Event.isRelease, Event.putsDown]

/-- A release has been commanded, and no box been put down since. -/
def Armed (l : List Event) : Prop :=
  (∃ e ∈ l, e.isRelease = true) ∧ ∀ e ∈ since Event.isRelease l, e.putsDown = false

theorem Armed.append (hl : Armed l) (hk : Plain k) : Armed (l ++ k) := by
  obtain ⟨⟨e, he, hrelease⟩, hsince⟩ := hl
  refine ⟨⟨e, List.mem_append_left _ he, hrelease⟩, ?_⟩
  rw [since_append_unmarked fun x hx => (hk x hx).1]
  intro x hx
  rcases List.mem_append.mp hx with hx | hx
  · exact hsince x hx
  · exact (hk x hx).2

theorem armed_release {e : Event} (he : e.isRelease = true) : Armed (l ++ [e]) := by
  refine ⟨⟨e, by simp, he⟩, ?_⟩
  rw [since_concat_mark he]
  simp

-- ============================================================================
-- Histories
-- ============================================================================

/-- Everything done in the ticks of a history. -/
def traces (h : List NodeRecord) : List Event :=
  h.flatMap NodeRecord.trace

/-- The values of `last_sent_command` after the ticks that sent a motion. -/
def recorded (h : List NodeRecord) : List String :=
  h.filterMap fun t =>
    if motions t.trace = [] then none else some t.after.doResponseAction.lastSentCommand

@[simp] theorem traces_concat (h : List NodeRecord) (t : NodeRecord) :
    traces (h ++ [t]) = traces h ++ t.trace := by
  simp [traces]

theorem recorded_none (h : List NodeRecord) (hnone : motions t.trace = []) :
    recorded (h ++ [t]) = recorded h := by
  simp [recorded, hnone]

theorem recorded_some (h : List NodeRecord) (hsome : motions t.trace ≠ []) :
    recorded (h ++ [t]) = recorded h ++ [t.after.doResponseAction.lastSentCommand] := by
  simp [recorded, hsome]

/-- What the fields of the node say about the history. -/
structure ResponseState (h : List NodeRecord) (n : DoResponseAction) : Prop where
  last : n.lastSentCommand = (recorded h).getLast?.getD ""
  fresh : (recorded h).IsChain (· ≠ ·)
  armed : n.wasReleasing = true → Armed (traces h)

theorem ResponseState.start : ResponseState [] DoResponseAction.init where
  last := rfl
  fresh := List.isChain_nil
  armed hwas := by cases hwas

-- ============================================================================
-- What one tick keeps
-- ============================================================================

section Finished

variable {n : DoResponseAction} {human : List Double} {j : Nat}

theorem plain_openingEvents : Plain (DoResponseAction.openingEvents env action focus hasBox
    actionEntry focusEntry inEntry human) := by
  have hasked : Plain [.isFinished .doResponseAction true] := by
    simp [Plain, Event.isRelease, Event.putsDown]
  exact plain_inputEvents.append (hasked.append plain_comeEvents)

theorem confirmEvents_free (hfree : hasBox ≠ "yes") : n.confirmEvents hasBox outEntry = [] := by
  simp [DoResponseAction.confirmEvents, DoResponseAction.confirms, hfree]

/-- Without a box nothing that is sent is a release. -/
theorem plain_sendEvents (hfree : hasBox ≠ "yes") :
    Plain (n.sendEvents env action focus hasBox j) := by
  unfold DoResponseAction.sendEvents
  cases hcommand : n.command action focus hasBox with
  | none => simp [Plain]
  | some c =>
      obtain ⟨name, tag⟩ := c
      have hname : name ≠ "ready" := by
        obtain ⟨-, ⟨-, -, -, -, hyes⟩ | ⟨rfl, -, hgesture, -⟩ | ⟨rfl, -⟩⟩ :=
          command_eq_some hcommand
        · exact absurd hyes hfree
        · rintro rfl
          cases hgesture
        · decide
      simp [Plain, Event.isRelease, Event.putsDown, hname]

/-- With a box a release is waited for when one has just been sent. -/
theorem sendEvents_held (env : Env) (j : Nat)
    (hwas : (n.next action focus "yes").wasReleasing = true) :
    ∃ e, e.isRelease = true ∧ n.sendEvents env action focus "yes" j = [e] := by
  have hsome : (n.command action focus "yes").isSome = true := hwas
  obtain ⟨⟨name, tag⟩, hcommand⟩ := Option.isSome_iff_exists.mp hsome
  obtain ⟨-, ⟨rfl, -⟩ | ⟨-, -, -, -, hfree⟩ | ⟨-, -, -, hfree⟩⟩ := command_eq_some hcommand
  · refine ⟨.performJointSpaceAction .doResponseAction "ready" (env.performJointSpaceAction j),
      by simp [Event.isRelease], ?_⟩
    rw [DoResponseAction.sendEvents, hcommand]
  · exact absurd rfl hfree
  · exact absurd rfl hfree

theorem armed_finished (harmed : n.wasReleasing = true → Armed l) (hk : Plain k)
    (hwas : (n.next action focus hasBox).wasReleasing = true) :
    Armed (l ++ (k ++ (n.confirmEvents hasBox outEntry ++
      n.sendEvents env action focus hasBox j))) := by
  by_cases hyes : hasBox = "yes"
  · subst hyes
    obtain ⟨e, he, hsend⟩ := sendEvents_held env j hwas
    rw [hsend, ← List.append_assoc, ← List.append_assoc]
    exact armed_release he
  · have hbefore : n.wasReleasing = true := by simpa [DoResponseAction.next, hyes] using hwas
    rw [confirmEvents_free hyes, List.nil_append]
    exact (harmed hbefore).append (hk.append (plain_sendEvents hyes))

end Finished

theorem motions_openingEvents {human : List Double} :
    motions (DoResponseAction.openingEvents env action focus hasBox actionEntry focusEntry inEntry
      human) = [] := by
  unfold DoResponseAction.openingEvents DoResponseAction.comeEvents
  split_ifs <;> rfl

theorem motions_confirmEvents (n : DoResponseAction) :
    motions (n.confirmEvents hasBox outEntry) = [] := by
  unfold DoResponseAction.confirmEvents
  split_ifs <;> rfl

/-- The motions of a tick that finds the last one finished are those it sends. -/
theorem motions_finished {n : DoResponseAction} {human : List Double} :
    motions (DoResponseAction.openingEvents env action focus hasBox actionEntry focusEntry inEntry
      human ++ (n.confirmEvents hasBox outEntry ++ n.sendEvents env action focus hasBox 0)) =
      n.sends action focus hasBox := by
  rw [motions_append, motions_openingEvents, List.nil_append, motions_append,
    motions_confirmEvents, List.nil_append, DoResponseAction.motions_sendEvents]

/-- Reading inputs sends nothing. -/
theorem messages_inputs {reader : Node}
    (hinputs : ∀ e ∈ l, ∃ entry value, e = .getInput reader entry value) : messages l = [] := by
  refine List.filterMap_eq_nil_iff.mpr fun e he => ?_
  obtain ⟨entry, value, rfl⟩ := hinputs e he
  rfl

/-- A motion command is a message. -/
theorem motions_of_messages (hnone : messages l = []) : motions l = [] := by
  refine List.filterMap_eq_nil_iff.mpr fun e he => ?_
  have hmessage : e.message? = none := List.filterMap_eq_nil_iff.mp hnone e he
  cases e with
  | performJointSpaceAction => cases hmessage
  | _ => rfl

namespace ResponseState

variable {n : DoResponseAction} (hs : ResponseState h n)
include hs

/-- A tick that sends nothing and leaves the fields as they were. -/
theorem quiet (hfields : t.after.doResponseAction = n) (hnone : motions t.trace = [])
    (hplain : Plain t.trace) : ResponseState (h ++ [t]) t.after.doResponseAction := by
  rw [hfields]
  constructor
  · rw [recorded_none h hnone]
    exact hs.last
  · rw [recorded_none h hnone]
    exact hs.fresh
  · intro hwas
    rw [traces_concat]
    exact (hs.armed hwas).append hplain

/-- A tick that finds the last motion finished. -/
theorem finished (hfields : t.after.doResponseAction = n.next action focus hasBox)
    (hsends : motions t.trace = n.sends action focus hasBox)
    (harmed : (n.next action focus hasBox).wasReleasing = true → Armed (traces h ++ t.trace)) :
    ResponseState (h ++ [t]) t.after.doResponseAction := by
  rw [hfields]
  cases hcommand : n.command action focus hasBox with
  | none =>
      have hnone : motions t.trace = [] := by
        rw [hsends, DoResponseAction.sends, hcommand]
      have hkeep : (n.next action focus hasBox).lastSentCommand = n.lastSentCommand := by
        rw [DoResponseAction.next, hcommand]
      constructor
      · rw [recorded_none h hnone, hkeep]
        exact hs.last
      · rw [recorded_none h hnone]
        exact hs.fresh
      · rw [traces_concat]
        exact harmed
  | some c =>
      obtain ⟨name, tag⟩ := c
      have hsome : motions t.trace ≠ [] := by
        rw [hsends, DoResponseAction.sends, hcommand]
        exact List.cons_ne_nil _ _
      have htag : (n.next action focus hasBox).lastSentCommand = tag := by
        rw [DoResponseAction.next, hcommand]
      constructor
      · rw [recorded_some h hsome, List.getLast?_concat, hfields]
        rfl
      · rw [recorded_some h hsome, hfields, htag]
        refine hs.fresh.append (List.isChain_singleton _) ?_
        intro x hx y hy
        have hxy : n.lastSentCommand = x := by
          rw [hs.last, Option.mem_def.mp hx]
          rfl
        obtain rfl : tag = y := by simpa using hy
        rw [← hxy]
        exact (command_eq_some hcommand).1
      · rw [traces_concat]
        exact harmed

/-- Every tick keeps what the fields say. -/
theorem step (hcase : ResponseCase actionEntry focusEntry inEntry outEntry env m t)
    (hn : m.doResponseAction = n) : ResponseState (h ++ [t]) t.after.doResponseAction := by
  subst hn
  cases hcase with
  | missing _ hinputs =>
      exact hs.quiet rfl (motions_of_messages (messages_inputs hinputs)) (plain_inputs hinputs)
  | unfinished =>
      exact hs.quiet rfl rfl (plain_inputEvents.append (by
        simp [Plain, Event.isRelease, Event.putsDown]))
  | comeShort =>
      exact hs.quiet rfl rfl (plain_inputEvents.append (by
        simp [Plain, Event.isRelease, Event.putsDown]))
  | finished =>
      refine hs.finished rfl motions_finished fun hwas => ?_
      exact armed_finished hs.armed plain_openingEvents hwas

end ResponseState

theorem NodeRun.responseState
    (hrun : NodeRun (.doResponseAction actionEntry focusEntry inEntry outEntry) h m) :
    ResponseState h m.doResponseAction := by
  refine Run.history (motive := fun h m => ResponseState h m.doResponseAction) hrun
    ResponseState.start ?_
  rintro h m t m' - hs ⟨⟨env, board, rfl⟩, -, rfl⟩
  exact hs.step (response_case ..) rfl

-- ============================================================================
-- The gates of the node
-- ============================================================================

/-- What a tick does after the ticks `h`. -/
structure ResponseTick (actionEntry focusEntry inEntry outEntry : StringEntry)
    (h : List NodeRecord) (t : NodeRecord) : Prop where
  /-- only an unwritten input or a human without a position makes the tick throw -/
  returns : t.read actionEntry ≠ none → t.read focusEntry ≠ none → t.read inEntry ≠ none →
    (t.read actionEntry = some "come" → position t.env.getHumanPosition ≠ none) →
    ∃ r, t.result = .ok r
  success : ∀ r, t.result = .ok r → (r = .success ↔ (motions t.trace).length = 1)
  failure : ∀ r, t.result = .ok r → (r = .failure ↔ motions t.trace = [])
  /-- nothing is sent while a motion is executed -/
  finished : messages t.trace ≠ [] → .isFinished .doResponseAction true ∈ t.trace
  names : ∀ x ∈ motions t.trace, x.client = .doResponseAction ∧
    (DoResponseAction.isGesture x.actionName = true ∨ x.actionName = "ready" ∨
      x.actionName = "home")
  gesture : ∀ x ∈ motions t.trace, DoResponseAction.isGesture x.actionName = true →
    t.read actionEntry = some x.actionName ∧ t.read focusEntry = some "yes" ∧
      t.read inEntry ≠ some "yes"
  ready : ∀ x ∈ motions t.trace, x.actionName = "ready" →
    t.read actionEntry = some "release" ∧ t.read focusEntry = some "yes" ∧
      t.read inEntry = some "yes"
  home : ∀ x ∈ motions t.trace, x.actionName = "home" → t.read inEntry ≠ some "yes" ∧
    ∀ name, DoResponseAction.isGesture name = true → t.read actionEntry ≠ some name
  /-- no value is recorded twice in a row -/
  fresh : (recorded (h ++ [t])).IsChain (· ≠ ·)
  writes : ∀ writer entry value, .setOutput writer entry value ∈ t.trace →
    writer = .doResponseAction ∧ entry = outEntry ∧ value = "no"
  /-- each write has a release of its own before it -/
  once : ∀ l₁ entry value l₂, t.trace = l₁ ++ .setOutput .doResponseAction entry value :: l₂ →
    Armed (traces h ++ l₁)

/-- A command is sent under the gate that its name asks for. -/
theorem mem_sends {n : DoResponseAction} {x : Motion} (hx : x ∈ n.sends action focus hasBox) :
    x.client = .doResponseAction ∧
      ((x.actionName = "ready" ∧ action = "release" ∧ focus = "yes" ∧ hasBox = "yes") ∨
       (x.actionName = action ∧ DoResponseAction.isGesture action = true ∧ focus = "yes" ∧
        hasBox ≠ "yes") ∨
       (x.actionName = "home" ∧ DoResponseAction.isGesture action = false ∧ hasBox ≠ "yes")) := by
  unfold DoResponseAction.sends at hx
  cases hcommand : n.command action focus hasBox with
  | none =>
      rw [hcommand] at hx
      cases hx
  | some c =>
      obtain ⟨name, tag⟩ := c
      rw [hcommand] at hx
      obtain rfl := List.mem_singleton.mp hx
      refine ⟨rfl, ?_⟩
      rcases (command_eq_some hcommand).2 with ⟨hname, -, hrest⟩ | ⟨hname, -, hrest⟩ |
        ⟨hname, -, hrest⟩
      · exact Or.inl ⟨hname, hrest⟩
      · exact Or.inr (Or.inl ⟨hname, hrest⟩)
      · exact Or.inr (Or.inr ⟨hname, hrest⟩)

/-- A tick that sends and writes nothing meets every gate. -/
theorem ResponseTick.of_quiet (hnone : messages t.trace = [])
    (hwrites : ∀ writer entry value, .setOutput writer entry value ∉ t.trace)
    (hfresh : (recorded (h ++ [t])).IsChain (· ≠ ·))
    (hreturns : t.read actionEntry ≠ none → t.read focusEntry ≠ none → t.read inEntry ≠ none →
      (t.read actionEntry = some "come" → position t.env.getHumanPosition ≠ none) →
      ∃ r, t.result = .ok r)
    (hresult : ∀ r, t.result = .ok r → r = .failure) :
    ResponseTick actionEntry focusEntry inEntry outEntry h t := by
  have hmotions : motions t.trace = [] := motions_of_messages hnone
  refine ⟨hreturns, fun r hr => ?_, fun r hr => ?_, fun hsome => absurd hnone hsome, ?_, ?_, ?_,
    ?_, hfresh, fun writer entry value hmem => absurd hmem (hwrites writer entry value),
    fun l₁ entry value l₂ hl => ?_⟩
  · rw [hresult r hr, hmotions]
    decide
  · rw [hresult r hr, hmotions]
    decide
  · simp [hmotions]
  · simp [hmotions]
  · simp [hmotions]
  · simp [hmotions]
  · have hmem : .setOutput .doResponseAction entry value ∈ t.trace := by simp [hl]
    exact absurd hmem (hwrites _ _ _)

/-- The only writes of a tick that finds the last motion finished are those of
    `confirmEvents`. -/
theorem mem_setOutput {n : DoResponseAction} {human : List Double} {writer : Node}
    {entry : StringEntry} {value : String}
    (hmem : .setOutput writer entry value ∈
      DoResponseAction.openingEvents env action focus hasBox actionEntry focusEntry inEntry human ++
        (n.confirmEvents hasBox outEntry ++ n.sendEvents env action focus hasBox 0)) :
    .setOutput writer entry value ∈ n.confirmEvents hasBox outEntry := by
  have hcome : .setOutput writer entry value ∉
      DoResponseAction.comeEvents env action human := by
    unfold DoResponseAction.comeEvents
    split_ifs <;> simp
  have hsend : .setOutput writer entry value ∉ n.sendEvents env action focus hasBox 0 := by
    unfold DoResponseAction.sendEvents
    cases n.command action focus hasBox <;> simp
  simpa [DoResponseAction.openingEvents, DoResponseAction.inputEvents, hcome, hsend] using hmem

theorem confirmEvents_of_mem {n : DoResponseAction} {e : Event}
    (hmem : e ∈ n.confirmEvents hasBox outEntry) :
    n.wasReleasing = true ∧
      n.confirmEvents hasBox outEntry = [.setOutput .doResponseAction outEntry "no"] := by
  unfold DoResponseAction.confirmEvents at hmem ⊢
  by_cases hconfirms : n.confirms hasBox = true
  · rw [if_pos hconfirms]
    refine ⟨?_, rfl⟩
    have hboth : hasBox = "yes" ∧ n.wasReleasing = true := by
      simpa [DoResponseAction.confirms] using hconfirms
    exact hboth.2
  · rw [if_neg hconfirms] at hmem
    cases hmem

section Gates

variable {n : DoResponseAction} {human : List Double}
  (haction : t.read actionEntry = some action) (hfocus : t.read focusEntry = some focus)
  (hbox : t.read inEntry = some hasBox)
  (htrace : t.trace = DoResponseAction.openingEvents env action focus hasBox actionEntry focusEntry
    inEntry human ++ (n.confirmEvents hasBox outEntry ++
      n.sendEvents env action focus hasBox 0))
include htrace

/-- Every write has a release before it with no other write in between. -/
theorem armed_before_write (hs : ResponseState h n) {l₁ l₂ : List Event} {entry : StringEntry}
    {value : String} (hl : t.trace = l₁ ++ .setOutput .doResponseAction entry value :: l₂) :
    Armed (traces h ++ l₁) := by
  have hmem : .setOutput .doResponseAction entry value ∈ t.trace := by simp [hl]
  rw [htrace] at hmem
  obtain ⟨hwas, hconfirm⟩ := confirmEvents_of_mem (mem_setOutput hmem)
  rw [htrace, hconfirm, List.singleton_append] at hl
  -- the write stands where the opening ends
  have hopening : Plain (DoResponseAction.openingEvents env action focus hasBox actionEntry
      focusEntry inEntry human) := plain_openingEvents
  have hbefore : .setOutput .doResponseAction entry value ∉ DoResponseAction.openingEvents env
      action focus hasBox actionEntry focusEntry inEntry human := by
    intro hwrite
    cases (hopening _ hwrite).2
  have hsend : .setOutput .doResponseAction entry value ∉
      n.sendEvents env action focus hasBox 0 := by
    unfold DoResponseAction.sendEvents
    cases n.command action focus hasBox <;> simp
  obtain ⟨hsame, -, -⟩ := (List.append_cons_inj_of_notMem hbefore hsend).mp hl
  rw [← hsame]
  exact (hs.armed hwas).append hopening

theorem motions_gates : motions t.trace = n.sends action focus hasBox := by
  rw [htrace]
  exact motions_finished

include haction hfocus hbox

theorem ResponseTick.of_finished (hs : ResponseState h n)
    (hfresh : (recorded (h ++ [t])).IsChain (· ≠ ·))
    (hresult : t.result =
      .ok (if (n.command action focus hasBox).isSome then .success else .failure)) :
    ResponseTick actionEntry focusEntry inEntry outEntry h t where
  returns _ _ _ _ := ⟨_, hresult⟩
  success r hr := by
    rw [hresult] at hr
    rw [motions_gates htrace, DoResponseAction.sends, ← Except.ok.inj hr]
    cases n.command action focus hasBox with
    | none => decide
    | some c => simp
  failure r hr := by
    rw [hresult] at hr
    rw [motions_gates htrace, DoResponseAction.sends, ← Except.ok.inj hr]
    cases n.command action focus hasBox with
    | none => decide
    | some c => simp
  finished _ := by
    rw [htrace]
    simp [DoResponseAction.openingEvents]
  names x hx := by
    rw [motions_gates htrace] at hx
    obtain ⟨hclient, ⟨hready, -⟩ | ⟨hname, hgesture, -⟩ | ⟨hhome, -⟩⟩ := mem_sends hx
    · exact ⟨hclient, Or.inr (Or.inl hready)⟩
    · rw [hname]
      exact ⟨hclient, Or.inl hgesture⟩
    · exact ⟨hclient, Or.inr (Or.inr hhome)⟩
  gesture x hx hgesture := by
    rw [motions_gates htrace] at hx
    obtain ⟨-, ⟨hready, -⟩ | ⟨hname, -, hyes, hfree⟩ | ⟨hhome, -⟩⟩ := mem_sends hx
    · rw [hready] at hgesture
      cases hgesture
    · rw [haction, hfocus, hbox, hname, hyes]
      exact ⟨rfl, rfl, by simpa using hfree⟩
    · rw [hhome] at hgesture
      cases hgesture
  ready x hx hready := by
    rw [motions_gates htrace] at hx
    obtain ⟨-, ⟨-, hrelease, hyes, hheld⟩ | ⟨hname, hgesture, -⟩ | ⟨hhome, -⟩⟩ := mem_sends hx
    · rw [haction, hfocus, hbox, hrelease, hyes, hheld]
      exact ⟨rfl, rfl, rfl⟩
    · rw [← hname, hready] at hgesture
      cases hgesture
    · rw [hready] at hhome
      exact absurd hhome (by decide)
  home x hx hhome := by
    rw [motions_gates htrace] at hx
    obtain ⟨-, ⟨hready, -⟩ | ⟨hname, hgesture, -⟩ | ⟨-, hother, hfree⟩⟩ := mem_sends hx
    · rw [hready] at hhome
      exact absurd hhome (by decide)
    · rw [← hname, hhome] at hgesture
      cases hgesture
    · rw [haction, hbox]
      refine ⟨by simpa using hfree, fun name hgesture hsame => ?_⟩
      rw [← Option.some.inj hsame, hother] at hgesture
      cases hgesture
  fresh := hfresh
  writes writer entry value hmem := by
    rw [htrace] at hmem
    have hconfirm := mem_setOutput hmem
    rw [(confirmEvents_of_mem hconfirm).2, List.mem_singleton] at hconfirm
    cases hconfirm
    exact ⟨rfl, rfl, rfl⟩
  once l₁ entry value l₂ hl := armed_before_write htrace hs hl

end Gates

/-- The gates of `DoResponseAction` after any history of inputs and answers. -/
theorem response_gating
    (hrun : NodeRun (.doResponseAction actionEntry focusEntry inEntry outEntry) h m) (env : Env)
    (board : Blackboard) :
    ResponseTick actionEntry focusEntry inEntry outEntry h
      (tickNode (.doResponseAction actionEntry focusEntry inEntry outEntry) env
        { m with blackboard := board }) := by
  have hs : ResponseState h m.doResponseAction := hrun.responseState
  have hcase := response_case actionEntry focusEntry inEntry outEntry env
    { m with blackboard := board }
  have hfresh := (hs.step hcase rfl).fresh
  generalize tickNode (.doResponseAction actionEntry focusEntry inEntry outEntry) env
    { m with blackboard := board } = t at hcase hfresh
  cases hcase with
  | missing hmissing hinputs =>
      refine .of_quiet (messages_inputs hinputs)
        (fun writer entry value hmem => ?_) hfresh (fun haction hfocus hbox _ => ?_)
        (fun r hr => by cases hr)
      · obtain ⟨_, _, heq⟩ := hinputs _ hmem
        cases heq
      · rcases hmissing with hnone | hnone | hnone
        · exact absurd hnone haction
        · exact absurd hnone hfocus
        · exact absurd hnone hbox
  | unfinished =>
      exact .of_quiet rfl (by simp [DoResponseAction.inputEvents]) hfresh
        (fun _ _ _ _ => ⟨_, rfl⟩) fun r hr => (Except.ok.inj hr).symm
  | comeShort haction hhuman =>
      exact .of_quiet rfl (by simp [DoResponseAction.inputEvents]) hfresh
        (fun _ _ _ hposition => absurd hhuman (hposition haction)) fun r hr => by cases hr
  | finished haction hfocus hbox => exact .of_finished haction hfocus hbox rfl hs hfresh rfl

/-- A release, its confirmation, and a gesture with the hands free again. -/
theorem response_gating_release :
    recorded (playNode (.doResponseAction .theAction .theFocus .theHasBox .theHasBox)
        initialState.memory [(Env.alone, initialBlackboard.asked "release" "yes"),
          (Env.alone, initialBlackboard.asked "none" "yes")]).1 = ["release"] ∧
      ResponseTick .theAction .theFocus .theHasBox .theHasBox
        (playNode (.doResponseAction .theAction .theFocus .theHasBox .theHasBox)
          initialState.memory [(Env.alone, initialBlackboard.asked "release" "yes"),
            (Env.alone, initialBlackboard.asked "none" "yes")]).1
        (tickNode (.doResponseAction .theAction .theFocus .theHasBox .theHasBox) Env.alone
          { (playNode (.doResponseAction .theAction .theFocus .theHasBox .theHasBox)
            initialState.memory [(Env.alone, initialBlackboard.asked "release" "yes"),
              (Env.alone, initialBlackboard.asked "none" "yes")]).2 with
            blackboard := initialBlackboard.asked "wave" "no" }) :=
  ⟨by decide +kernel, response_gating (playNode_path _ _ _) _ _⟩

end ErgoCubBehavior
