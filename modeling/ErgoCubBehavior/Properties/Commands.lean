/-
  ErgoCubBehavior.Properties.Commands

  When a motion is commanded, over every run of the tree.

  * `motion_guarded_iff` — every motion but an abort is sent after a question
    whether the last one is finished, unless an approach begins in the tick:
    `GoGrasp::onStart` asks nothing;
  * `one_motion_per_tick` — one motion at most, as long as the server does not take
    back within the tick that it is busy;
  * `response_follows_record_iff` — `DoResponseAction` compares what it wants with
    its own last command: it agrees with the record of all commands unless
    `GoGrasp` was the last to command anything.
-/

import ErgoCubBehavior.Protocol.History

namespace ErgoCubBehavior

open BehaviorTree Binary64 Transition

variable {h : List TickRecord} {s : State} {p : Phase} {env : Env}

-- ============================================================================
-- Asking before commanding
-- ============================================================================

def Event.isMotion (e : Event) : Bool :=
  e.motion?.isSome

/-- Whoever commands a motion of a trace, other than an abort, was told in this
    trace that the last motion is finished, and no motion was commanded since. -/
def Guarded (l : List Event) : Prop :=
  ∀ (l₁ : List Event) (x : Motion) (answer : Bool) (l₂ : List Event),
    l = l₁ ++ .performJointSpaceAction x.client x.actionName answer :: l₂ →
    x ≠ .abort → .isFinished x.client true ∈ since Event.isMotion l₁

section Guarded

variable {l l₁ l₂ : List Event}

theorem isMotion_of_quiet (hl : motions l = []) : ∀ e ∈ l, e.isMotion = false := by
  intro e he
  have hnone : e.motion? = none := List.filterMap_eq_nil_iff.mp hl e he
  simp [Event.isMotion, hnone]

/-- A trace that commands nothing but aborts. -/
theorem guarded_of_aborts (hl : ∀ x ∈ motions l, x = .abort) : Guarded l := by
  rintro l₁ x answer l₂ rfl hx
  exact absurd (hl x (by simp [Event.motion?])) hx

/-- A trace that ends with a command which nothing has come before since its
    sender was told. -/
theorem guarded_told {client : Node} {actionName : String} {answer : Bool}
    (hl₁ : ∀ x ∈ motions l₁, x = .abort) (hl₂ : motions l₂ = []) :
    Guarded (l₁ ++ .isFinished client true ::
      (l₂ ++ [.performJointSpaceAction client actionName answer])) := by
  intro k₁ x answer' k₂ heq hx
  rw [← List.cons_append, ← List.append_assoc] at heq
  rcases List.eq_nil_or_concat k₂ with rfl | ⟨k, e, rfl⟩
  · obtain ⟨rfl, hcall⟩ := List.append_inj' heq rfl
    obtain ⟨rfl, -, -⟩ : client = x.client ∧ actionName = x.actionName ∧ answer = answer' := by
      simpa using hcall
    rw [List.append_cons, since_append_unmarked (isMotion_of_quiet hl₂),
      since_concat_other (by simp [Event.isMotion, Event.motion?])]
    simp
  · -- an earlier command can only be an abort
    have hsplit : (l₁ ++ .isFinished client true :: l₂) ++
        [.performJointSpaceAction client actionName answer] =
        (k₁ ++ .performJointSpaceAction x.client x.actionName answer' :: k) ++ [e] := by
      rw [heq]
      simp
    have hbegin := (List.append_inj' hsplit rfl).1
    have hmem : x ∈ motions (l₁ ++ .isFinished client true :: l₂) := by
      rw [hbegin]
      simp [Event.motion?]
    rw [motions_append, motions_cons, hl₂] at hmem
    exact absurd (hl₁ x (by simpa [Event.motion?] using hmem)) hx

end Guarded

theorem Phase.mem_abort {x : Motion} (hx : x ∈ p.abort) : x = .abort := by
  cases p <;> simp_all [Phase.abort]

theorem ready_not_mem_sends (n : DoResponseAction) (action focus hasBox : String) :
    Motion.ready ∉ n.sends action focus hasBox := by
  unfold DoResponseAction.sends
  split <;> simp [Motion.ready]

theorem guarded_respond {l : List Event} {a : Activity} {n : DoResponseAction} {hasBox : String}
    {human : List Double} (hl : ∀ x ∈ motions l, x = .abort) :
    Guarded (l ++ .isFinished .doResponseAction true :: respondEvents env a n hasBox human) := by
  have hquiet : ∀ human, motions (DoResponseAction.comeEvents env env.getAction human ++
      DoResponseAction.confirmEvents n hasBox .theHasBox) = [] := fun human =>
    motions_quiet (by simp)
  unfold respondEvents DoResponseAction.sendEvents
  rw [← List.append_assoc]
  cases n.command env.getAction env.focus hasBox with
  | some c => exact guarded_told hl (hquiet human)
  | none =>
      refine guarded_of_aborts fun x hx => ?_
      rw [List.append_nil, motions_append, motions_cons, hquiet] at hx
      exact hl x (by simpa [Event.motion?] using hx)

/-- The only motion of a tick that nobody asked about is the start of an
    approach. -/
theorem InPhase.guarded_iff (hphase : InPhase p s) (env : Env) :
    Guarded (tickRoot env s).trace ↔ .ready ∉ motions (tickRoot env s).trace := by
  have haborts : ∀ {l : List Event}, (∀ x ∈ motions l, x = .abort) →
      (Guarded l ↔ .ready ∉ motions l) := by
    intro l hl
    refine iff_of_true (guarded_of_aborts hl) fun hready => ?_
    exact absurd (hl _ hready) (by decide)
  have hclosed : ∀ poi, ∀ x ∈ motions (closedEvents env p.activity s.memory poi p.hasBox ++
      inputEvents env p.hasBox), x = .abort := by
    intro poi x hx
    rw [motions_before] at hx
    exact Phase.mem_abort hx
  have hcase := hphase.cases env
  generalize tickRoot env s = t at hcase
  cases hcase with
  | navigating =>
      refine haborts fun x hx => ?_
      rw [motions_cons, ← motions_manipulations, motions_haltEvents] at hx
      exact Phase.mem_abort (by simpa [Event.motion?] using hx)
  | blind =>
      refine haborts fun x hx => ?_
      rw [motions_cons, motions_quiet (manipulations_selectionEvents _ _)] at hx
      simp [Event.motion?] at hx
  | start =>
      refine iff_of_false (fun hguarded => ?_) (by simp [Event.motion?, Motion.ready])
      have htold := mem_of_mem_since
        (hguarded (openEvents env s.memory _ p.hasBox ++ [.onStart]) .ready _ [] (by simp; rfl)
          (by decide))
      rw [← mem_manipulations rfl] at htold
      simp [Event.manipulation] at htold
  | grasp =>
      refine iff_of_true ?_ ?_
      · rw [List.append_cons]
        exact guarded_told (by simp [motions_quiet, Event.motion?])
          (show motions [.setOutput .goGrasp .theHasBox "yes"] = [] from rfl)
      · simp [motions_quiet, Event.motion?, Motion.ready]
  | wait =>
      refine haborts fun x hx => ?_
      rw [motions_append, motions_quiet (manipulations_openEvents _ _ _ _)] at hx
      simp [Event.motion?] at hx
  | @unfinished poi =>
      rw [← List.append_assoc]
      refine haborts fun x hx => hclosed poi x ?_
      simpa [Event.motion?] using hx
  | respond =>
      rw [← List.append_assoc]
      refine iff_of_true (guarded_respond (hclosed _)) fun hready => ?_
      rw [motions_append, motions_cons, motions_respondEvents] at hready
      rcases List.mem_append.mp hready with hready | hready
      · exact absurd (hclosed _ _ hready) (by decide)
      · exact absurd (by simpa [Event.motion?] using hready) (ready_not_mem_sends _ _ _ _)
  | @comeShort poi =>
      rw [← List.append_assoc]
      refine haborts fun x hx => hclosed poi x ?_
      simpa [Event.motion?] using hx

/-- An approach begins when the gate is open and `GoGrasp` does not run. -/
theorem InPhase.start_iff (hphase : InPhase p s) (env : Env) :
    .ready ∈ motions (tickRoot env s).trace ↔
      (tickRoot env s).gateOpen = true ∧ ¬ GoGraspRunning s := by
  rw [hphase.goGraspRunning_iff]
  refine (hphase.ready_iff env).trans (and_congr_right fun hopen => ?_)
  have hfree : p ≠ .grasped := by
    rintro rfl
    have hbox : s.memory.blackboard.theHasBox = some "yes" := hphase.hasBox
    simp [TickRecord.gateOpen, hbox] at hopen
  simp [hfree]

/-- The motions of a tick, aborts apart, are all asked for first, except when an
    approach begins in it. -/
theorem motion_guarded_iff (hrun : Run h s) (env : Env) :
    Guarded (tickRoot env s).trace ↔
      ¬ ((tickRoot env s).gateOpen = true ∧ ¬ GoGraspRunning s) := by
  obtain ⟨p, -, hphase⟩ := hrun.protocol
  rw [hphase.guarded_iff, hphase.start_iff]

/-- A gesture is asked for first. -/
theorem motion_guarded_gesture :
    motions (tickRoot (Env.alone.human "wave") (reached [])).trace = [.response "wave"] ∧
      Guarded (tickRoot (Env.alone.human "wave") (reached [])).trace :=
  ⟨by decide +kernel, (motion_guarded_iff (run_history []) (Env.alone.human "wave")).mpr
    (by decide +kernel)⟩

/-- No motion is ever reported finished. -/
def Env.moving (env : Env) : Env :=
  { env with isFinished := fun _ => false }

/-- The robot waves, and an object comes in reach before it has finished: the
    approach begins over the gesture. -/
theorem approach_over_gesture :
    Run (history [Env.alone.human "wave"]) (reached [Env.alone.human "wave"]) ∧
      sent (history [Env.alone.human "wave"]) = [.response "wave"] ∧
      (∀ n, Env.alone.object.moving.isFinished n = false) ∧
      motions (tickRoot Env.alone.object.moving (reached [Env.alone.human "wave"])).trace =
        [.ready] ∧
      ¬ Guarded (tickRoot Env.alone.object.moving (reached [Env.alone.human "wave"])).trace := by
  refine ⟨run_history _, by decide +kernel, fun _ => rfl, by decide +kernel, fun hguarded => ?_⟩
  obtain ⟨p, -, hphase⟩ := ErgoCubBehavior.Run.protocol (run_history [Env.alone.human "wave"])
  exact (hphase.guarded_iff _).mp hguarded (by decide +kernel)

-- ============================================================================
-- One motion in a tick
-- ============================================================================

/-- Once it has been sent a command, the server answers `is_finished` with `false`. -/
def BusyOnceCommanded (l : List Event) : Prop :=
  ∀ (l₁ : List Event) (client : Node) (answer : Bool) (l₂ : List Event),
    l = l₁ ++ .isFinished client answer :: l₂ → motions l₁ ≠ [] → answer = false

theorem Phase.abort_length (p : Phase) : p.abort.length ≤ 1 := by
  cases p <;> simp [Phase.abort]

theorem sends_length (n : DoResponseAction) (action focus hasBox : String) :
    (n.sends action focus hasBox).length ≤ 1 := by
  unfold DoResponseAction.sends
  split <;> simp

/-- An abort keeps the server busy, so that nothing is sent after it. -/
theorem InPhase.motions_length (hphase : InPhase p s) (env : Env)
    (hbusy : BusyOnceCommanded (tickRoot env s).trace) :
    (motions (tickRoot env s).trace).length ≤ 1 := by
  have hcase := hphase.cases env
  generalize tickRoot env s = t at hcase hbusy
  cases hcase with
  | navigating =>
      rw [motions_cons, ← motions_manipulations, motions_haltEvents]
      exact p.abort_length
  | blind =>
      rw [motions_cons, motions_quiet (manipulations_selectionEvents _ _)]
      simp [Event.motion?]
  | start => simp [motions_quiet, Event.motion?]
  | grasp => simp [motions_quiet, Event.motion?]
  | wait => simp [motions_quiet, Event.motion?]
  | unfinished =>
      rw [← List.append_assoc, motions_append, motions_before]
      simpa [Event.motion?] using p.abort_length
  | respond =>
      rw [← List.append_assoc] at hbusy
      rw [← List.append_assoc, motions_append, motions_before, motions_cons, motions_respondEvents]
      have hnone : p.abort = [] := by
        by_contra habort
        have hfalse := hbusy _ .doResponseAction true _ rfl (by rwa [motions_before])
        cases hfalse
      rw [hnone]
      simpa [Event.motion?] using sends_length _ _ _ _
  | comeShort =>
      rw [← List.append_assoc, motions_append, motions_before]
      simpa [Event.motion?] using p.abort_length

/-- `GoGrasp` and `DoResponseAction`, whose tick begins by reading its inputs, are not
    ticked together. -/
theorem TickCase.apart {a : Activity} {m : Memory} {hasBox : String} {t : TickRecord}
    (hcase : TickCase env a m hasBox t) (hticked : .onStart ∈ t.trace ∨ .onRunning ∈ t.trace) :
    eventsOf .doResponseAction t.trace = [] := by
  have hhalted : ∀ l, l = a.haltEvents env 0 ∨ l = [] →
      ¬ (.onStart ∈ l ∨ .onRunning ∈ l) := by
    rintro l (rfl | rfl) (hmem | hmem)
    · simpa using mem_haltEvents hmem
    · simpa using mem_haltEvents hmem
    · cases hmem
    · cases hmem
  have hevents : .onStart ∈ eventsOf .goGrasp t.trace ∨ .onRunning ∈ eventsOf .goGrasp t.trace :=
    hticked.imp (mem_eventsOf rfl).mpr (mem_eventsOf rfl).mpr
  cases hcase with
  | start => simp [Event.node]
  | grasp => simp [Event.node]
  | wait => simp [Event.node]
  | navigating => exact absurd hevents (hhalted _ (by simp [Event.node]))
  | blind => exact absurd hevents (hhalted _ (by simp [Event.node]))
  | unfinished => exact absurd hevents (hhalted _ (by simp [Event.node]))
  | respond => exact absurd hevents (hhalted _ (by simp [Event.node]))
  | comeShort => exact absurd hevents (hhalted _ (by simp [Event.node]))

/-- With a server that stays busy for the rest of the tick one motion is sent at most,
    and one of the two nodes that command motions is ticked at most. -/
theorem one_motion_per_tick (hrun : Run h s) (env : Env) :
    (BusyOnceCommanded (tickRoot env s).trace → (motions (tickRoot env s).trace).length ≤ 1) ∧
      (.onStart ∈ (tickRoot env s).trace ∨ .onRunning ∈ (tickRoot env s).trace →
        eventsOf .doResponseAction (tickRoot env s).trace = []) := by
  obtain ⟨p, -, hphase⟩ := hrun.protocol
  exact ⟨hphase.motions_length env, (hphase.cases env).apart⟩

/-- An approach is given up, and nothing else is sent. -/
theorem one_motion_per_tick_abort :
    motions (tickRoot Env.alone.moving (reached [Env.alone.object])).trace = [.abort] ∧
      (motions (tickRoot Env.alone.moving (reached [Env.alone.object])).trace).length ≤ 1 := by
  refine ⟨by decide +kernel, (one_motion_per_tick (run_history [Env.alone.object]) _).1 ?_⟩
  intro l₁ client answer l₂ htrace _
  have hmoving : manipulations (tickRoot Env.alone.moving (reached [Env.alone.object])).trace =
      [.performJointSpaceAction .goGrasp "home" true, .isFinished .doResponseAction false] := by
    decide +kernel
  have hasked : .isFinished client answer ∈
      manipulations (tickRoot Env.alone.moving (reached [Env.alone.object])).trace :=
    (mem_manipulations rfl).mpr (by simp [htrace])
  rw [hmoving] at hasked
  have hanswer : client = .doResponseAction ∧ answer = false := by simpa using hasked
  exact hanswer.2

-- ============================================================================
-- What has been commanded, and what is remembered
-- ============================================================================

/-- What `DoResponseAction` wants to command with free hands: the action itself
    when it is a gesture and somebody looks at the robot, `home` when it is no
    gesture. -/
def Env.wanted (env : Env) : Option String :=
  if DoResponseAction.isGesture env.getAction then
    if env.isFocused then some env.getAction else none
  else some "home"

/-- The motions of a tick before `DoResponseAction` is told that the last one is
    finished. -/
def sentBefore (t : TickRecord) : List Motion :=
  motions (t.trace.takeWhile fun e => e ≠ .isFinished .doResponseAction true)

/-- The name of the last motion commanded before `DoResponseAction` decides in
    the tick `t`, by whichever node. -/
def lastName (h : List TickRecord) (t : TickRecord) : Option String :=
  (sent h ++ sentBefore t).getLast?.map Motion.actionName

/-- `GoGrasp` was the last to command a motion. -/
def LastByGoGrasp (l : List Motion) : Prop :=
  l.getLast?.map Motion.client = some .goGrasp

/-- The position of the human is asked for and has no three components. -/
def Env.comeShort (env : Env) : Prop :=
  env.getAction = "come" ∧ position env.getHumanPosition = none

theorem wanted_responseNames {w : String} (hw : env.wanted = some w) : w ∈ responseNames := by
  unfold Env.wanted DoResponseAction.isGesture at hw
  split_ifs at hw with hgesture hfocus
  · obtain rfl := Option.some.inj hw
    simp only [decide_eq_true_eq] at hgesture
    rcases hgesture with haction | haction | haction <;> rw [haction] <;> decide
  · obtain rfl := Option.some.inj hw
    decide

/-- What is wanted is sent unless it is what `DoResponseAction` sent last. -/
theorem response_mem_sends {n : DoResponseAction} {w : String} (hw : env.wanted = some w) :
    .response w ∈ n.sends env.getAction env.focus "no" ↔ n.lastSentCommand ≠ w := by
  have hname : ∀ v : String, n.command env.getAction env.focus "no" =
      (if n.lastSentCommand ≠ v then some (v, v) else none) →
      (.response v ∈ n.sends env.getAction env.focus "no" ↔ n.lastSentCommand ≠ v) := by
    intro v hcommand
    by_cases hlast : n.lastSentCommand = v
    · rw [DoResponseAction.sends_none (by rw [hcommand, if_neg (not_not.mpr hlast)])]
      simp [hlast]
    · rw [DoResponseAction.sends_some (by rw [hcommand, if_pos hlast])]
      simp [hlast]
  unfold Env.wanted at hw
  split_ifs at hw with hgesture hfocus
  · obtain rfl := Option.some.inj hw
    exact hname _ (by simp [DoResponseAction.command, hgesture, (focus_eq_yes env).mpr hfocus])
  · obtain rfl := Option.some.inj hw
    exact hname _ (by simp [DoResponseAction.command, hgesture])

theorem Remembers.name_iff {lastSentCommand w : String} {x : Option Motion}
    (hx : Remembers lastSentCommand x) (hw : w ∈ responseNames) :
    lastSentCommand = w ↔ x.map Motion.actionName = some w := by
  cases x with
  | none =>
      have hempty : lastSentCommand = "" := hx
      have hne : "" ≠ w := by
        rintro rfl
        exact absurd hw (by decide)
      simp [hempty, hne]
  | some x =>
      rcases hx with ⟨rfl, rfl⟩ | ⟨name, -, rfl, rfl⟩
      · have hrelease : "release" ≠ w := by
          rintro rfl
          exact absurd hw (by decide)
        have hready : "ready" ≠ w := by
          rintro rfl
          exact absurd hw (by decide)
        simp [hrelease, hready, Motion.release]
      · simp [Motion.response]

theorem lastResponse_of_last {l : List Motion} {x : Motion} (hl : l.getLast? = some x)
    (hx : x.client = .doResponseAction) : lastResponse l = some x := by
  obtain ⟨k, rfl⟩ := List.getLast?_eq_some_iff.mp hl
  simp [lastResponse, responses, hx]

/-- With free hands the last command is an abort, whether it was given up before
    or is given up now, or it is one that `DoResponseAction` remembers. -/
theorem last_free {os : List Observation} (hrun : Transition.Run protocol os p)
    (hno : p.hasBox = "no") :
    (LastByGoGrasp (commands os) ∧ (commands os ++ p.abort).getLast? = some .abort) ∨
    (¬ LastByGoGrasp (commands os) ∧ p.abort = [] ∧
      (commands os).getLast? = lastResponse (commands os)) := by
  have hlast := last_run hrun
  unfold LastByGoGrasp
  cases p with
  | free =>
      rcases hlast with hnone | habort | hrelease | ⟨name, -, hname⟩
      · refine Or.inr ⟨by simp [hnone], rfl, ?_⟩
        rw [List.getLast?_eq_none_iff.mp hnone]
        rfl
      · exact Or.inl ⟨by simp [habort, Motion.abort], by simp [Phase.abort, habort]⟩
      · refine Or.inr ⟨by simp [hrelease, Motion.release], rfl, ?_⟩
        rw [lastResponse_of_last hrelease rfl, hrelease]
      · refine Or.inr ⟨by simp [hname, Motion.response], rfl, ?_⟩
        rw [lastResponse_of_last hname rfl, hname]
  | approaching =>
      have hready : (commands os).getLast? = some .ready := hlast
      exact Or.inl ⟨by simp [hready, Motion.ready], by simp [Phase.abort]⟩
  | grasped => exact absurd hno (by decide)
  | holding => exact absurd hno (by decide)
  | releasing => exact absurd hno (by decide)

theorem takeWhile_told {l l' : List Event}
    (hl : .isFinished .doResponseAction true ∉ manipulations l) :
    (l ++ .isFinished .doResponseAction true :: l').takeWhile
      (fun e => e ≠ .isFinished .doResponseAction true) = l := by
  rw [mem_manipulations rfl] at hl
  rw [List.takeWhile_append_of_pos fun e he => ?_, List.takeWhile_cons_of_neg (by simp),
    List.append_nil]
  refine decide_eq_true ?_
  rintro rfl
  exact hl he

/-- What a tick has commanded in which `DoResponseAction` was told that the last
    motion is finished. -/
theorem InPhase.told (hphase : InPhase p s) (htold : (tickRoot env s).toldFinished = true) :
    sentBefore (tickRoot env s) = p.abort ∧
      ((env.comeShort ∧ motions (tickRoot env s).trace = p.abort) ∨
        (¬ env.comeShort ∧ motions (tickRoot env s).trace = p.abort ++
          s.memory.doResponseAction.sends env.getAction env.focus p.hasBox)) := by
  have hquiet : ∀ poi, .isFinished .doResponseAction true ∉ manipulations
      (closedEvents env p.activity s.memory poi p.hasBox ++ inputEvents env p.hasBox) := by
    intro poi
    simp [inputEvents]
  have hmem : .isFinished .doResponseAction true ∈ manipulations (tickRoot env s).trace := by
    rw [mem_manipulations rfl]
    simpa [TickRecord.toldFinished] using htold
  have hcase := hphase.cases env
  generalize tickRoot env s = t at hcase hmem
  unfold sentBefore
  cases hcase with
  | @respond poi human _ _ _ _ hhuman =>
      refine ⟨?_, Or.inr ⟨fun hshort => ?_, ?_⟩⟩
      · rw [← List.append_assoc, takeWhile_told (hquiet poi), motions_before]
      · exact absurd (hhuman hshort.1) (by simp [hshort.2])
      · rw [← List.append_assoc, motions_append, motions_before, motions_cons, motions_respondEvents]
        rfl
  | @comeShort poi _ _ _ _ haction hhuman =>
      refine ⟨?_, Or.inl ⟨⟨haction, hhuman⟩, ?_⟩⟩
      · rw [← List.append_assoc, takeWhile_told (hquiet poi), motions_before]
      · rw [← List.append_assoc, motions_append, motions_before]
        simp [Event.motion?]
  | unfinished => simp [Event.manipulation, inputEvents] at hmem
  | _ => simp [Event.manipulation] at hmem

/-- What `DoResponseAction` wants is sent if and only if it is not what was
    commanded last. -/
def FollowsRecord (h : List TickRecord) (t : TickRecord) (w : String) : Prop :=
  .response w ∈ motions t.trace ↔ lastName h t ≠ some w

instance (h : List TickRecord) (t : TickRecord) (w : String) : Decidable (FollowsRecord h t w) :=
  inferInstanceAs (Decidable (_ ↔ _))

/-- `DoResponseAction` follows the record of all commands unless `GoGrasp` was the
    last to command anything.  Its last command was or will be an abort then, and
    `DoResponseAction` goes by its own last command instead: right only where
    both tell it the same about `w`.  A tick that throws sends nothing. -/
theorem response_follows_record_iff (hrun : Run h s) (env : Env) {w : String}
    (hwanted : env.wanted = some w) (hbox : s.memory.blackboard.theHasBox ≠ some "yes")
    (htold : (tickRoot env s).toldFinished = true) :
    FollowsRecord h (tickRoot env s) w ↔
      (¬ env.comeShort → LastByGoGrasp (sent h) →
        ((lastResponse (sent h)).map Motion.actionName = some w ↔ w = "home")) ∧
      (env.comeShort → LastByGoGrasp (sent h) ∨
        (sent h).getLast?.map Motion.actionName = some "home") := by
  obtain ⟨p, hprotocol, hphase⟩ := hrun.protocol
  have hno : p.hasBox = "no" := by
    rw [hphase.hasBox] at hbox
    cases p <;> simp_all [Phase.hasBox]
  have hremembers := hrun.remembers.name_iff (wanted_responseNames hwanted)
  have hlast := last_free hprotocol hno
  rw [commands_observe] at hlast
  obtain ⟨hbefore, hsent⟩ := hphase.told htold
  rw [FollowsRecord, lastName, hbefore]
  have habort : Motion.response w ∉ p.abort := by
    intro hmem
    have hclient : Node.doResponseAction = .goGrasp :=
      congrArg Motion.client (Phase.mem_abort hmem)
    cases hclient
  rcases hsent with ⟨hshort, hmotions⟩ | ⟨hshort, hmotions⟩
  · have hw : w = "home" := by
      simp only [Env.wanted, hshort.1] at hwanted
      simpa [DoResponseAction.isGesture, eq_comm] using hwanted
    subst hw
    rw [hmotions]
    rcases hlast with ⟨hgrasp, hlast⟩ | ⟨hgrasp, hnone, hlast⟩
    · simp [habort, hshort, hgrasp, hlast, Motion.abort]
    · simp [hnone, hshort, hgrasp]
  · rw [hmotions, List.mem_append, or_iff_right habort, hno, response_mem_sends hwanted]
    rcases hlast with ⟨hgrasp, hlast⟩ | ⟨hgrasp, hnone, hlast⟩
    · -- the abort says `home`, whatever `DoResponseAction` remembers
      have hhome : (some Motion.abort).map Motion.actionName = some w ↔ w = "home" := by
        simp [Motion.abort, eq_comm]
      rw [hlast, ne_eq, ne_eq, hhome, not_iff_not, hremembers]
      simp [hshort, hgrasp]
    · rw [hnone, List.append_nil, hlast, hremembers.ne]
      simp [hshort, hgrasp]

/-- The first gesture is sent. -/
theorem response_follows_record_first :
    FollowsRecord [] (tickRoot (Env.alone.human "wave") initialState) "wave" :=
  (response_follows_record_iff (run_history []) (Env.alone.human "wave") rfl (by decide)
    (by decide +kernel)).mpr
    ⟨fun _ hgrasp => absurd hgrasp (by simp [LastByGoGrasp, sent, history, play]),
      fun hshort => absurd hshort.1 (by decide)⟩

/-- The robot waves, and gives up an approach: asked to wave again it goes home
    and does not wave, as it would say that it has waved already.  An approach
    that is given up with nobody around ends in going home twice. -/
theorem gesture_dropped_home_repeated :
    (∃ h s, Run h s ∧ s.memory.blackboard.theHasBox = some "no" ∧
      (tickRoot (Env.alone.human "wave") s).toldFinished = true ∧
      (Env.alone.human "wave").wanted = some "wave" ∧
      lastName h (tickRoot (Env.alone.human "wave") s) = some "home" ∧
      motions (tickRoot (Env.alone.human "wave") s).trace = [.abort] ∧
      ¬ FollowsRecord h (tickRoot (Env.alone.human "wave") s) "wave") ∧
    (∃ h s, Run h s ∧ s.memory.blackboard.theHasBox = some "no" ∧
      (tickRoot Env.alone s).toldFinished = true ∧ Env.alone.wanted = some "home" ∧
      motions (tickRoot Env.alone s).trace = [.abort, .response "home"] ∧
      ¬ FollowsRecord h (tickRoot Env.alone s) "home") :=
  ⟨⟨_, _, run_history [Env.alone.human "wave", Env.alone.object], by decide +kernel⟩,
    ⟨_, _, run_history [Env.alone.object], by decide +kernel⟩⟩

end ErgoCubBehavior
