/-
  ErgoCubBehavior.Properties.Release

  Holding a box and giving it back, over every run of the tree.

  * `held_box_released_iff` — a held box that is asked for is released unless the
    last command of `DoResponseAction` in the whole run was a release already:
    after grasp, release, grasp the second box stays in the hands;
  * `held_box_only_released` — no other motion while the box is held;
  * `box_perception_irrelevant` — what the box detector answers while the box is held
    changes nothing;
  * `belief_follows_commands` — `the_has_box` follows the commands, whatever they
    are answered;
  * `release_protocol` — how a box is put down.
-/

import ErgoCubBehavior.Protocol.History

namespace ErgoCubBehavior

open BehaviorTree Binary64 Transition

variable {h : List TickRecord} {s : State}

-- ============================================================================
-- A held box that is asked for
-- ============================================================================

/-- The tick sends the release motion and waits for it. -/
def Releases (t : TickRecord) : Prop :=
  .release ∈ motions t.trace ∧ t.after.memory.doResponseAction.wasReleasing = true

instance (t : TickRecord) : Decidable (Releases t) :=
  inferInstanceAs (Decidable (_ ∧ _))

/-- With the box in its hands the robot looks for a face. -/
theorem selectPoi_held (env : Env) : selectPoi env (some "yes") = selectFace env := by
  simp [selectPoi]

theorem selectFace_error {env : Env} {e : Exception} (hsel : selectFace env = .error e)
    (hface : sighting env.getFacePosition ≠ .dead) : sighting env.getFacePosition = .short := by
  unfold selectFace at hsel
  cases hs : sighting env.getFacePosition with
  | short => rfl
  | dead => exact absurd hs hface
  | absent => simp [hs] at hsel
  | seen p => simp [hs] at hsel

theorem selectFace_ok {env : Env} {poi : Poi} (hsel : selectFace env = .ok poi) :
    sighting env.getFacePosition ≠ .short := by
  intro hs
  simp [selectFace, hs] at hsel

/-- A box that is held and asked for, with the robot standing still and its last
    motion finished, is released if and only if the last command of
    `DoResponseAction` was not a release, provided the face detector answers
    three components. -/
theorem held_box_released_iff (hrun : Run h s) (env : Env)
    (hbox : s.memory.blackboard.theHasBox = some "yes")
    (hwas : s.memory.doResponseAction.wasReleasing = false)
    (hnav : env.navigating = false) (hface : sighting env.getFacePosition ≠ .dead)
    (hfin : env.isFinished 0 = true) (hfocus : env.isFocused = true)
    (haction : env.getAction = "release") :
    Releases (tickRoot env s) ↔
      lastResponse (sent h) ≠ some .release ∧ sighting env.getFacePosition ≠ .short := by
  obtain ⟨p, -, hphase⟩ := hrun.protocol
  have hyes : p.hasBox = "yes" := by
    rw [hphase.hasBox] at hbox
    exact Option.some.inj hbox
  rw [ne_eq, ← hrun.remembers.release_iff]
  have hcase := hphase.cases env
  rw [hyes] at hcase
  generalize tickRoot env s = t at hcase
  cases hcase with
  | navigating hnav' => simp [hnav] at hnav'
  | start _ hsel => exact absurd (hasBox_of_object hsel) (by decide)
  | grasp _ hsel => exact absurd (hasBox_of_object hsel) (by decide)
  | wait _ hsel => exact absurd (hasBox_of_object hsel) (by decide)
  | unfinished _ _ _ hfin' => simp [hfin] at hfin'
  | comeShort _ _ _ _ hcome => simp [haction] at hcome
  | blind _ hsel =>
      rw [selectPoi_held] at hsel
      have hshort := selectFace_error hsel hface
      simp only [Releases, hshort, ne_eq, not_true_eq_false, and_false, iff_false, not_and]
      intro _
      simp [hwas]
  | respond _ hsel =>
      rw [selectPoi_held] at hsel
      have hcommand : s.memory.doResponseAction.command env.getAction env.focus "yes" =
          if s.memory.doResponseAction.lastSentCommand ≠ "release" then some ("ready", "release")
          else none := by
        simp [DoResponseAction.command_held, haction, (focus_eq_yes env).mpr hfocus]
      simp only [Releases, motions_append, motions_closedEvents, motions_inputEvents, motions_cons,
        motions_respondEvents, Event.motion?, Memory.respond, DoResponseAction.next,
        perceive_doResponseAction]
      by_cases hlast : s.memory.doResponseAction.lastSentCommand = "release"
      · rw [if_neg (not_not.mpr hlast)] at hcommand
        simp [hlast, hcommand]
      · rw [if_pos hlast] at hcommand
        simp [hlast, hcommand, selectFace_ok hsel, DoResponseAction.sends_some hcommand,
          Motion.response, Motion.release]

/-- The first box is given back when it is asked for. -/
theorem held_box_released_first :
    Releases (tickRoot (Env.alone.human "release")
      (reached [Env.alone.object, Env.alone.object])) :=
  (held_box_released_iff (run_history [Env.alone.object, Env.alone.object])
    (Env.alone.human "release") (by decide +kernel) (by decide +kernel) (by decide +kernel)
    (by decide +kernel) rfl rfl rfl).mpr (by decide +kernel)

/-- A box is grasped, asked for and put down; another one is offered at once and
    grasped. -/
def secondBox : List Env :=
  [Env.alone.object, Env.alone.object, Env.alone.human "release", Env.alone, Env.alone.object,
    Env.alone.object]

/-- The second box is held and asked for, and no motion is sent: nor will be, as
    nothing changes `last_sent_command` while a box is held. -/
theorem second_box_trapped :
    Run (history secondBox) (reached secondBox) ∧
      (reached secondBox).memory.blackboard.theHasBox = some "yes" ∧
      (reached secondBox).memory.doResponseAction.wasReleasing = false ∧
      (Env.alone.human "release").navigating = false ∧
      sighting (Env.alone.human "release").getFacePosition ≠ .dead ∧
      (∀ n, (Env.alone.human "release").isFinished n = true) ∧
      (Env.alone.human "release").isFocused = true ∧
      (Env.alone.human "release").getAction = "release" ∧
      motions (tickRoot (Env.alone.human "release") (reached secondBox)).trace = [] ∧
      ¬ Releases (tickRoot (Env.alone.human "release") (reached secondBox)) :=
  ⟨run_history _, by decide +kernel, by decide +kernel, by decide +kernel, by decide +kernel,
    fun _ => rfl, rfl, rfl, by decide +kernel, by decide +kernel⟩

-- ============================================================================
-- While the box is held
-- ============================================================================

section Held

variable {t₀ : TickRecord}

/-- A phase with the box in the hands. -/
def Held (s : State) : Prop :=
  ∃ p, p.hasBox = "yes" ∧ InPhase p s

/-- A tick that returns and leaves the box in the hands. -/
theorem Held.step {t : TickRecord} {s' : State} (hheld : Held s) (hstep : mainLoop.Step s t s')
    (hbox : s'.memory.blackboard.theHasBox ≠ some "no") : Held s' := by
  obtain ⟨p, -, hphase⟩ := hheld
  obtain ⟨p', -, hphase'⟩ := hphase.step hstep
  refine ⟨p', ?_, hphase'⟩
  rw [hphase'.hasBox] at hbox
  cases p' <;> simp_all [Phase.hasBox]

/-- The tick in which `GoGrasp` writes `yes` ends with the box held. -/
theorem InPhase.held_of_write {p : Phase} {s' : State} (hphase : InPhase p s)
    (hstep : mainLoop.Step s t₀ s')
    (hwrite : .setOutput .goGrasp .theHasBox "yes" ∈ t₀.trace) : Held s' := by
  obtain ⟨p', hmachine, hphase'⟩ := hphase.step hstep
  obtain ⟨⟨env, rfl⟩, -, rfl⟩ := hstep
  obtain ⟨answer, hcall⟩ := (hphase.cases env).grasp_of_write hwrite
  have hgrasp : .bottomGrasp ∈ (observe (tickRoot env s)).motions :=
    mem_motions.mpr ⟨answer, hcall⟩
  exact ⟨p', (hmachine.grasp_iff.mp hgrasp).2, hphase'⟩

/-- From the tick in which `GoGrasp` writes `yes` to the tick in which `the_has_box`
    becomes `no` again, no motion is commanded but the release. -/
theorem held_box_only_released (h₁ h₂ : List TickRecord) (hrun : Run (h₁ ++ t₀ :: h₂) s)
    (hwrite : .setOutput .goGrasp .theHasBox "yes" ∈ t₀.trace)
    (hheld : ∀ t ∈ h₂, t.after.memory.blackboard.theHasBox ≠ some "no") (env : Env) :
    ∀ x ∈ motions (tickRoot env s).trace, x = .release := by
  obtain ⟨s₀, s₁, hrun₀, hstep, hpath⟩ := hrun.split_at
  obtain ⟨p₀, -, hphase₀⟩ := ErgoCubBehavior.Run.protocol hrun₀
  -- the box stays held over the ticks of `h₂`
  have hkept : Held s := by
    refine hpath.preserves ?_ (hphase₀.held_of_write hstep hwrite)
    rintro q t q' hmem hq hstep
    refine hq.step hstep ?_
    obtain ⟨-, -, rfl⟩ := hstep
    exact hheld t hmem
  obtain ⟨p, hyes, hphase⟩ := hkept
  rcases hphase.tick env with ⟨r, p', -, hmachine, -⟩ | ⟨e, -, hcrash⟩
  · exact hmachine.held hyes
  · have hnone : motions (tickRoot env s).trace = [] := hcrash.held hyes
    simp [hnone]

end Held

/-- The box is held over two ticks, and asked for in the second. -/
theorem held_box_only_released_second :
    (motions (tickRoot (Env.alone.human "release")
      (reached [Env.alone.object, Env.alone.object, Env.alone.human "wave"])).trace).all
      (fun x => x = .release) = true := by
  refine List.all_eq_true.mpr fun x hx => decide_eq_true ?_
  refine held_box_only_released (history [Env.alone.object])
    [tickRoot (Env.alone.human "wave") (reached [Env.alone.object, Env.alone.object])]
    (run_history [Env.alone.object, Env.alone.object, Env.alone.human "wave"]) ?_ ?_ _ x hx
  · decide +kernel
  · decide +kernel

-- ============================================================================
-- Boxes in sight while the box is held
-- ============================================================================

/-- The same answers of everybody but the box detector; those of gaze and emotions,
    which nobody reads, are free as well. -/
structure Env.Agree (env env' : Env) : Prop where
  navigation : env'.navigation = env.navigation
  getFacePosition : env'.getFacePosition = env.getFacePosition
  isFocused : env'.isFocused = env.isFocused
  getAction : env'.getAction = env.getAction
  getHumanPosition : env'.getHumanPosition = env.getHumanPosition
  isFinished : env'.isFinished = env.isFinished
  performJointSpaceAction : env'.performJointSpaceAction = env.performJointSpaceAction

/-- Two ticks that nobody can tell apart but the box detector. -/
structure SameTick (t t' : TickRecord) : Prop where
  result : t'.result = t.result
  after : t'.after = t.after
  messages : messages t'.trace = messages t.trace

/-- The ticks that given answers lead to while the box is held, up to the first that
    throws or ends with `the_has_box` at `no`. -/
def heldTicks (s : State) : List Env → List TickRecord
  | [] => []
  | env :: envs =>
      tickRoot env s ::
        match (tickRoot env s).result with
        | .ok _ =>
            if (tickRoot env s).after.memory.blackboard.theHasBox = some "no" then []
            else heldTicks (tickRoot env s).after envs
        | .error _ => []

section Agree

variable {env env' : Env} {a : Activity} {m : Memory} {t : TickRecord} {poi : Poi}

/-- `env`, with what `env'` is free to answer. -/
def Env.seeing (env env' : Env) : Env :=
  { env with
    getCenter := env'.getCenter
    getDistance := env'.getDistance
    lookAt := env'.lookAt
    setGain := env'.setGain
    setEmotion := env'.setEmotion }

theorem Env.Agree.eq_seeing (hagree : env.Agree env') : env' = env.seeing env' := by
  obtain ⟨h₁, h₂, h₃, h₄, h₅, h₆, h₇⟩ := hagree
  cases env'
  simp only [seeing, ← h₁, ← h₂, ← h₃, ← h₄, ← h₅, ← h₆, ← h₇]

theorem selectPoi_seeing :
    selectPoi (env.seeing env') (some "yes") = selectPoi env (some "yes") := by
  rw [selectPoi_held, selectPoi_held]
  rfl

/-- No object is selected, -/
theorem name_of_held (hsel : selectPoi env (some "yes") = .ok poi) : poi.name ≠ "object" := by
  rw [selectPoi_held] at hsel
  rcases selectFace_cases hsel with ⟨p, rfl, -⟩ | ⟨rfl, -⟩ <;> simp [Poi.name]

/-- so that the gate is closed without a look at the distance. -/
theorem graspGate_of_held (hsel : selectPoi env (some "yes") = .ok poi) (env' : Env) :
    graspGate env' poi.name = false := by
  simp [graspGate, name_of_held hsel]

theorem messages_selectionEvents (b : Option String) : messages (selectionEvents env b) = [] := by
  refine List.filterMap_eq_nil_iff.mpr ?_
  unfold selectionEvents faceSelectionEvents
  repeat' split
  all_goals simp [Event.message?]

theorem messages_gateEvents (x : String) : messages (gateEvents env x) = [] := by
  unfold gateEvents
  split_ifs <;> rfl

theorem messages_gazeEvents_seeing (n : RobotLookAtPOI) :
    messages (gazeEvents (env.seeing env') n poi) = messages (gazeEvents env n poi) := by
  unfold gazeEvents RobotLookAtPOI.gainEvents RobotLookAtPOI.restEvents
  split_ifs <;> cases poi.position? <;> rfl

theorem messages_emotionEvents_seeing (f : RobotChangeFace) (x y : String) :
    messages (f.emotionEvents (env.seeing env') x y) = messages (f.emotionEvents env x y) := by
  unfold RobotChangeFace.emotionEvents
  cases f.emotionFor x y <;> rfl

/-- Up to `DoResponseAction` the same messages are sent, -/
theorem messages_closedEvents_seeing :
    messages (closedEvents (env.seeing env') a m poi "yes") =
      messages (closedEvents env a m poi "yes") := by
  have hhalt : a.haltEvents (env.seeing env') 0 = a.haltEvents env 0 := rfl
  have hlisten : listenEvents (env.seeing env') = listenEvents env := rfl
  simp only [closedEvents, perceptionEvents, messages_append, messages_cons,
    messages_selectionEvents, messages_gateEvents, messages_gazeEvents_seeing,
    messages_emotionEvents_seeing, hhalt, hlisten]
  rfl

/-- and from there on the ticks are the same. -/
theorem TickCase.seeing (hcase : TickCase env a m "yes" t) (env' : Env) :
    ∃ t', TickCase (env.seeing env') a m "yes" t' ∧ SameTick t t' := by
  have hobject : ∀ {p : List Double}, selectPoi env (some "yes") ≠ .ok (.object p) := by
    intro p hsel
    exact absurd (hasBox_of_object hsel) (by decide)
  have hmessages : ∀ l poi, messages (closedEvents (env.seeing env') a m poi "yes" ++ l) =
      messages (closedEvents env a m poi "yes" ++ l) := by
    intro l poi
    rw [messages_append, messages_append, messages_closedEvents_seeing]
  cases hcase with
  | navigating hnav => exact ⟨_, .navigating hnav, rfl, rfl, rfl⟩
  | blind hnav hsel =>
      refine ⟨_, .blind hnav (selectPoi_seeing.trans hsel), rfl, rfl, ?_⟩
      exact (messages_selectionEvents _).trans (messages_selectionEvents _).symm
  | start _ hsel => exact absurd hsel hobject
  | grasp _ hsel => exact absurd hsel hobject
  | wait _ hsel => exact absurd hsel hobject
  | unfinished hnav hsel _ hfin =>
      exact ⟨_, .unfinished hnav (selectPoi_seeing.trans hsel) (graspGate_of_held hsel _) hfin,
        rfl, rfl, hmessages _ _⟩
  | respond hnav hsel _ hfin hhuman =>
      exact ⟨_, .respond hnav (selectPoi_seeing.trans hsel) (graspGate_of_held hsel _) hfin hhuman,
        rfl, rfl, hmessages _ _⟩
  | comeShort hnav hsel _ hfin haction hhuman =>
      exact ⟨_, .comeShort hnav (selectPoi_seeing.trans hsel) (graspGate_of_held hsel _) hfin
        haction hhuman, rfl, rfl, hmessages _ _⟩

end Agree

theorem Held.sameTick {env env' : Env} (hheld : Held s) (hagree : env.Agree env') :
    SameTick (tickRoot env s) (tickRoot env' s) := by
  obtain ⟨p, hyes, hphase⟩ := hheld
  have hcase := hphase.cases env
  have hcase' := hphase.cases env'
  rw [hyes] at hcase hcase'
  rw [hagree.eq_seeing] at hcase' ⊢
  obtain ⟨t', hseeing, hsame⟩ := hcase.seeing env'
  rw [hcase'.unique hseeing]
  exact hsame

/-- While the box is held, what the box detector answers changes nothing: two runs
    that agree on all other answers throw at the same ticks, end each tick in the same
    state and send the same messages, up to the tick that puts the box down. -/
theorem box_perception_irrelevant (hrun : Run h s)
    (hbox : s.memory.blackboard.theHasBox = some "yes") {envs envs' : List Env}
    (hagree : List.Forall₂ Env.Agree envs envs') :
    List.Forall₂ SameTick (heldTicks s envs) (heldTicks s envs') := by
  obtain ⟨p, -, hphase⟩ := hrun.protocol
  have hheld : Held s := by
    rw [hphase.hasBox] at hbox
    exact ⟨p, Option.some.inj hbox, hphase⟩
  clear hphase hbox hrun
  induction hagree generalizing s with
  | nil => exact .nil
  | @cons env env' envs envs' henv _ ih =>
      have hsame := hheld.sameTick henv
      unfold heldTicks
      refine .cons hsame ?_
      rw [hsame.result, hsame.after]
      cases hr : (tickRoot env s).result with
      | error e => exact .nil
      | ok r =>
          dsimp only
          split_ifs with hno
          · exact .nil
          · exact ih (hheld.step ⟨⟨env, rfl⟩, ⟨r, hr⟩, rfl⟩ hno)

/-- The box is held, asked for and put down before a box detector that has died. -/
theorem box_perception_irrelevant_blind :
    (heldTicks (reached [Env.alone.object, Env.alone.object])
        [Env.alone.blind, (Env.alone.human "release").blind, Env.alone.blind]).length = 3 ∧
      List.Forall₂ SameTick
        (heldTicks (reached [Env.alone.object, Env.alone.object])
          [Env.alone, Env.alone.human "release", Env.alone])
        (heldTicks (reached [Env.alone.object, Env.alone.object])
          [Env.alone.blind, (Env.alone.human "release").blind, Env.alone.blind]) := by
  have hblind : ∀ env : Env, env.Agree env.blind := fun _ => ⟨rfl, rfl, rfl, rfl, rfl, rfl, rfl⟩
  refine ⟨by decide +kernel, box_perception_irrelevant (run_history _) (by decide +kernel) ?_⟩
  exact .cons (hblind _) (.cons (hblind _) (.cons (hblind _) .nil))

-- ============================================================================
-- What the commands are answered
-- ============================================================================

/-- The motions of a trace that were answered `true`. -/
def accepted (l : List Event) : List Motion :=
  l.filterMap fun
    | .performJointSpaceAction client actionName true => some ⟨client, actionName⟩
    | _ => none

/-- The same tick with its motion commands answered otherwise. -/
def TickRecord.answering (answers : TickRecord → Nat → Bool) (t : TickRecord) : TickRecord :=
  tickRoot { t.env with performJointSpaceAction := answers t } t.before

section Answers

variable {env : Env} {a : Activity} {m : Memory} {hasBox : String} {t : TickRecord}

/-- The answers to the motion commands are dropped: they change the trace, and
    nothing that is left of the tick. -/
theorem TickCase.answering (h : TickCase env a m hasBox t) (answers : Nat → Bool) :
    ∃ t', TickCase { env with performJointSpaceAction := answers } a m hasBox t' ∧
      t'.result = t.result ∧ t'.after = t.after := by
  cases h with
  | navigating hnav => exact ⟨_, .navigating hnav, rfl, rfl⟩
  | blind hnav hsel => exact ⟨_, .blind hnav hsel, rfl, rfl⟩
  | start hnav hsel hgrasp ha => exact ⟨_, .start hnav hsel hgrasp ha, rfl, rfl⟩
  | grasp hnav hsel hgrasp ha hfin => exact ⟨_, .grasp hnav hsel hgrasp ha hfin, rfl, rfl⟩
  | wait hnav hsel hgrasp ha hfin => exact ⟨_, .wait hnav hsel hgrasp ha hfin, rfl, rfl⟩
  | unfinished hnav hsel hclosed hfin =>
      exact ⟨_, .unfinished hnav hsel hclosed hfin, rfl, rfl⟩
  | respond hnav hsel hclosed hfin hhuman =>
      exact ⟨_, .respond hnav hsel hclosed hfin hhuman, rfl, rfl⟩
  | comeShort hnav hsel hclosed hfin haction hhuman =>
      exact ⟨_, .comeShort hnav hsel hclosed hfin haction hhuman, rfl, rfl⟩

theorem InPhase.answering {p : Phase} (hphase : InPhase p s) (env : Env)
    (answers : TickRecord → Nat → Bool) :
    ((tickRoot env s).answering answers).result = (tickRoot env s).result ∧
      ((tickRoot env s).answering answers).after = (tickRoot env s).after := by
  obtain ⟨t', hcase, hresult, hafter⟩ :=
    (hphase.cases env).answering (answers (tickRoot env s))
  rw [TickRecord.answering, tickRoot_env, tickRoot_before,
    (hphase.cases { env with performJointSpaceAction := answers (tickRoot env s) }).unique hcase]
  exact ⟨hresult, hafter⟩

/-- A run whose motion commands are all answered otherwise goes through the same
    states. -/
theorem answering_refines (answers : TickRecord → Nat → Bool) :
    Simulation mainLoop mainLoop (TickRecord.answering answers)
      fun s s' => s' = s ∧ ∃ p, InPhase p s where
  start := ⟨rfl, .free, inPhase_initialState⟩
  step := by
    rintro s t s' _ ⟨rfl, p, hphase⟩ hstep
    obtain ⟨p', -, hphase'⟩ := hphase.step hstep
    obtain ⟨⟨env, rfl⟩, ⟨r, hr⟩, rfl⟩ := hstep
    obtain ⟨hresult, hafter⟩ := hphase.answering env answers
    refine ⟨_, ⟨⟨_, by rw [TickRecord.answering, tickRoot_before]⟩, ⟨r, ?_⟩, rfl⟩, ?_, p', hphase'⟩
    · rw [hresult, hr]
    · rw [hafter]

theorem Run.answering (hrun : Run h s) (answers : TickRecord → Nat → Bool) :
    Run (h.map (TickRecord.answering answers)) s := by
  obtain ⟨_, hrun', rfl, -⟩ := (answering_refines answers).run hrun
  exact hrun'

end Answers

/-- What the blackboard says about the box after the ticks `h` and then `t`. -/
structure FollowsCommands (h : List TickRecord) (t : TickRecord) : Prop where
  /-- a box that is held has been grasped -/
  grasped : t.after.memory.blackboard.theHasBox = some "yes" → .bottomGrasp ∈ sent (h ++ [t])
  /-- a box that is put down has been released since it was grasped -/
  putDown : t.before.memory.blackboard.theHasBox = some "yes" →
    t.after.memory.blackboard.theHasBox = some "no" →
    .bottomGrasp ∈ sent h ∧ .release ∈ sinceGrasp (sent h)
  /-- whatever the commands are answered -/
  answers : ∀ answers : TickRecord → Nat → Bool,
    Run (h.map (TickRecord.answering answers)) t.before ∧
      (t.answering answers).result = t.result ∧ (t.answering answers).after = t.after

theorem belief_follows_commands (hrun : Run h s) (env : Env) :
    FollowsCommands h (tickRoot env s) := by
  obtain ⟨p, hprotocol, hphase⟩ := hrun.protocol
  have hheld : p.hasBox = "yes" → .bottomGrasp ∈ sent h := by
    rw [← commands_observe]
    exact (hands_run hprotocol).1
  refine ⟨fun hyes => ?_, ?_, fun answers => ?_⟩
  · rcases hphase.tick env with ⟨r, p', -, hmachine, hphase'⟩ | ⟨e, he, -⟩
    · rw [hphase'.hasBox] at hyes
      have hgrasped := (hands_run (hprotocol.snoc hmachine)).1 (Option.some.inj hyes)
      rwa [commands_concat, commands_observe, observe, ← sent_concat] at hgrasped
    · rw [hphase.crash_theHasBox he, hphase.hasBox] at hyes
      rw [sent_concat]
      exact List.mem_append_left _ (hheld (Option.some.inj hyes))
  · rw [tickRoot_before, hphase.hasBox]
    intro hyes hno
    rcases hphase.tick env with ⟨r, p', -, hmachine, hphase'⟩ | ⟨e, he, -⟩
    · rw [hphase'.hasBox] at hno
      obtain ⟨rfl, -, -⟩ := hmachine.putDown_inv (Option.some.inj hyes) (Option.some.inj hno)
      have hgrasped := hheld rfl
      refine ⟨hgrasped, List.count_pos_iff.mp ?_⟩
      rw [← commands_observe] at hgrasped ⊢
      rw [(hands_run hprotocol).2 hgrasped]
      decide
    · rw [hphase.crash_theHasBox he, hphase.hasBox, hyes] at hno
      exact absurd hno (by decide)
  · rw [tickRoot_before]
    exact ⟨hrun.answering answers, hphase.answering env answers⟩

/-- A box is grasped, asked for and put down. -/
theorem belief_follows_commands_putDown :
    FollowsCommands (history [Env.alone.object, Env.alone.object, Env.alone.human "release"])
      (tickRoot Env.alone (reached [Env.alone.object, Env.alone.object,
        Env.alone.human "release"])) :=
  belief_follows_commands (run_history _) _

/-- Every command is refused. -/
def Env.refusing (env : Env) : Env :=
  { env with performJointSpaceAction := fun _ => false }

/-- The approach and the grasp of a box are refused, and then its release. -/
def refusedBox : List Env :=
  [Env.alone.object.refusing, Env.alone.object.refusing, (Env.alone.human "release").refusing]

/-- No command of these ticks was ever accepted: after the second the box is held,
    and after one more tick it has been put down. -/
theorem refused_commands_believed :
    Run (history refusedBox) (reached refusedBox) ∧
      ((history refusedBox).flatMap fun t => accepted t.trace) = [] ∧
      (reached (refusedBox.take 2)).memory.blackboard.theHasBox = some "yes" ∧
      sent (history (refusedBox.take 2)) = [.ready, .bottomGrasp] ∧
      (reached refusedBox).memory.blackboard.theHasBox = some "yes" ∧
      sent (history refusedBox) = [.ready, .bottomGrasp, .release] ∧
      accepted (tickRoot Env.alone.refusing (reached refusedBox)).trace = [] ∧
      (tickRoot Env.alone.refusing (reached refusedBox)).after.memory.blackboard.theHasBox =
        some "no" :=
  ⟨run_history _, by decide +kernel⟩

-- ============================================================================
-- The release protocol
-- ============================================================================

/-- `DoResponseAction` releases the box: it is held, somebody who looks at the robot
    asks for it, and the last motion is finished. -/
structure ReleaseTick (t : TickRecord) : Prop where
  sends : motions t.trace = [.release]
  action : t.env.getAction = "release"
  focus : t.env.isFocused = true
  finished : t.toldFinished = true
  hasBox : t.before.memory.blackboard.theHasBox = some "yes"

/-- What holds of the tick `t` that follows the ticks `h`. -/
structure ReleaseProtocol (h : List TickRecord) (t : TickRecord) : Prop where
  /-- the box is put down in the first tick after its release in which
      `DoResponseAction` is told that the last motion is finished, and nothing is
      commanded in between -/
  putDown : t.before.memory.blackboard.theHasBox = some "yes" →
    t.after.memory.blackboard.theHasBox = some "no" →
    t.toldFinished = true ∧ motions t.trace = [] ∧
      ∃ h₁ r h₂, h = h₁ ++ r :: h₂ ∧ ReleaseTick r ∧
        ∀ x ∈ h₂, motions x.trace = [] ∧ x.toldFinished = false
  /-- between two grasps the box is released exactly once -/
  once : EachBetween (fun x => x = .bottomGrasp) (fun l => l.count .release = 1)
    (sent (h ++ [t]))
  /-- only a held box is being released -/
  pending : t.before.memory.doResponseAction.wasReleasing = true →
    t.before.memory.blackboard.theHasBox = some "yes" ∧
      t.before.memory.doResponseAction.lastSentCommand = "release"

/-- The record of a release, from what the machine saw of it. -/
theorem releaseTick_of_observe {p : Phase} (hphase : InPhase p s) {t : TickRecord} {s' : State}
    (hstep : mainLoop.Step s t s') (hsends : motions t.trace = [.release])
    (hfin : t.toldFinished = true) (hasked : t.env.releaseAsked = true) : ReleaseTick t := by
  obtain ⟨p', hmachine, -⟩ := hphase.step hstep
  obtain ⟨⟨env, rfl⟩, -, -⟩ := hstep
  obtain ⟨hfocus, haction⟩ : (tickRoot env s).env.isFocused = true ∧
      (tickRoot env s).env.getAction = "release" := by
    simpa [Env.releaseAsked] using hasked
  have hyes := hmachine.held_of_release hsends
  refine ⟨hsends, haction, hfocus, hfin, ?_⟩
  rw [tickRoot_before, hphase.hasBox, hyes]

/-- The release that is in progress is a tick of the history, and nothing has
    happened since. -/
theorem release_in_history (hrun : Run h s)
    (hprotocol : Transition.Run protocol (h.map observe) .releasing) :
    ∃ h₁ r h₂, h = h₁ ++ r :: h₂ ∧ ReleaseTick r ∧
      ∀ x ∈ h₂, motions x.trace = [] ∧ x.toldFinished = false := by
  obtain ⟨os₁, o, os₂, hcut, ⟨hsends, hfin, hasked⟩, hquiet⟩ := release_run hprotocol
  obtain ⟨h₁, r, h₂, rfl, rfl, rfl⟩ := observe_cut hcut
  obtain ⟨s₁, s₂, hrun₁, hstep, -⟩ := hrun.split_at
  obtain ⟨p₁, -, hphase₁⟩ := ErgoCubBehavior.Run.protocol hrun₁
  exact ⟨h₁, r, h₂, rfl, releaseTick_of_observe hphase₁ hstep hsends hfin hasked,
    fun x hx => hquiet _ (List.mem_map_of_mem hx)⟩

theorem release_protocol (hrun : Run h s) (env : Env) : ReleaseProtocol h (tickRoot env s) := by
  obtain ⟨p, hprotocol, hphase⟩ := hrun.protocol
  refine ⟨?_, ?_, ?_⟩
  · rw [tickRoot_before, hphase.hasBox]
    intro hyes hno
    rcases hphase.tick env with ⟨r, p', -, hmachine, hphase'⟩ | ⟨e, he, -⟩
    · rw [hphase'.hasBox] at hno
      obtain ⟨rfl, hfin, hnone⟩ :=
        hmachine.putDown_inv (Option.some.inj hyes) (Option.some.inj hno)
      exact ⟨hfin, hnone, release_in_history hrun hprotocol⟩
    · rw [hphase.crash_theHasBox he, hphase.hasBox, hyes] at hno
      exact absurd hno (by decide)
  · rw [sent_concat, ← commands_observe]
    rcases hphase.tick env with ⟨r, p', -, hmachine, -⟩ | ⟨e, -, hcrash⟩
    · have hgrasps := grasps_run (hprotocol.snoc hmachine)
      rw [commands_concat] at hgrasps
      exact hgrasps
    · refine eachBetween_append_unmarked (grasps_run hprotocol) fun x hx => decide_eq_false ?_
      rintro rfl
      exact absurd (hcrash.motion hx).1 (by decide)
  · rw [tickRoot_before]
    intro hwas
    rw [hphase.wasReleasing, decide_eq_true_eq] at hwas
    subst hwas
    exact ⟨hphase.hasBox, hphase.lastSentCommand rfl⟩

/-- A box is grasped and asked for, and put down in the next tick. -/
theorem release_protocol_putDown :
    (tickRoot Env.alone (reached [Env.alone.object, Env.alone.object,
      Env.alone.human "release"])).after.memory.blackboard.theHasBox = some "no" ∧
      ReleaseProtocol (history [Env.alone.object, Env.alone.object, Env.alone.human "release"])
        (tickRoot Env.alone (reached [Env.alone.object, Env.alone.object,
          Env.alone.human "release"])) :=
  ⟨by decide +kernel, release_protocol (run_history _) _⟩

end ErgoCubBehavior
