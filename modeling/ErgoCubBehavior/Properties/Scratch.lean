/-
  ErgoCubBehavior.Properties.Scratch

  What a tick hands on to the next.  Of the blackboard this is `the_has_box` alone: the other
  entries are written in a tick before they are read in it, so that what an earlier tick has
  left there, or anybody else, is never seen.  The flag of `GoGrasp` is handed on while
  `GoGrasp` runs.

  * `TickCase.elsewhere`  — the tick that begins with the same fields elsewhere;
  * `scratch_irrelevant` — so are all that follow.
-/

import ErgoCubBehavior.Protocol.Refinement

namespace ErgoCubBehavior

open BehaviorTree Transition

variable {env : Env} {a : Activity} {m m' : Memory} {hasBox : String} {t : TickRecord}
  {h : List TickRecord} {s s' : State} {p : Phase}

-- ============================================================================
-- One tick
-- ============================================================================

/-- Two memories that hand on the same to a tick. -/
structure Memory.HandsOn (m m' : Memory) : Prop where
  hasBox : m'.blackboard.theHasBox = m.blackboard.theHasBox
  robotLookAtPOI : m'.robotLookAtPOI = m.robotLookAtPOI
  robotChangeFace : m'.robotChangeFace = m.robotChangeFace
  doResponseAction : m'.doResponseAction = m.doResponseAction

/-- Two ticks that nobody can tell apart. -/
structure SameShown (t t' : TickRecord) : Prop where
  env : t'.env = t.env
  trace : t'.trace = t.trace
  result : t'.result = t.result

namespace Memory.HandsOn

variable (hsame : m.HandsOn m')
include hsame

theorem perceive (poi : Poi) : (m.perceive poi hasBox).HandsOn (m'.perceive poi hasBox) := by
  refine ⟨?_, ?_, ?_, hsame.doResponseAction⟩
  · rw [perceive_theHasBox, perceive_theHasBox, hsame.hasBox]
  · exact congrArg (fun n : RobotLookAtPOI => n.next poi.name) hsame.robotLookAtPOI
  · exact congrArg (fun n : RobotChangeFace => n.next poi.name hasBox) hsame.robotChangeFace

theorem listen (env : Env) : (m.listen env).HandsOn (m'.listen env) :=
  ⟨hsame.hasBox, hsame.robotLookAtPOI, hsame.robotChangeFace, hsame.doResponseAction⟩

theorem respond (env : Env) : (m.respond env hasBox).HandsOn (m'.respond env hasBox) := by
  refine ⟨?_, hsame.robotLookAtPOI, hsame.robotChangeFace, ?_⟩
  · rw [respond_theHasBox, respond_theHasBox, hsame.hasBox, hsame.doResponseAction]
  · exact congrArg (fun n : DoResponseAction => n.next env.getAction env.focus hasBox)
      hsame.doResponseAction

theorem perceptionEvents (poi : Poi) :
    perceptionEvents env m' poi hasBox = perceptionEvents env m poi hasBox := by
  rw [ErgoCubBehavior.perceptionEvents, hsame.robotLookAtPOI, hsame.robotChangeFace]
  rfl

end Memory.HandsOn

/-- Two states that hand on the same: `the_has_box`, the statuses of the tree, what three
    nodes remember, and while `GoGrasp` runs its flag. -/
structure State.HandsOn (s s' : State) : Prop where
  tree : s'.tree = s.tree
  memory : s.memory.HandsOn s'.memory
  ready : GoGraspRunning s → s'.memory.goGrasp = s.memory.goGrasp

theorem goGraspRunning_tree : GoGraspRunning ⟨a.tree, m⟩ ↔ a ≠ .idle := by
  show (.goGrasp .theHasBox, .running) ∈ a.tree.leaves ↔ a ≠ .idle
  match a with
  | .idle => decide
  | .running false => decide
  | .running true => decide

/-- A tree that is idle hands on no flag. -/
theorem Memory.HandsOn.idle (hsame : m.HandsOn m') :
    State.HandsOn ⟨ergotree, m⟩ ⟨ergotree, m'⟩ :=
  ⟨rfl, hsame, fun hrunning => absurd rfl (goGraspRunning_tree.mp hrunning)⟩

/-- With the same handed on, a tick goes the same way and shows the same. -/
theorem TickCase.elsewhere (hcase : TickCase env a m hasBox t) (hsame : m.HandsOn m')
    (hready : a ≠ .idle → m'.goGrasp = m.goGrasp) :
    ∃ t', TickCase env a m' hasBox t' ∧ SameShown t t' ∧ t.after.HandsOn t'.after := by
  have hopen : ∀ poi, openEvents env m' poi hasBox = openEvents env m poi hasBox := by
    intro poi
    rw [openEvents, openEvents, hsame.perceptionEvents]
  have hclosed : ∀ poi, closedEvents env a m' poi hasBox = closedEvents env a m poi hasBox := by
    intro poi
    rw [closedEvents, closedEvents, hsame.perceptionEvents]
  have hnext : ∀ poi, (m.perceive poi hasBox).HandsOn (m'.perceive poi hasBox) :=
    hsame.perceive
  cases hcase with
  | navigating hnav => exact ⟨_, .navigating hnav, ⟨rfl, rfl, rfl⟩, hsame.idle⟩
  | blind hnav hsel =>
      exact ⟨_, .blind hnav hsel, ⟨rfl, rfl, rfl⟩, rfl, hsame,
        fun hrunning => hready (goGraspRunning_tree.mp hrunning)⟩
  | @start q hnav hsel hgrasp ha =>
      obtain ⟨hbox, hgaze, hface, hresponse⟩ := hnext (.object q)
      exact ⟨_, .start hnav hsel hgrasp ha, ⟨rfl, by rw [hopen], rfl⟩, rfl,
        ⟨hbox, hgaze, hface, hresponse⟩, fun _ => rfl⟩
  | @grasp q hnav hsel hgrasp ha hfin =>
      obtain ⟨-, hgaze, hface, hresponse⟩ := hnext (.object q)
      exact ⟨_, .grasp hnav hsel hgrasp ha hfin, ⟨rfl, by rw [hopen], rfl⟩, rfl,
        ⟨rfl, hgaze, hface, hresponse⟩, fun _ => rfl⟩
  | wait hnav hsel hgrasp ha hfin =>
      exact ⟨_, .wait hnav hsel hgrasp ha hfin, ⟨rfl, by rw [hopen], rfl⟩, rfl, hnext _,
        fun _ => hready (by simp [ha])⟩
  | unfinished hnav hsel hgate hfin =>
      exact ⟨_, .unfinished hnav hsel hgate hfin, ⟨rfl, by rw [hclosed], rfl⟩,
        ((hnext _).listen env).idle⟩
  | respond hnav hsel hgate hfin hhuman =>
      refine ⟨_, .respond hnav hsel hgate hfin hhuman, ⟨rfl, ?_, ?_⟩,
        ((hnext _).respond env).idle⟩
      · rw [hclosed, hsame.doResponseAction]
      · rw [hsame.doResponseAction]
  | @comeShort poi hnav hsel hgate hfin haction hhuman =>
      obtain ⟨hbox, hgaze, hface, hresponse⟩ := (hnext poi).listen env
      exact ⟨_, .comeShort hnav hsel hgate hfin haction hhuman, ⟨rfl, by rw [hclosed], rfl⟩,
        rfl, ⟨hbox, hgaze, hface, hresponse⟩,
        fun hrunning => hready (goGraspRunning_tree.mp hrunning)⟩

-- ============================================================================
-- All that follow
-- ============================================================================

/-- A state that is handed on the same is in the same phase. -/
theorem InPhase.elsewhere (hphase : InPhase p s) (hsame : s.HandsOn s') : InPhase p s' := by
  have hresponse := hsame.memory.doResponseAction
  refine ⟨hsame.tree.trans hphase.tree, ?_, hsame.memory.hasBox.trans hphase.hasBox, ?_, ?_⟩
  · have hrunning := hphase.goGraspRunning_iff
    have hflag := hphase.flag
    cases p with
    | approaching =>
        show s'.memory.goGrasp.ready = some false
        rw [hsame.ready (hrunning.mpr (Or.inl rfl))]
        exact hflag
    | grasped =>
        show s'.memory.goGrasp.ready = some true
        rw [hsame.ready (hrunning.mpr (Or.inr rfl))]
        exact hflag
    | _ => trivial
  · rw [hresponse]
    exact hphase.wasReleasing
  · rw [hresponse]
    exact hphase.lastSentCommand

theorem InPhase.sameShown (hphase : InPhase p s) (hsame : s.HandsOn s') (env : Env) :
    SameShown (tickRoot env s) (tickRoot env s') ∧
      (tickRoot env s).after.HandsOn (tickRoot env s').after := by
  have hready : p.activity ≠ .idle → s'.memory.goGrasp = s.memory.goGrasp := by
    intro hbusy
    refine hsame.ready (hphase.goGraspRunning_iff.mpr ?_)
    cases p <;> simp_all [Phase.activity]
  obtain ⟨t', hcase', hshown, hafter⟩ :=
    (hphase.cases env).elsewhere hsame.memory hready
  rw [hcase'.unique ((hphase.elsewhere hsame).cases env)] at hshown hafter
  exact ⟨hshown, hafter⟩

/-- Whatever is written into the rest of a state between two ticks, everything that follows
    is the same, up to a last tick that throws. -/
theorem scratch_irrelevant (hrun : ErgoCubBehavior.Run h s) (hsame : s.HandsOn s')
    {h₁ : List TickRecord} {s₁ : State} (hpath : Path mainLoop s h₁ s₁) (env : Env) :
    ∃ h₁' s₁', Path mainLoop s' h₁' s₁' ∧ List.Forall₂ SameShown h₁ h₁' ∧
      SameShown (tickRoot env s₁) (tickRoot env s₁') := by
  obtain ⟨p, -, hphase⟩ := ErgoCubBehavior.Run.protocol hrun
  have hfollow : ∃ h₁' s₁' p', Path mainLoop s' h₁' s₁' ∧ List.Forall₂ SameShown h₁ h₁' ∧
      InPhase p' s₁ ∧ s₁.HandsOn s₁' := by
    induction hpath with
    | nil => exact ⟨[], s', p, .nil, .nil, hphase, hsame⟩
    | snoc _ hstep ih =>
        obtain ⟨h', s₁', p', hpath', hshown, hphase', hsame'⟩ := ih
        obtain ⟨p'', -, hphase''⟩ := hphase'.step hstep
        obtain ⟨⟨env, rfl⟩, ⟨r, hr⟩, rfl⟩ := hstep
        obtain ⟨htick, hafter⟩ := hphase'.sameShown hsame' env
        have hstep' : mainLoop.Step s₁' (tickRoot env s₁') (tickRoot env s₁').after :=
          ⟨⟨env, rfl⟩, ⟨r, htick.result.trans hr⟩, rfl⟩
        exact ⟨_, _, p'', hpath'.snoc hstep', List.rel_append hshown (.cons htick .nil), hphase'',
          hafter⟩
  obtain ⟨h₁', s₁', p', hpath', hshown, hphase', hsame'⟩ := hfollow
  exact ⟨h₁', s₁', hpath', hshown, (hphase'.sameShown hsame' env).1⟩

/-- Somebody forges all that the robot has seen and heard. -/
def forged (s : State) : State :=
  { s with memory := { s.memory with
      blackboard := { s.memory.blackboard with
        thePoi := some "object"
        thePoiPos := none
        theFocus := some "yes"
        theAction := some "release" } } }

theorem forged_handsOn (s : State) : s.HandsOn (forged s) :=
  ⟨rfl, ⟨rfl, rfl, rfl, rfl⟩, fun _ => rfl⟩

theorem scratch_irrelevant_forged :
    ∃ h₁' s₁', Path mainLoop (forged (reached [Env.alone.object])) h₁' s₁' ∧
      List.Forall₂ SameShown (play (reached [Env.alone.object]) [Env.alone]).1 h₁' ∧
      SameShown
        (tickRoot Env.alone.blind (play (reached [Env.alone.object]) [Env.alone]).2)
        (tickRoot Env.alone.blind s₁') :=
  scratch_irrelevant (run_history _) (forged_handsOn _) (play_path _ _) Env.alone.blind

end ErgoCubBehavior
