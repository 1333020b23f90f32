/-
  ErgoCubBehavior.Protocol.Refinement

  The tree refines the machine of `Protocol.Phase`.

  * `InPhase p s`  — the state `s` of the process is in phase `p`;
  * `observe t`    — what the machine sees of a tick;
  * `InPhase.tick` — a tick in phase `p` that returns is a step of the machine,
    and one that throws is a crash;
  * `mainLoop_refines`, `Run.protocol` — so every run of `main` is a run of the
    machine, and every state it reaches is in a phase.
-/

import ErgoCubBehavior.Protocol.Phase
import ErgoCubBehavior.Tick.Traces

namespace ErgoCubBehavior

open BehaviorTree Binary64 Transition

-- ============================================================================
-- Observations
-- ============================================================================

/-- The box detector sees something. -/
def Env.objectSeen (env : Env) : Bool :=
  match sighting env.getCenter with
  | .seen _ => true
  | _ => false

/-- Everything that has to hold for `GoGrasp` to be ticked: the robot is not on
    its way, its hands are free, and an object is in sight and in reach. -/
def TickRecord.gateOpen (t : TickRecord) : Bool :=
  !t.env.navigating && (t.before.memory.blackboard.theHasBox = some "no" && t.env.objectSeen) &&
    t.env.graspable

/-- `DoResponseAction` was told that the last motion is finished. -/
def TickRecord.toldFinished (t : TickRecord) : Bool :=
  .isFinished .doResponseAction true ∈ t.trace

/-- Somebody who is looking at the robot asks for the box. -/
def Env.releaseAsked (env : Env) : Bool :=
  env.isFocused && env.getAction = "release"

def observe (t : TickRecord) : Observation where
  gateOpen := t.gateOpen
  finished := t.toldFinished
  asked := t.env.releaseAsked
  motions := motions t.trace

theorem selectPoi_object {env : Env} {hasBox : String} {p : List Double} :
    selectPoi env (some hasBox) = .ok (.object p) ↔
      hasBox = "no" ∧ sighting env.getCenter = .seen p := by
  constructor
  · intro hsel
    rcases selectPoi_cases hsel with ⟨q, hq, hno, hs⟩ | ⟨-, ⟨q, hq, -⟩ | ⟨hq, -⟩⟩
    · obtain rfl := Poi.object.inj hq
      exact ⟨Option.some.inj hno, hs⟩
    · cases hq
    · cases hq
  · rintro ⟨rfl, hs⟩
    simp [selectPoi, hs]

section Gate

variable {env : Env} {m : Memory} {a : Activity} {hasBox : String} {t : TickRecord}

theorem gateOpen_of_object {p : List Double} (hbox : t.before.memory.blackboard.theHasBox =
      some hasBox) (hnav : t.env.navigating = false)
    (hsel : selectPoi t.env (some hasBox) = .ok (.object p)) (hgrasp : t.env.graspable = true) :
    t.gateOpen = true := by
  obtain ⟨rfl, hs⟩ := selectPoi_object.mp hsel
  simp [TickRecord.gateOpen, Env.objectSeen, hnav, hbox, hs, hgrasp]

/-- A tick whose selection is not a graspable object has a closed gate. -/
theorem gateOpen_of_closed (hbox : t.before.memory.blackboard.theHasBox = some hasBox)
    (hclosed : ∀ p, selectPoi t.env (some hasBox) = .ok (.object p) → t.env.graspable = false) :
    t.gateOpen = false := by
  unfold TickRecord.gateOpen Env.objectSeen
  cases hs : sighting t.env.getCenter with
  | seen p =>
      by_cases hno : hasBox = "no"
      · rw [hclosed p (selectPoi_object.mpr ⟨hno, hs⟩), Bool.and_false]
      · simp [hbox, hno]
  | short => simp
  | dead => simp
  | absent => simp

theorem graspable_of_closed {poi : Poi} (hsel : selectPoi env (some hasBox) = .ok poi)
    (hclosed : graspGate env poi.name = false) {p : List Double}
    (hobject : selectPoi env (some hasBox) = .ok (.object p)) : env.graspable = false := by
  obtain rfl : poi = .object p := Except.ok.inj (hsel.symm.trans hobject)
  simpa [graspGate, Poi.name] using hclosed

end Gate

/-- A tick is observed through its calls to the manipulation server. -/
theorem observe_eq {t : TickRecord} {gate told : Bool} {ms : List Motion}
    (hgate : t.gateOpen = gate)
    (htold : Event.isFinished .doResponseAction true ∈ manipulations t.trace ↔ told = true)
    (hms : motions (manipulations t.trace) = ms) :
    observe t = ⟨gate, told, t.env.releaseAsked, ms⟩ := by
  rw [mem_manipulations rfl] at htold
  rw [motions_manipulations] at hms
  have htold' : t.toldFinished = told := by
    rw [TickRecord.toldFinished, Bool.eq_iff_iff, decide_eq_true_iff, htold]
  rw [observe, hgate, htold', hms]

theorem step_observe {t : TickRecord} {p p' : Phase} {gate told : Bool} {ms : List Motion}
    (hstep : p.Step ⟨gate, told, t.env.releaseAsked, ms⟩ p') (hgate : t.gateOpen = gate)
    (htold : Event.isFinished .doResponseAction true ∈ manipulations t.trace ↔ told = true)
    (hms : motions (manipulations t.trace) = ms) : p.Step (observe t) p' := by
  rw [observe_eq hgate htold hms]
  exact hstep

theorem crash_observe {t : TickRecord} {p : Phase} {gate told : Bool} {ms : List Motion}
    (hcrash : p.Crash ⟨gate, told, t.env.releaseAsked, ms⟩) (hgate : t.gateOpen = gate)
    (htold : Event.isFinished .doResponseAction true ∈ manipulations t.trace ↔ told = true)
    (hms : motions (manipulations t.trace) = ms) : p.Crash (observe t) := by
  rw [observe_eq hgate htold hms]
  exact hcrash

-- ============================================================================
-- States in a phase
-- ============================================================================

/-- What the tree is doing in a phase. -/
def Phase.activity : Phase → Activity
  | .free => .idle
  | .approaching => .running false
  | .grasped => .running true
  | .holding => .idle
  | .releasing => .idle

structure InPhase (p : Phase) (s : State) : Prop where
  tree : s.tree = p.activity.tree
  flag : p.activity.Flag s.memory
  hasBox : s.memory.blackboard.theHasBox = some p.hasBox
  wasReleasing : s.memory.doResponseAction.wasReleasing = decide (p = .releasing)
  lastSentCommand : p = .releasing → s.memory.doResponseAction.lastSentCommand = "release"

theorem inPhase_initialState : InPhase .free initialState :=
  ⟨rfl, trivial, rfl, rfl, by decide⟩

theorem InPhase.goGraspRunning_iff {p : Phase} {s : State} (hphase : InPhase p s) :
    GoGraspRunning s ↔ p = .approaching ∨ p = .grasped := by
  unfold GoGraspRunning
  rw [hphase.tree]
  cases p <;> decide

/-- Where a phase goes in a tick that halts `GoGrasp` and answers nobody. -/
def Phase.halted : Phase → Phase
  | .free => .free
  | .approaching => .free
  | .grasped => .holding
  | .holding => .holding
  | .releasing => .releasing

theorem Phase.Step.halt (p : Phase) (asked : Bool) :
    p.Step ⟨false, false, asked, p.abort⟩ p.halted := by
  cases p with
  | free => exact .rest
  | approaching => exact .abort
  | grasped => exact .hold (Or.inl rfl)
  | holding => exact .hold (Or.inr rfl)
  | releasing => exact .keep

section Halted

variable {p : Phase} {m m' : Memory} {env : Env}

theorem motions_haltEvents (p : Phase) (k : Nat) :
    motions (manipulations (p.activity.haltEvents env k)) = p.abort := by
  cases p <;> rfl

/-- Memories that agree on the box and on `DoResponseAction` are in the same
    phase once the tree is idle. -/
theorem InPhase.halted (h : InPhase p ⟨p.activity.tree, m⟩)
    (hbox : m'.blackboard.theHasBox = m.blackboard.theHasBox)
    (hresponse : m'.doResponseAction = m.doResponseAction) : InPhase p.halted ⟨ergotree, m'⟩ := by
  have hbox' : m'.blackboard.theHasBox = some p.hasBox := hbox.trans h.hasBox
  have hwas := h.wasReleasing
  have hlast := h.lastSentCommand
  simp only [← hresponse] at hwas hlast
  cases p with
  | free => exact ⟨rfl, trivial, hbox', hwas, by simp [Phase.halted]⟩
  | approaching => exact ⟨rfl, trivial, hbox', hwas, by simp [Phase.halted]⟩
  | grasped => exact ⟨rfl, trivial, hbox', hwas, by simp [Phase.halted]⟩
  | holding => exact ⟨rfl, trivial, hbox', hwas, by simp [Phase.halted]⟩
  | releasing => exact ⟨rfl, trivial, hbox', hwas, hlast⟩

end Halted

-- ============================================================================
-- Responses
-- ============================================================================

namespace DoResponseAction

variable {n : DoResponseAction} {env : Env} {action focus hasBox : String}

theorem sends_none (h : n.command action focus hasBox = none) :
    n.sends action focus hasBox = [] := by
  rw [sends, h]

theorem sends_some {name tag : String} (h : n.command action focus hasBox = some (name, tag)) :
    n.sends action focus hasBox = [.response name] := by
  rw [sends, h]
  rfl

/-- With free hands only gestures and `home` are sent, under their own names. -/
theorem command_free {name tag : String} (h : n.command action focus "no" = some (name, tag)) :
    name ∈ responseNames ∧ tag = name := by
  simp only [command, if_neg (show "no" ≠ "yes" by decide)] at h
  split_ifs at h with hgesture hsend hhome
  · obtain ⟨rfl, rfl⟩ := Prod.mk.inj (Option.some.inj h)
    have hname : action = "wave" ∨ action = "shake" ∨ action = "t_pose" := by
      simpa [isGesture] using hgesture
    refine ⟨?_, rfl⟩
    rcases hname with rfl | rfl | rfl <;> decide
  · obtain ⟨rfl, rfl⟩ := Prod.mk.inj (Option.some.inj h)
    exact ⟨by decide, rfl⟩

/-- With the box in its hands the robot sends the release motion or nothing. -/
theorem command_held : n.command action focus "yes" =
    if action = "release" ∧ n.lastSentCommand ≠ "release" ∧ focus = "yes" then
      some ("ready", "release")
    else none := by
  rw [command, if_pos rfl]

end DoResponseAction

section Responded

variable {p : Phase} {m m' : Memory} {env : Env}

theorem focus_eq_yes (env : Env) : env.focus = "yes" ↔ env.isFocused = true := by
  unfold Env.focus
  cases env.isFocused <;> simp

/-- With free hands a response leaves the phase `free`. -/
theorem InPhase.responded_free (h : InPhase p ⟨p.activity.tree, m⟩) (hno : p.hasBox = "no")
    (hbox : m'.blackboard.theHasBox =
      if m.doResponseAction.confirms p.hasBox then some "no" else m.blackboard.theHasBox)
    (hresponse : m'.doResponseAction =
      m.doResponseAction.next env.getAction env.focus p.hasBox) :
    InPhase .free ⟨ergotree, m'⟩ := by
  have hwas : m.doResponseAction.wasReleasing = decide (p = .releasing) := h.wasReleasing
  have hhas : m.blackboard.theHasBox = some p.hasBox := h.hasBox
  have hp : p ≠ .releasing := by
    rintro rfl
    exact absurd hno (by decide)
  have hconfirms : m.doResponseAction.confirms "no" = false := by
    simp [DoResponseAction.confirms]
  rw [hno] at hbox hhas hresponse
  refine ⟨rfl, trivial, ?_, ?_, by simp⟩
  · rw [hbox, hconfirms, if_neg Bool.false_ne_true]
    exact hhas
  · rw [hresponse, DoResponseAction.next, if_neg (by decide), hwas]
    simp [hp]

/-- A held box is released when somebody asks for it, unless the last response
    was a release already. -/
theorem InPhase.responded_held (h : InPhase p ⟨p.activity.tree, m⟩)
    (hp : p = .grasped ∨ p = .holding)
    (hbox : m'.blackboard.theHasBox =
      if m.doResponseAction.confirms p.hasBox then some "no" else m.blackboard.theHasBox)
    (hresponse : m'.doResponseAction =
      m.doResponseAction.next env.getAction env.focus p.hasBox) :
    ∃ p', p.Step ⟨false, true, env.releaseAsked,
        m.doResponseAction.sends env.getAction env.focus p.hasBox⟩ p' ∧
      InPhase p' ⟨ergotree, m'⟩ := by
  have hyes : p.hasBox = "yes" := by rcases hp with rfl | rfl <;> rfl
  have hwas : m.doResponseAction.wasReleasing = false := by
    rw [h.wasReleasing]
    rcases hp with rfl | rfl <;> rfl
  have hhas : m.blackboard.theHasBox = some p.hasBox := h.hasBox
  have hconfirms : m.doResponseAction.confirms "yes" = false := by
    simp [DoResponseAction.confirms, hwas]
  rw [hyes] at hbox hhas hresponse ⊢
  rw [hconfirms, if_neg Bool.false_ne_true, hhas] at hbox
  by_cases hsend : env.getAction = "release" ∧ m.doResponseAction.lastSentCommand ≠ "release" ∧
      env.focus = "yes"
  · have hcommand : m.doResponseAction.command env.getAction env.focus "yes" =
        some ("ready", "release") := by
      rw [DoResponseAction.command_held, if_pos hsend]
    have hasked : env.releaseAsked = true := by
      simp [Env.releaseAsked, (focus_eq_yes env).mp hsend.2.2, hsend.1]
    refine ⟨.releasing, ?_, rfl, trivial, hbox, ?_, fun _ => ?_⟩
    · rw [hasked, DoResponseAction.sends_some hcommand]
      exact .release hp
    · simp [hresponse, DoResponseAction.next, hcommand]
    · simp [hresponse, DoResponseAction.next, hcommand]
  · have hcommand : m.doResponseAction.command env.getAction env.focus "yes" = none := by
      rw [DoResponseAction.command_held, if_neg hsend]
    refine ⟨.holding, ?_, rfl, trivial, hbox, ?_, by simp⟩
    · rw [DoResponseAction.sends_none hcommand]
      exact .hold hp
    · simp [hresponse, DoResponseAction.next, hcommand]

/-- A release that is found finished puts the box down, and nothing is sent: the
    release is still the last command. -/
theorem InPhase.responded_releasing (h : InPhase .releasing ⟨ergotree, m⟩)
    (hbox : m'.blackboard.theHasBox =
      if m.doResponseAction.confirms "yes" then some "no" else m.blackboard.theHasBox)
    (hresponse : m'.doResponseAction =
      m.doResponseAction.next env.getAction env.focus "yes") :
    m.doResponseAction.sends env.getAction env.focus "yes" = [] ∧
      InPhase .free ⟨ergotree, m'⟩ := by
  have hwas : m.doResponseAction.wasReleasing = true := h.wasReleasing
  have hlast : m.doResponseAction.lastSentCommand = "release" := h.lastSentCommand rfl
  have hcommand : m.doResponseAction.command env.getAction env.focus "yes" = none := by
    rw [DoResponseAction.command_held, if_neg (by simp [hlast])]
  refine ⟨DoResponseAction.sends_none hcommand, rfl, trivial, ?_, ?_, by simp⟩
  · simp [hbox, DoResponseAction.confirms, hwas, Phase.hasBox]
  · simp [hresponse, DoResponseAction.next, hcommand]

/-- A tick in which `DoResponseAction` was told that the last motion is finished
    is a step of the machine. -/
theorem InPhase.responded (h : InPhase p ⟨p.activity.tree, m⟩)
    (hbox : m'.blackboard.theHasBox =
      if m.doResponseAction.confirms p.hasBox then some "no" else m.blackboard.theHasBox)
    (hresponse : m'.doResponseAction =
      m.doResponseAction.next env.getAction env.focus p.hasBox) :
    ∃ p', p.Step ⟨false, true, env.releaseAsked,
        p.abort ++ m.doResponseAction.sends env.getAction env.focus p.hasBox⟩ p' ∧
      InPhase p' ⟨ergotree, m'⟩ := by
  cases p with
  | free =>
      refine ⟨.free, ?_, h.responded_free rfl hbox hresponse⟩
      cases hcommand : m.doResponseAction.command env.getAction env.focus "no" with
      | none =>
          rw [Phase.hasBox, DoResponseAction.sends_none hcommand]
          exact .rest
      | some c =>
          rw [Phase.hasBox, DoResponseAction.sends_some hcommand]
          exact .respond (DoResponseAction.command_free hcommand).1
  | approaching =>
      refine ⟨.free, ?_, h.responded_free rfl hbox hresponse⟩
      cases hcommand : m.doResponseAction.command env.getAction env.focus "no" with
      | none =>
          rw [Phase.hasBox, DoResponseAction.sends_none hcommand]
          exact .abort
      | some c =>
          rw [Phase.hasBox, DoResponseAction.sends_some hcommand]
          exact .abortRespond (DoResponseAction.command_free hcommand).1
  | grasped => exact h.responded_held (Or.inl rfl) hbox hresponse
  | holding => exact h.responded_held (Or.inr rfl) hbox hresponse
  | releasing =>
      obtain ⟨hnone, hfree⟩ := h.responded_releasing hbox hresponse
      refine ⟨.free, ?_, hfree⟩
      rw [Phase.hasBox, hnone]
      exact .putDown

end Responded

-- ============================================================================
-- Ticks
-- ============================================================================

section Tick

variable {p : Phase} {s : State}

/-- The ways of a tick that starts in a phase. -/
theorem InPhase.cases (h : InPhase p s) (env : Env) :
    TickCase env p.activity s.memory p.hasBox (tickRoot env s) := by
  have hheld : p.activity = .running true → p.hasBox = "yes" := by
    cases p <;> simp [Phase.activity, Phase.hasBox]
  have hcases := tickRoot_cases env h.hasBox h.flag hheld
  rw [← h.tree] at hcases
  exact hcases

theorem phase_of_idle (hidle : p.activity = .idle) (hno : p.hasBox = "no") : p = .free := by
  cases p <;> simp_all [Phase.activity, Phase.hasBox]

theorem phase_of_running (hrunning : p.activity = .running false) : p = .approaching := by
  cases p <;> simp_all [Phase.activity]

section Closed

variable {env : Env} {m : Memory} {poi : Poi} {hasBox : String} {l : List Event}

/-- Before `DoResponseAction` is ticked, only an abort is commanded. -/
theorem motions_closedEvents :
    motions (closedEvents env p.activity m poi hasBox) = p.abort := by
  rw [← motions_manipulations, manipulations_closedEvents, motions_haltEvents]

theorem motions_before : motions (closedEvents env p.activity m poi hasBox ++
    inputEvents env hasBox) = p.abort := by
  rw [motions_append, motions_closedEvents, motions_inputEvents, List.append_nil]

theorem motions_closed : motions (manipulations (closedEvents env p.activity m poi hasBox ++
    (inputEvents env hasBox ++ l))) = p.abort ++ motions l := by
  rw [motions_manipulations, ← List.append_assoc, motions_append, motions_before]

theorem told_closed :
    Event.isFinished .doResponseAction true ∈
      manipulations (closedEvents env p.activity m poi hasBox ++ (inputEvents env hasBox ++ l)) ↔
    Event.isFinished .doResponseAction true ∈ manipulations l := by
  rw [manipulations_append, manipulations_closedEvents, List.mem_append]
  simp [inputEvents]

end Closed

section Memory

variable (m : Memory) (poi : Poi) (b : String) (env : Env)

@[simp] theorem perceive_theHasBox :
    (m.perceive poi b).blackboard.theHasBox = m.blackboard.theHasBox := by
  simp [Memory.perceive]

@[simp] theorem perceive_doResponseAction :
    (m.perceive poi b).doResponseAction = m.doResponseAction := rfl

@[simp] theorem listen_theHasBox :
    (m.listen env).blackboard.theHasBox = m.blackboard.theHasBox := rfl

theorem respond_theHasBox :
    (m.respond env b).blackboard.theHasBox =
      if m.doResponseAction.confirms b then some "no" else m.blackboard.theHasBox := by
  unfold Memory.respond
  split <;> rfl

end Memory

/-- A tick either returns, as a step of the machine, or throws, as a crash. -/
theorem InPhase.tick (h : InPhase p s) (env : Env) :
    (∃ r p', (tickRoot env s).result = .ok r ∧ p.Step (observe (tickRoot env s)) p' ∧
      InPhase p' (tickRoot env s).after) ∨
    (∃ e, (tickRoot env s).result = .error e ∧ p.Crash (observe (tickRoot env s))) := by
  have hs : s = ⟨p.activity.tree, s.memory⟩ := by
    rw [← h.tree]
  have hphase : InPhase p ⟨p.activity.tree, s.memory⟩ := hs ▸ h
  have hcases := h.cases env
  generalize tickRoot env s = t at hcases
  cases hcases with
  | navigating hnav =>
      refine Or.inl ⟨_, p.halted, rfl, ?_, hphase.halted rfl rfl⟩
      exact step_observe (.halt p _) (by simp [TickRecord.gateOpen, hnav])
        (by simp [Event.manipulation]) (motions_haltEvents p 0)
  | @blind e hnav hsel =>
      refine Or.inr ⟨e, rfl, ?_⟩
      exact crash_observe .blind (gateOpen_of_closed hphase.hasBox (by simp [hsel]))
        (by simp [Event.manipulation]) (by simp [Event.manipulation, motions])
  | @start q hnav hsel hgrasp ha =>
      obtain rfl := phase_of_idle ha (hasBox_of_object hsel)
      refine Or.inl ⟨_, .approaching, rfl, ?_, rfl, rfl, ?_, h.wasReleasing, by simp⟩
      · exact step_observe .start (gateOpen_of_object hphase.hasBox hnav hsel hgrasp)
          (by simp [Event.manipulation]) (by simp [Event.manipulation, Event.motion?]; rfl)
      · exact (perceive_theHasBox s.memory (.object q) "no").trans h.hasBox
  | @grasp q hnav hsel hgrasp ha hfin =>
      obtain rfl := phase_of_running ha
      refine Or.inl ⟨_, .grasped, rfl, ?_, rfl, rfl, rfl, h.wasReleasing, by simp⟩
      exact step_observe .grasp (gateOpen_of_object hphase.hasBox hnav hsel hgrasp)
        (by simp [Event.manipulation]) (by simp [Event.manipulation, Event.motion?]; rfl)
  | @wait q hnav hsel hgrasp ha hfin =>
      obtain rfl := phase_of_running ha
      refine Or.inl ⟨_, .approaching, rfl, ?_, rfl, h.flag, ?_, h.wasReleasing, by simp⟩
      · exact step_observe .wait (gateOpen_of_object hphase.hasBox hnav hsel hgrasp)
          (by simp [Event.manipulation]) (by simp [Event.manipulation, Event.motion?])
      · exact (perceive_theHasBox s.memory (.object q) "no").trans h.hasBox
  | @unfinished poi hnav hsel hclosed hfin =>
      refine Or.inl ⟨_, p.halted, rfl, ?_, hphase.halted (by simp) rfl⟩
      exact step_observe (.halt p _)
        (gateOpen_of_closed hphase.hasBox fun _ => graspable_of_closed hsel hclosed)
        (told_closed.trans (by simp [Event.manipulation]))
        (motions_closed.trans (by simp [Event.motion?]))
  | @respond poi human hnav hsel hclosed hfin hhuman =>
      have hbox := respond_theHasBox (s.memory.perceive poi p.hasBox) p.hasBox env
      rw [perceive_theHasBox] at hbox
      obtain ⟨p', hstep, hphase'⟩ := hphase.responded hbox rfl
      refine Or.inl ⟨_, p', rfl, ?_, hphase'⟩
      exact step_observe hstep
        (gateOpen_of_closed hphase.hasBox fun _ => graspable_of_closed hsel hclosed)
        (told_closed.trans (by simp [Event.manipulation]))
        (motions_closed.trans (by simp [Event.motion?, motions_respondEvents]))
  | @comeShort poi hnav hsel hclosed hfin haction hhuman =>
      refine Or.inr ⟨_, rfl, ?_⟩
      exact crash_observe .comeShort
        (gateOpen_of_closed hphase.hasBox fun _ => graspable_of_closed hsel hclosed)
        (told_closed.trans (by simp [Event.manipulation]))
        (motions_closed.trans (by simp [Event.motion?]))

/-- The phase after a tick that returns. -/
theorem InPhase.step (h : InPhase p s) {t : TickRecord} {s' : State}
    (hstep : mainLoop.Step s t s') : ∃ p', p.Step (observe t) p' ∧ InPhase p' s' := by
  obtain ⟨⟨env, rfl⟩, ⟨r, hr⟩, rfl⟩ := hstep
  rcases h.tick env with ⟨_, p', _, hp', hphase⟩ | ⟨e, he, _⟩
  · exact ⟨p', hp', hphase⟩
  · rw [hr] at he
    cases he

/-- A tick that throws leaves `the_has_box` as it was. -/
theorem InPhase.crash_theHasBox (hphase : InPhase p s) {env : Env} {e : Exception}
    (he : (tickRoot env s).result = .error e) :
    (tickRoot env s).after.memory.blackboard.theHasBox = s.memory.blackboard.theHasBox := by
  have hcases := hphase.cases env
  generalize tickRoot env s = t at hcases he
  cases hcases with
  | blind => rfl
  | comeShort => simp
  | _ => simp at he

end Tick

-- ============================================================================
-- What a tick commands, whether it returns or throws
-- ============================================================================

section Commands

variable {p : Phase} {s : State}

theorem InPhase.before_theHasBox (h : InPhase p s) (env : Env) :
    (tickRoot env s).before.memory.blackboard.theHasBox = some p.hasBox := by
  rw [tickRoot_before]
  exact h.hasBox

/-- `ready` is sent when the gate opens and no approach is under way. -/
theorem InPhase.ready_iff (h : InPhase p s) (env : Env) :
    .ready ∈ motions (tickRoot env s).trace ↔
      (tickRoot env s).gateOpen = true ∧ p ≠ .approaching := by
  rcases h.tick env with ⟨r, p', -, hstep, -⟩ | ⟨e, -, hcrash⟩
  · exact hstep.ready_iff
  · have hclosed : (tickRoot env s).gateOpen = false := hcrash.seen.1
    rw [hclosed]
    refine iff_of_false (fun hready => ?_) (by simp)
    exact absurd (hcrash.motion hready).1 (by decide)

/-- The grasp is the tick that fills the hands, -/
theorem InPhase.grasp_iff (h : InPhase p s) (env : Env) :
    .bottomGrasp ∈ motions (tickRoot env s).trace ↔
      (tickRoot env s).before.memory.blackboard.theHasBox = some "no" ∧
        (tickRoot env s).after.memory.blackboard.theHasBox = some "yes" := by
  rw [h.before_theHasBox]
  rcases h.tick env with ⟨r, p', -, hstep, hafter⟩ | ⟨e, he, hcrash⟩
  · rw [hafter.hasBox, Option.some.injEq, Option.some.injEq]
    exact hstep.grasp_iff
  · rw [h.crash_theHasBox he, h.hasBox]
    constructor
    · intro hgrasp
      exact absurd (hcrash.motion hgrasp).1 (by decide)
    · rintro ⟨hno, hyes⟩
      rw [hno] at hyes
      exact absurd hyes (by decide)

/-- in an approach whose gate is still open. -/
theorem InPhase.open_of_grasp (h : InPhase p s) {env : Env}
    (hgrasp : .bottomGrasp ∈ motions (tickRoot env s).trace) :
    (tickRoot env s).gateOpen = true ∧ p = .approaching := by
  rcases h.tick env with ⟨r, p', -, hstep, -⟩ | ⟨e, -, hcrash⟩
  · exact hstep.open_of_grasp hgrasp
  · exact absurd (hcrash.motion hgrasp).1 (by decide)

/-- An approach whose gate closes is given up once, in a tick that throws too. -/
theorem InPhase.abort_once (h : InPhase p s) {env : Env}
    (habort : .abort ∈ motions (tickRoot env s).trace) :
    p = .approaching ∧ (tickRoot env s).gateOpen = false ∧
      (motions (tickRoot env s).trace).count .abort = 1 := by
  rcases h.tick env with ⟨r, p', -, hstep, -⟩ | ⟨e, -, hcrash⟩
  · obtain ⟨hclosed, hp⟩ := hstep.abort_iff.mp habort
    exact ⟨hp, hclosed, Nat.le_antisymm hstep.abort_count (List.count_pos_iff.mpr habort)⟩
  · obtain ⟨-, hp, hmotions⟩ := hcrash.motion habort
    have hone : motions (tickRoot env s).trace = [.abort] := hmotions
    refine ⟨hp, hcrash.seen.1, ?_⟩
    rw [hone]
    rfl

/-- A tick that returns gives up every approach whose gate has closed. -/
theorem InPhase.abort_iff (h : InPhase p s) {env : Env} {r : TickStatus}
    (hr : (tickRoot env s).result = .ok r) :
    .abort ∈ motions (tickRoot env s).trace ↔
      p = .approaching ∧ (tickRoot env s).gateOpen = false := by
  rcases h.tick env with ⟨r', p', -, hstep, -⟩ | ⟨e, he, -⟩
  · rw [and_comm]
    exact hstep.abort_iff
  · rw [hr] at he
    cases he

end Commands

-- ============================================================================
-- Runs
-- ============================================================================

/-- The loop of `main`, tick by tick, is a run of the machine. -/
theorem mainLoop_refines : Simulation mainLoop protocol observe fun s p => InPhase p s where
  start := inPhase_initialState
  step _ _ _ _ hphase hstep := hphase.step hstep

variable {h : List TickRecord} {s : State}

theorem Run.protocol (hrun : ErgoCubBehavior.Run h s) :
    ∃ p, Transition.Run ErgoCubBehavior.protocol (h.map observe) p ∧ InPhase p s :=
  mainLoop_refines.run hrun

end ErgoCubBehavior
