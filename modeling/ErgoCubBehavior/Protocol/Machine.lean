/-
  ErgoCubBehavior.Protocol.Machine

  The tree does with its arms what the machine of `Protocol.Arms` does.

  * `Env.stimulus`    — what a tick sees of its answers;
  * `InArms a s`      — the state `s` of the process is the state `a` of the machine;
  * `InArms.tick`     — a tick that returns commands the motions of the machine;
  * `tree_implements` — and there is such a tick for every stimulus.
-/

import ErgoCubBehavior.Protocol.Arms

namespace ErgoCubBehavior

open BehaviorTree Binary64 Transition Mealy

-- ============================================================================
-- What a tick sees
-- ============================================================================

def Env.stimulus (env : Env) : Stimulus where
  travelling := env.navigating
  offered := env.objectSeen && env.graspable
  finished := env.isFinished 0
  action := env.getAction
  looking := env.isFocused

def TickRecord.stimulus (t : TickRecord) : Stimulus := t.env.stimulus

structure InArms (a : Arms) (s : State) : Prop where
  phase : InPhase a.phase s
  last : s.memory.doResponseAction.lastSentCommand = a.last

theorem inArms_initialState : InArms arms.start initialState :=
  ⟨inPhase_initialState, rfl⟩

variable {env : Env} {a : Arms} {p : Phase} {s : State} {m m' : Memory} {poi : Poi}

section Stimulus

variable {q : List Double} {hasBox : String}

/-- An object that is selected is offered when it is in reach. -/
theorem offered_of_object (hsel : selectPoi env (some hasBox) = .ok (.object q))
    (hgrasp : env.graspable = true) : env.stimulus.offered = true := by
  obtain ⟨-, hseen⟩ := selectPoi_object.mp hsel
  show (env.objectSeen && env.graspable) = true
  rw [hgrasp, Env.objectSeen, hseen]
  rfl

/-- A gate that is closed for free hands has nothing to offer. -/
theorem not_offered_of_closed (hsel : selectPoi env (some p.hasBox) = .ok poi)
    (hclosed : graspGate env poi.name = false) :
    ¬ (env.stimulus.offered ∧ p.hasBox = "no") := by
  rintro ⟨hoffered, hno⟩
  obtain ⟨hseen, hgrasp⟩ := Bool.and_eq_true_iff.mp hoffered
  cases hs : sighting env.getCenter with
  | seen q =>
      rw [graspable_of_closed hsel hclosed (selectPoi_object.mpr ⟨hno, hs⟩)] at hgrasp
      cases hgrasp
  | _ =>
      rw [Env.objectSeen, hs] at hseen
      cases hseen

end Stimulus

-- ============================================================================
-- Answers
-- ============================================================================

section Answers

variable (n : DoResponseAction) (env)

theorem command_reply : n.command env.getAction env.focus "no" =
    (Arms.reply n.lastSentCommand env.stimulus).map fun name => (name, name) := by
  have hgesture : DoResponseAction.isGesture env.getAction = true ↔
      env.stimulus.action ∈ ["wave", "shake", "t_pose"] := by
    simp [DoResponseAction.isGesture, Env.stimulus]
  have hlook : env.focus = "yes" ↔ env.stimulus.looking = true := focus_eq_yes env
  unfold DoResponseAction.command Arms.reply
  rw [if_neg (show "no" ≠ "yes" by decide)]
  simp only [hgesture, hlook]
  split_ifs <;> simp_all [Env.stimulus]

theorem command_asks : n.command env.getAction env.focus "yes" =
    if Arms.asks n.lastSentCommand env.stimulus then some ("ready", "release") else none := by
  have hasks : Arms.asks n.lastSentCommand env.stimulus = true ↔
      env.getAction = "release" ∧ n.lastSentCommand ≠ "release" ∧ env.focus = "yes" := by
    rw [focus_eq_yes]
    simp only [Arms.asks, Env.stimulus, Bool.and_eq_true, decide_eq_true_iff]
    constructor
    · rintro ⟨⟨hrelease, hlook⟩, hlast⟩
      exact ⟨of_decide_eq_true hrelease, hlast, hlook⟩
    · rintro ⟨hrelease, hlast, hlook⟩
      exact ⟨⟨decide_eq_true hrelease, hlook⟩, hlast⟩
  rw [DoResponseAction.command_held]
  simp only [hasks]

end Answers

section Held

variable {o : Observation} {p' : Phase} (hstep : p.Step o p') (hp : p = .grasped ∨ p = .holding)
include hstep hp

theorem releasing_of_release (hsent : o.motions = [.release]) : p' = .releasing := by
  rcases hp with rfl | rfl <;> cases hstep <;> simp_all

theorem holding_of_quiet (hsent : o.motions = []) : p' = .holding := by
  rcases hp with rfl | rfl <;> cases hstep <;> simp_all

end Held

section Answer

variable (hresponse : m'.doResponseAction =
      m.doResponseAction.next env.getAction env.focus p.hasBox)
include hresponse

/-- Free hands answer as the machine does. -/
theorem answer_free (hno : p.hasBox = "no") (hfree : InPhase .free ⟨ergotree, m'⟩) :
    p.abort ++ m.doResponseAction.sends env.getAction env.focus p.hasBox =
        (Arms.answer ⟨p, m.doResponseAction.lastSentCommand⟩ env.stimulus).2 ∧
      InArms (Arms.answer ⟨p, m.doResponseAction.lastSentCommand⟩ env.stimulus).1
        ⟨ergotree, m'⟩ := by
  have hp : p = .free ∨ p = .approaching := by
    cases p <;> simp_all [Phase.hasBox]
  have hcommand := command_reply env m.doResponseAction
  rw [hno] at hresponse ⊢
  cases hreply : Arms.reply m.doResponseAction.lastSentCommand env.stimulus with
  | none =>
      rw [hreply] at hcommand
      have hanswer : Arms.answer ⟨p, m.doResponseAction.lastSentCommand⟩ env.stimulus =
          (⟨.free, m.doResponseAction.lastSentCommand⟩, p.abort) := by
        rcases hp with rfl | rfl <;> simp [Arms.answer, hreply]
      rw [hanswer, DoResponseAction.sends_none hcommand]
      refine ⟨List.append_nil _, hfree, ?_⟩
      show m'.doResponseAction.lastSentCommand = _
      rw [hresponse, DoResponseAction.next, hcommand]
      rfl
  | some name =>
      rw [hreply] at hcommand
      have hanswer : Arms.answer ⟨p, m.doResponseAction.lastSentCommand⟩ env.stimulus =
          (⟨.free, name⟩, p.abort ++ [.response name]) := by
        rcases hp with rfl | rfl <;> simp [Arms.answer, hreply]
      rw [hanswer, DoResponseAction.sends_some hcommand]
      refine ⟨rfl, hfree, ?_⟩
      show m'.doResponseAction.lastSentCommand = _
      rw [hresponse, DoResponseAction.next, hcommand]
      rfl

/-- A held box is given back when the machine gives it back. -/
theorem answer_held (hp : p = .grasped ∨ p = .holding) {p' : Phase}
    (hstep : p.Step ⟨false, true, env.releaseAsked,
      m.doResponseAction.sends env.getAction env.focus p.hasBox⟩ p')
    (hphase : InPhase p' ⟨ergotree, m'⟩) :
    m.doResponseAction.sends env.getAction env.focus p.hasBox =
        (Arms.answer ⟨p, m.doResponseAction.lastSentCommand⟩ env.stimulus).2 ∧
      InArms (Arms.answer ⟨p, m.doResponseAction.lastSentCommand⟩ env.stimulus).1
        ⟨ergotree, m'⟩ := by
  have hyes : p.hasBox = "yes" := by rcases hp with rfl | rfl <;> rfl
  have hcommand := command_asks env m.doResponseAction
  have hanswer : Arms.answer ⟨p, m.doResponseAction.lastSentCommand⟩ env.stimulus =
      if Arms.asks m.doResponseAction.lastSentCommand env.stimulus then
        (⟨.releasing, "release"⟩, [.release])
      else (⟨.holding, m.doResponseAction.lastSentCommand⟩, []) := by
    rcases hp with rfl | rfl <;> rfl
  rw [hyes] at hresponse hstep ⊢
  rw [hanswer]
  cases hasks : Arms.asks m.doResponseAction.lastSentCommand env.stimulus with
  | true =>
      rw [hasks, if_pos rfl] at hcommand
      have hsends := DoResponseAction.sends_some hcommand
      rw [hsends] at hstep ⊢
      rw [releasing_of_release hstep hp rfl] at hphase
      refine ⟨rfl, hphase, ?_⟩
      show m'.doResponseAction.lastSentCommand = _
      rw [hresponse, DoResponseAction.next, hcommand]
      rfl
  | false =>
      rw [hasks, if_neg Bool.false_ne_true] at hcommand
      have hsends := DoResponseAction.sends_none hcommand
      rw [hsends] at hstep ⊢
      rw [holding_of_quiet hstep hp rfl] at hphase
      refine ⟨rfl, hphase, ?_⟩
      show m'.doResponseAction.lastSentCommand = _
      rw [hresponse, DoResponseAction.next, hcommand]
      rfl

end Answer

/-- `DoResponseAction` answers as the machine does. -/
theorem InArms.answer (harms : InArms a ⟨a.phase.activity.tree, m⟩)
    (hbox : m'.blackboard.theHasBox =
      if m.doResponseAction.confirms a.phase.hasBox then some "no" else m.blackboard.theHasBox)
    (hresponse : m'.doResponseAction =
      m.doResponseAction.next env.getAction env.focus a.phase.hasBox) :
    a.phase.abort ++ m.doResponseAction.sends env.getAction env.focus a.phase.hasBox =
      (a.answer env.stimulus).2 ∧ InArms (a.answer env.stimulus).1 ⟨ergotree, m'⟩ := by
  obtain ⟨p, last⟩ := a
  obtain ⟨hphase, hlast⟩ := harms
  obtain rfl : m.doResponseAction.lastSentCommand = last := hlast
  cases p with
  | free => exact answer_free hresponse rfl (hphase.responded_free rfl hbox hresponse)
  | approaching => exact answer_free hresponse rfl (hphase.responded_free rfl hbox hresponse)
  | grasped =>
      obtain ⟨p', hstep, hphase'⟩ := hphase.responded_held (Or.inl rfl) hbox hresponse
      exact answer_held hresponse (Or.inl rfl) hstep hphase'
  | holding =>
      obtain ⟨p', hstep, hphase'⟩ := hphase.responded_held (Or.inr rfl) hbox hresponse
      exact answer_held hresponse (Or.inr rfl) hstep hphase'
  | releasing =>
      obtain ⟨hnone, hfree⟩ := hphase.responded_releasing hbox hresponse
      have hrelease : m.doResponseAction.lastSentCommand = "release" := hphase.lastSentCommand rfl
      refine ⟨hnone, hfree, ?_⟩
      show m'.doResponseAction.lastSentCommand = m.doResponseAction.lastSentCommand
      rw [hresponse, DoResponseAction.next, Phase.hasBox, DoResponseAction.command_held,
        if_neg (by simp [hrelease])]

-- ============================================================================
-- Ticks
-- ============================================================================

theorem InArms.step_open (hnav : env.navigating = false) (hoffered : env.stimulus.offered = true)
    (hno : a.phase.hasBox = "no") : Arms.step a env.stimulus = a.take env.stimulus := by
  have hstay : ¬ env.stimulus.travelling := by
    rw [Env.stimulus, hnav]
    exact Bool.false_ne_true
  rw [Arms.step, if_neg hstay, if_pos ⟨hoffered, hno⟩]

theorem InArms.step_closed (hnav : env.navigating = false)
    (hclosed : ¬ (env.stimulus.offered ∧ a.phase.hasBox = "no")) :
    Arms.step a env.stimulus =
      if env.stimulus.finished then a.answer env.stimulus else a.rest := by
  have hstay : ¬ env.stimulus.travelling := by
    rw [Env.stimulus, hnav]
    exact Bool.false_ne_true
  rw [Arms.step, if_neg hstay, if_neg hclosed]

/-- With an open gate, only what `GoGrasp` does is commanded. -/
theorem motions_open {hasBox : String} {l : List Event} :
    motions (openEvents env m poi hasBox ++ l) = motions l := by
  rw [motions_append, motions_quiet (by simp), List.nil_append]

/-- A tick that returns does what the machine does. -/
theorem InArms.tick (harms : InArms a s) {r : TickStatus}
    (hr : (tickRoot env s).result = .ok r) :
    motions (tickRoot env s).trace = (Arms.step a env.stimulus).2 ∧
      InArms (Arms.step a env.stimulus).1 (tickRoot env s).after := by
  have hs : s = ⟨a.phase.activity.tree, s.memory⟩ := by
    rw [← harms.phase.tree]
  have harms' : InArms a ⟨a.phase.activity.tree, s.memory⟩ := hs ▸ harms
  have hcases := harms.phase.cases env
  generalize tickRoot env s = t at hcases hr
  cases hcases with
  | navigating hnav =>
      have hstep : Arms.step a env.stimulus = a.rest := if_pos hnav
      rw [hstep]
      refine ⟨?_, harms'.phase.halted rfl rfl, harms'.last⟩
      rw [← motions_manipulations]
      exact motions_haltEvents a.phase 0
  | blind => cases hr
  | @start q hnav hsel hgrasp ha =>
      have hno := hasBox_of_object hsel
      have hfree : a.phase = .free := phase_of_idle ha hno
      have hstep : Arms.step a env.stimulus = (⟨.approaching, a.last⟩, [.ready]) := by
        rw [InArms.step_open hnav (offered_of_object hsel hgrasp) hno, Arms.take,
          if_neg (by simp [hfree])]
      rw [hstep]
      refine ⟨motions_open, ⟨rfl, rfl, ?_, ?_, by simp⟩, harms.last⟩
      · show (s.memory.perceive (.object q) a.phase.hasBox).blackboard.theHasBox = some "no"
        rw [perceive_theHasBox, harms.phase.hasBox, hno]
      · exact harms.phase.wasReleasing.trans (by simp [hfree])
  | @grasp q hnav hsel hgrasp ha hfin =>
      have hno := hasBox_of_object hsel
      have happroaching : a.phase = .approaching := phase_of_running ha
      have hstep : Arms.step a env.stimulus = (⟨.grasped, a.last⟩, [.bottomGrasp]) := by
        rw [InArms.step_open hnav (offered_of_object hsel hgrasp) hno, Arms.take,
          if_pos happroaching]
        exact if_pos hfin
      rw [hstep]
      refine ⟨motions_open, ⟨rfl, rfl, rfl, ?_, by simp⟩, harms.last⟩
      exact harms.phase.wasReleasing.trans (by simp [happroaching])
  | @wait q hnav hsel hgrasp ha hfin =>
      have hno := hasBox_of_object hsel
      have happroaching : a.phase = .approaching := phase_of_running ha
      have hstep : Arms.step a env.stimulus = (a, []) := by
        rw [InArms.step_open hnav (offered_of_object hsel hgrasp) hno, Arms.take,
          if_pos happroaching]
        exact if_neg (by rw [Env.stimulus, hfin]; exact Bool.false_ne_true)
      rw [hstep]
      refine ⟨motions_open, ⟨?_, ?_, ?_, harms.phase.wasReleasing, ?_⟩, harms.last⟩
      · rw [happroaching]
        rfl
      · exact harms.phase.flag
      · exact (perceive_theHasBox s.memory (.object q) a.phase.hasBox).trans harms.phase.hasBox
      · exact harms.phase.lastSentCommand
  | @unfinished poi hnav hsel hclosed hfin =>
      have hstep : Arms.step a env.stimulus = a.rest := by
        rw [InArms.step_closed hnav (not_offered_of_closed hsel hclosed)]
        exact if_neg (by rw [Env.stimulus, hfin]; exact Bool.false_ne_true)
      rw [hstep]
      refine ⟨?_, harms'.phase.halted (by simp) rfl, harms'.last⟩
      rw [← motions_manipulations, motions_closed]
      exact List.append_nil _
  | @respond poi human hnav hsel hclosed hfin hhuman =>
      have hstep : Arms.step a env.stimulus = a.answer env.stimulus := by
        rw [InArms.step_closed hnav (not_offered_of_closed hsel hclosed)]
        exact if_pos hfin
      have hbox := respond_theHasBox (s.memory.perceive poi a.phase.hasBox) a.phase.hasBox env
      rw [perceive_theHasBox] at hbox
      obtain ⟨hmotions, hafter⟩ := harms'.answer hbox rfl
      rw [hstep]
      refine ⟨?_, hafter⟩
      rw [← motions_manipulations, motions_closed, ← hmotions, motions_cons,
        motions_respondEvents]
      rfl
  | comeShort => cases hr

-- ============================================================================
-- Every stimulus can come
-- ============================================================================

/-- A tick that sees the stimulus, with nobody around and every service at work. -/
def Stimulus.answers (i : Stimulus) : Env :=
  { Env.alone with
    navigation := if i.travelling then [1] else []
    getCenter := if i.offered then [Double.one, Double.one, Double.one]
      else [Double.minusOne, Double.minusOne, Double.minusOne]
    getDistance := if i.offered then 300 else -1
    isFocused := i.looking
    getAction := i.action
    isFinished _ := i.finished }

theorem stimulus_answers (i : Stimulus) : i.answers.stimulus = i := by
  obtain ⟨travelling, offered, finished, action, looking⟩ := i
  cases travelling <;> cases offered <;> rfl

/-- No service of such a tick fails. -/
theorem InPhase.returns (hphase : InPhase p s) (i : Stimulus) :
    ∃ r, (tickRoot i.answers s).result = .ok r := by
  have hface : selectFace i.answers = .ok .none := rfl
  have hcenter : sighting i.answers.getCenter = .absent ∨
      sighting i.answers.getCenter = .seen [Double.one, Double.one, Double.one] := by
    cases hoffered : i.offered with
    | true => exact Or.inr (by simp only [Stimulus.answers, hoffered]; decide)
    | false => exact Or.inl (by simp only [Stimulus.answers, hoffered]; decide)
  have hhuman : position i.answers.getHumanPosition ≠ none := by
    show position [Double.one, Double.one, Double.one] ≠ none
    decide
  have hcases := hphase.cases i.answers
  generalize tickRoot i.answers s = t at hcases ⊢
  cases hcases with
  | blind hnav hsel =>
      have hok : ∃ poi, selectPoi i.answers (some p.hasBox) = .ok poi := by
        unfold selectPoi
        split_ifs
        · rcases hcenter with hc | hc <;> simp [hc, hface]
        · exact ⟨_, hface⟩
      obtain ⟨poi, hpoi⟩ := hok
      rw [hpoi] at hsel
      cases hsel
  | comeShort hnav hsel hclosed hfin haction hnone => exact absurd hnone hhuman
  | _ => exact ⟨_, rfl⟩

/-- The tree does with its arms what the machine does, whatever it sees. -/
theorem tree_implements :
    Implements mainLoop arms TickRecord.stimulus (fun t => motions t.trace)
      (fun s a => InArms a s) where
  start := inArms_initialState
  step := by
    rintro s t s' a harms ⟨⟨env, rfl⟩, ⟨r, hr⟩, rfl⟩
    rw [TickRecord.stimulus, tickRoot_env]
    exact harms.tick hr
  takes := by
    intro s a i harms
    obtain ⟨r, hr⟩ := harms.phase.returns i
    refine ⟨tickRoot i.answers s, _, ⟨⟨i.answers, rfl⟩, ⟨r, hr⟩, rfl⟩, ?_⟩
    rw [TickRecord.stimulus, tickRoot_env, stimulus_answers]

variable {h : List TickRecord}

/-- The state of the machine that has seen what the ticks of a run have seen. -/
theorem Run.inArms (hrun : ErgoCubBehavior.Run h s) :
    InArms (arms.after arms.start (h.map TickRecord.stimulus)) s :=
  (tree_implements.path hrun inArms_initialState).2

end ErgoCubBehavior
