/-
  ErgoCubBehavior.Protocol.History

  What the commands of a run say about the state it has reached.

  * `sent h`         — every motion commanded in the ticks `h`;
  * `last_run`       — which command can be the last one, by phase;
  * `Run.remembers`  — `last_sent_command` is the last command of
    `DoResponseAction`, whatever `GoGrasp` has commanded since.
-/

import ErgoCubBehavior.Protocol.Refinement

namespace ErgoCubBehavior

open BehaviorTree Transition

variable {h : List TickRecord} {s : State}

-- ============================================================================
-- Commands of a history
-- ============================================================================

/-- Every motion commanded in the ticks of a history. -/
def sent (h : List TickRecord) : List Motion :=
  h.flatMap fun t => motions t.trace

@[simp] theorem sent_concat (h : List TickRecord) (t : TickRecord) :
    sent (h ++ [t]) = sent h ++ motions t.trace := by
  simp [sent]

theorem commands_observe (h : List TickRecord) : commands (h.map observe) = sent h := by
  simp only [commands, sent, List.flatMap_map]
  rfl

/-- A cut of the observations is a cut of the history. -/
theorem observe_cut {os₁ os₂ : List Observation} {o : Observation}
    (hcut : h.map observe = os₁ ++ o :: os₂) :
    ∃ h₁ t h₂, h = h₁ ++ t :: h₂ ∧ observe t = o ∧ h₂.map observe = os₂ := by
  obtain ⟨h₁, k, rfl, -, hk⟩ := List.map_eq_append_iff.mp hcut
  obtain ⟨t, h₂, rfl, ht, hh₂⟩ := List.map_eq_cons_iff.mp hk
  exact ⟨h₁, t, h₂, rfl, ht, hh₂⟩

-- ============================================================================
-- The last command
-- ============================================================================

/-- The commands that can be the last one in a phase. -/
def Phase.Last : Phase → Option Motion → Prop
  | .free, x => x = none ∨ x = some .abort ∨ x = some .release ∨
      ∃ name ∈ responseNames, x = some (.response name)
  | .approaching, x => x = some .ready
  | .grasped, x => x = some .bottomGrasp
  | .holding, x => x = some .bottomGrasp
  | .releasing, x => x = some .release

theorem Phase.Step.last {p p' : Phase} {o : Observation} (hstep : p.Step o p') {l : List Motion}
    (hl : p.Last l.getLast?) : p'.Last (l ++ o.motions).getLast? := by
  cases hstep with
  | start => simp [Phase.Last]
  | rest => simpa using hl
  | respond hname => exact Or.inr (Or.inr (Or.inr ⟨_, hname, by simp⟩))
  | wait => simpa using hl
  | grasp => simp [Phase.Last]
  | abort => simp [Phase.Last]
  | abortRespond hname => exact Or.inr (Or.inr (Or.inr ⟨_, hname, by simp⟩))
  | hold hp => rcases hp with rfl | rfl <;> simpa [Phase.Last] using hl
  | release hp => simp [Phase.Last]
  | keep => simpa using hl
  | putDown =>
      have hrelease : l.getLast? = some .release := hl
      exact Or.inr (Or.inr (Or.inl (by simp [hrelease])))

theorem last_run {os : List Observation} {p : Phase} (hrun : Transition.Run protocol os p) :
    p.Last (commands os).getLast? := by
  refine hrun.history (Or.inl rfl) fun os p o p' _ hlast hstep => ?_
  rw [commands_concat]
  exact Phase.Step.last hstep hlast

/-- A box that is held is being given back when the release is the last command. -/
theorem Phase.Last.releasing_iff {p : Phase} {x : Option Motion} (hlast : p.Last x)
    (hheld : p.hasBox = "yes") : p = .releasing ↔ x = some .release := by
  cases p with
  | free | approaching => simp [Phase.hasBox] at hheld
  | grasped | holding =>
      have hgrasp : x = some .bottomGrasp := hlast
      rw [hgrasp]
      decide
  | releasing => exact iff_of_true rfl hlast

-- ============================================================================
-- What DoResponseAction remembers
-- ============================================================================

def responses (l : List Motion) : List Motion :=
  l.filter fun x => x.client = .doResponseAction

@[simp] theorem responses_append (l₁ l₂ : List Motion) :
    responses (l₁ ++ l₂) = responses l₁ ++ responses l₂ := by
  simp [responses]

/-- The last command of `DoResponseAction`. -/
def lastResponse (l : List Motion) : Option Motion :=
  (responses l).getLast?

/-- The value `last_sent_command` has after a command. -/
def Remembers (lastSentCommand : String) : Option Motion → Prop
  | none => lastSentCommand = ""
  | some x => (x = .release ∧ lastSentCommand = "release") ∨
      ∃ name ∈ responseNames, x = .response name ∧ lastSentCommand = name

/-- A tick of `DoResponseAction` remembers what it sends. -/
theorem DoResponseAction.remembers_next {n : DoResponseAction} {action focus hasBox : String}
    {l : List Motion} (hbox : hasBox = "no" ∨ hasBox = "yes")
    (hl : Remembers n.lastSentCommand l.getLast?) :
    Remembers (n.next action focus hasBox).lastSentCommand
      (l ++ n.sends action focus hasBox).getLast? := by
  cases hcommand : n.command action focus hasBox with
  | none => simpa [next, sends_none hcommand, hcommand] using hl
  | some c =>
      obtain ⟨name, tag⟩ := c
      rw [sends_some hcommand]
      simp only [next, hcommand, List.getLast?_append, List.getLast?_singleton, Option.some_or]
      rcases hbox with rfl | rfl
      · obtain ⟨hname, rfl⟩ := command_free hcommand
        exact Or.inr ⟨tag, hname, rfl, rfl⟩
      · rw [command_held] at hcommand
        split_ifs at hcommand
        obtain ⟨rfl, rfl⟩ := Prod.mk.inj (Option.some.inj hcommand)
        exact Or.inl ⟨rfl, rfl⟩

/-- `last_sent_command` follows the commands of `DoResponseAction`, and no
    others. -/
theorem Run.remembers (hrun : Run h s) :
    Remembers s.memory.doResponseAction.lastSentCommand (lastResponse (sent h)) := by
  refine hrun.history rfl ?_
  rintro h s t s' hrun hlast ⟨⟨env, rfl⟩, -, rfl⟩
  obtain ⟨p, -, hphase⟩ := ErgoCubBehavior.Run.protocol hrun
  have hbox : p.hasBox = "no" ∨ p.hasBox = "yes" := by
    cases p <;> simp [Phase.hasBox]
  rw [sent_concat, lastResponse, responses_append]
  rcases (hphase.cases env).response with ⟨hkeep, hnone⟩ | ⟨hnext, hsends⟩
  · rw [motions_eventsOf] at hnone
    rw [hkeep, responses, responses, hnone, List.append_nil]
    exact hlast
  · rw [motions_eventsOf] at hsends
    rw [hnext, responses, responses, hsends]
    exact DoResponseAction.remembers_next hbox hlast

theorem Remembers.release_iff {lastSentCommand : String} {x : Option Motion}
    (hx : Remembers lastSentCommand x) : lastSentCommand = "release" ↔ x = some .release := by
  cases x with
  | none =>
      have hempty : lastSentCommand = "" := hx
      simp [hempty]
  | some x =>
      rcases hx with ⟨rfl, rfl⟩ | ⟨name, hname, rfl, rfl⟩
      · simp
      · have hne : lastSentCommand ≠ "release" := by
          rintro rfl
          exact absurd hname (by decide)
        simp [hne, response_ne_release hname]

end ErgoCubBehavior
