/-
  ErgoCubBehavior.Properties.Arms

  What the arms do in the long run, from the machine of `Protocol.Arms`.

  * `arms_exact`            — the histories of the arms are those of the machine;
  * `commands_bounded`      — the arms come to rest while what they see stays;
  * `box_takeable`, `box_returnable_iff` — which hands can be filled and emptied;
  * `trap_reachable`        — from everywhere the robot can be led to keep a box for good.
-/

import ErgoCubBehavior.Protocol.History
import ErgoCubBehavior.Protocol.Machine

namespace ErgoCubBehavior

open BehaviorTree Transition Mealy

variable {h : List TickRecord} {s : State}

-- ============================================================================
-- The histories of the arms
-- ============================================================================

/-- What the ticks of a run have seen and what they have commanded is what the machine reads
    and commands, and the machine has no other histories; and it has thirty states. -/
theorem arms_exact :
    (∀ l : List (Stimulus × List Motion),
      (∃ h s, ErgoCubBehavior.Run h s ∧ h.map (fun t => (t.stimulus, motions t.trace)) = l) ↔
        l.map Prod.snd = arms.outputs arms.start (l.map Prod.fst)) ∧
    (∀ is, arms.after arms.start is ∈ Arms.states) ∧ Arms.states.length = 30 :=
  ⟨tree_implements.histories, Arms.after_mem_states, rfl⟩

-- ============================================================================
-- Coming to rest
-- ============================================================================

/-- From every state a run reaches, five motions at most are commanded for every change of
    what the arms see, and for the first. -/
theorem commands_bounded (hrun : ErgoCubBehavior.Run h s) {h' : List TickRecord} {s' : State}
    (hpath : Path mainLoop s h' s') :
    (h'.map fun t => (motions t.trace).length).sum ≤
      5 * (changes (h'.map TickRecord.stimulus) + 1) := by
  obtain ⟨houtputs, -⟩ := tree_implements.path hpath hrun.inArms
  have hcost := Arms.commands_le (arms.after arms.start (h.map TickRecord.stimulus))
    (h'.map TickRecord.stimulus)
  rw [← houtputs, List.map_map] at hcost
  exact hcost

/-- A box stays in reach while a human asks for it: the robot takes it, gives it back, and
    takes it again, for good. -/
theorem commands_bounded_spent :
    ((history (List.replicate 9 (Env.alone.human "release").object)).map fun t =>
        (motions t.trace).length).sum ≤
      5 * (changes ((history (List.replicate 9 (Env.alone.human "release").object)).map
        TickRecord.stimulus) + 1) :=
  commands_bounded (h := []) .nil (run_history _)

-- ============================================================================
-- Filling and emptying the hands
-- ============================================================================

def HasBox (value : String) (s : State) : Prop :=
  s.memory.blackboard.theHasBox = some value

section Reached

variable {a : Arms} (harms : InArms a s)
include harms

theorem InArms.hasBox_iff (value : String) : HasBox value s ↔ a.phase.hasBox = value := by
  rw [HasBox, harms.phase.hasBox]
  exact Option.some_inj

/-- Where the machine can go, the process can go. -/
theorem InArms.reach (is : List Stimulus) :
    ∃ h' s', Path mainLoop s h' s' ∧ h'.length = is.length ∧ InArms (arms.after a is) s' := by
  obtain ⟨h', s', hpath, hinputs, harms'⟩ := tree_implements.realizes harms is
  exact ⟨h', s', hpath, by rw [← hinputs, List.length_map], harms'⟩

theorem InArms.trapped_iff (hyes : HasBox "yes" s) :
    a.Trapped ↔ s.memory.doResponseAction.wasReleasing = false ∧
      s.memory.doResponseAction.lastSentCommand = "release" := by
  have hheld : a.phase.hasBox = "yes" := (harms.hasBox_iff "yes").mp hyes
  rw [Arms.Trapped, harms.phase.wasReleasing, harms.last, decide_eq_false_iff_not]
  refine and_congr_left fun _ => ?_
  cases hp : a.phase <;> simp_all [Phase.hasBox]

/-- What is left of a run that has trapped a box. -/
theorem InArms.trapped (htrapped : a.Trapped) {h' : List TickRecord} {s' : State}
    (hpath : Path mainLoop s h' s') : HasBox "yes" s' ∧ ∀ t ∈ h', motions t.trace = [] := by
  obtain ⟨houtputs, harms'⟩ := tree_implements.path hpath harms
  obtain ⟨htrapped', hquiet⟩ := Arms.trapped htrapped (h'.map TickRecord.stimulus)
  refine ⟨(harms'.hasBox_iff "yes").mpr htrapped'.hasBox, fun t ht => hquiet _ ?_⟩
  rw [← houtputs]
  exact List.mem_map_of_mem ht

end Reached

/-- From every state of a run with empty hands, two ticks or less can fill them. -/
theorem box_takeable (hrun : ErgoCubBehavior.Run h s) (hno : HasBox "no" s) :
    ∃ h' s', Path mainLoop s h' s' ∧ h'.length ≤ 2 ∧ HasBox "yes" s' := by
  have harms := hrun.inArms
  generalize arms.after arms.start (h.map TickRecord.stimulus) = a at harms
  obtain ⟨is, htwo, hfilled⟩ := Arms.fills ((harms.hasBox_iff "no").mp hno)
  obtain ⟨h', s', hpath, hlength, harms'⟩ := harms.reach is
  refine ⟨h', s', hpath, hlength ▸ htwo, (harms'.hasBox_iff "yes").mpr ?_⟩
  rw [hfilled]
  rfl

theorem box_takeable_first :
    ∃ h' s', Path mainLoop initialState h' s' ∧ h'.length ≤ 2 ∧ HasBox "yes" s' :=
  box_takeable (h := []) .nil rfl

/-- A box that is held can be given back in some way or other if and only if it is being
    given back (the release is the last motion of all), or the last response was not to
    give a box back. -/
theorem box_returnable_iff (hrun : ErgoCubBehavior.Run h s) (hyes : HasBox "yes" s) :
    (∃ h' s', Path mainLoop s h' s' ∧ HasBox "no" s') ↔
      (sent h).getLast? = some .release ∨ lastResponse (sent h) ≠ some .release := by
  obtain ⟨p, hprotocol, hphase⟩ := hrun.protocol
  have hlast := last_run hprotocol
  rw [commands_observe] at hlast
  have harms := hrun.inArms
  generalize arms.after arms.start (h.map TickRecord.stimulus) = a at harms
  have hheld : a.phase.hasBox = "yes" := (harms.hasBox_iff "yes").mp hyes
  have hp : p.hasBox = "yes" := by
    rw [HasBox, hphase.hasBox] at hyes
    exact Option.some.inj hyes
  have hfree : ¬ a.Trapped ↔
      (sent h).getLast? = some .release ∨ lastResponse (sent h) ≠ some .release := by
    rw [harms.trapped_iff hyes, not_and_or, Bool.not_eq_false, hphase.wasReleasing,
      decide_eq_true_iff, hlast.releasing_iff hp, hrun.remembers.release_iff]
  rw [← hfree, ← Arms.empties_iff hheld]
  constructor
  · rintro ⟨h', s', hpath, hno⟩
    obtain ⟨-, harms'⟩ := tree_implements.path hpath harms
    exact ⟨_, (harms'.hasBox_iff "no").mp hno⟩
  · rintro ⟨is, hno⟩
    obtain ⟨h', s', hpath, -, harms'⟩ := harms.reach is
    exact ⟨h', s', hpath, (harms'.hasBox_iff "no").mpr hno⟩

/-- The first box can be given back. -/
theorem box_returnable_first :
    ∃ h' s', Path mainLoop (reached (List.replicate 2 Env.alone.object)) h' s' ∧
      HasBox "no" s' :=
  (box_returnable_iff (run_history _) (by rw [HasBox]; decide)).mpr (Or.inr (by decide +kernel))

/-- From every state of a run the robot can be led to hold a box that it will keep whatever
    happens, and after which its arms are never commanded again. -/
theorem trap_reachable (hrun : ErgoCubBehavior.Run h s) :
    ∃ h₁ s₁, Path mainLoop s h₁ s₁ ∧ HasBox "yes" s₁ ∧
      ∀ h₂ s₂, Path mainLoop s₁ h₂ s₂ → HasBox "yes" s₂ ∧ ∀ t ∈ h₂, motions t.trace = [] := by
  have harms := hrun.inArms
  generalize arms.after arms.start (h.map TickRecord.stimulus) = a at harms
  obtain ⟨is, htrapped⟩ := Arms.traps a
  obtain ⟨h₁, s₁, hpath, -, harms'⟩ := harms.reach is
  exact ⟨h₁, s₁, hpath, (harms'.hasBox_iff "yes").mpr htrapped.hasBox,
    fun h₂ s₂ hpath' => harms'.trapped htrapped hpath'⟩

theorem trap_reachable_first :
    ∃ h₁ s₁, Path mainLoop initialState h₁ s₁ ∧ HasBox "yes" s₁ ∧
      ∀ h₂ s₂, Path mainLoop s₁ h₂ s₂ → HasBox "yes" s₂ ∧ ∀ t ∈ h₂, motions t.trace = [] :=
  trap_reachable (h := []) .nil

end ErgoCubBehavior
