/-
  ErgoCubBehavior.Properties.Liveness

  What a robot that is never stopped comes to, from the machine of `Protocol.Arms` on
  endless streams.

  * `offer_taken`     — an object that stays on offer is grasped;
  * `box_given_back`  — a box that is asked for again and again is given back, unless one
    has been kept;
  * `second_box_kept` — where free hands are always offered something, one is;
  * `human_answered`  — a human who goes on doing the same is answered.
-/

import ErgoCubBehavior.Properties.Arms
import ErgoCubBehavior.Protocol.Progress

namespace ErgoCubBehavior

open BehaviorTree Filter Transition Mealy Liveness

-- ============================================================================
-- Endless runs of the tree
-- ============================================================================

/-- What the ticks of an endless run see. -/
def stimuli (r : EndlessRun mainLoop) (n : Nat) : Stimulus :=
  (r.record n).stimulus

theorem inArms_stateAt (r : EndlessRun mainLoop) (n : Nat) :
    InArms (stateAt arms (stimuli r) n) (r.state n) :=
  (endless_implements tree_implements r n).1

theorem motions_outputAt (r : EndlessRun mainLoop) (n : Nat) :
    motions (r.record n).trace = outputAt arms (stimuli r) n :=
  (endless_implements tree_implements r n).2

/-- The endless run in which a stream of stimuli is seen, with every service at work. -/
def Stimulus.endless (i : Nat → Stimulus) : EndlessRun mainLoop :=
  .iterate (fun s => ∃ a, InArms a s)
    (fun n s => (tickRoot (i n).answers s, (tickRoot (i n).answers s).after))
    ⟨arms.start, inArms_initialState⟩
    (by
      rintro n s ⟨a, harms⟩
      obtain ⟨status, hr⟩ := harms.phase.returns (i n)
      exact ⟨⟨⟨_, rfl⟩, ⟨status, hr⟩, rfl⟩, _, (harms.tick hr).2⟩)

theorem stimuli_endless (i : Nat → Stimulus) (n : Nat) : stimuli (Stimulus.endless i) n = i n := by
  show (tickRoot (i n).answers _).env.stimulus = i n
  rw [tickRoot_env, stimulus_answers]

-- ============================================================================
-- Boxes
-- ============================================================================

/-- A box that is held while the last response was to give one back. -/
def Kept (s : State) : Prop :=
  HasBox "yes" s ∧ s.memory.doResponseAction.wasReleasing = false ∧
    s.memory.doResponseAction.lastSentCommand = "release"

section Reached

variable {a : Arms} {s : State} (harms : InArms a s)
include harms

theorem InArms.kept_iff : Kept s ↔ a.Trapped := by
  constructor
  · rintro ⟨hyes, hkept⟩
    exact (harms.trapped_iff hyes).mpr hkept
  · intro htrapped
    have hyes : HasBox "yes" s := (harms.hasBox_iff "yes").mpr htrapped.hasBox
    exact ⟨hyes, (harms.trapped_iff hyes).mp htrapped⟩

/-- Hands that hold nothing, or are putting it down. -/
theorem InArms.not_held (hfree : HasBox "no" s ∨ s.memory.doResponseAction.wasReleasing = true) :
    ¬ (a.phase = .grasped ∨ a.phase = .holding) := by
  rw [harms.hasBox_iff, harms.phase.wasReleasing, decide_eq_true_iff] at hfree
  cases hp : a.phase <;> simp_all [Phase.hasBox]

end Reached

variable (r : EndlessRun mainLoop)

/-- If there is an object in sight and in reach whenever the hands are empty, and the
    motions of the robot come to an end, then hands that are empty or about to be grasp
    one. -/
theorem offer_taken {n : Nat}
    (hfree : HasBox "no" (r.state n) ∨
      (r.state n).memory.doResponseAction.wasReleasing = true)
    (hoffers : ∀ k, n ≤ k → HasBox "no" (r.state k) → (stimuli r k).offers)
    (hsettled : ∃ᶠ k in atTop, (stimuli r k).settled) :
    ∃ m, n ≤ m ∧ motions (r.record m).trace = [.bottomGrasp] ∧ HasBox "yes" (r.state (m + 1)) := by
  have hp := (inArms_stateAt r n).not_held hfree
  have hoffers' : ∀ k, n ≤ k → (stateAt arms (stimuli r) k).phase.hasBox = "no" →
      (stimuli r k).offers := fun k hk hno =>
    hoffers k hk (((inArms_stateAt r k).hasBox_iff "no").mpr hno)
  generalize ha : stateAt arms (stimuli r) n = a at hp
  obtain ⟨p, last⟩ := a
  obtain ⟨m, hle, -, hm⟩ := Arms.taken hoffers' hsettled hp n ⟨Nat.le_refl n, ha⟩
  obtain rfl | hlt := Nat.eq_or_lt_of_le hle
  · rw [hm] at ha
    cases ha
    exact absurd (Or.inl rfl) hp
  · obtain ⟨k, rfl⟩ : ∃ k, m = k + 1 := ⟨m - 1, by omega⟩
    refine ⟨k, Nat.le_of_lt_succ hlt, ?_, ?_⟩
    · rw [motions_outputAt]
      exact Arms.step_grasped (congrArg Arms.phase hm)
    · rw [(inArms_stateAt r (k + 1)).hasBox_iff, hm]
      rfl

theorem offer_taken_constant :
    ∃ m, 0 ≤ m ∧ motions ((Stimulus.endless fun _ => Arms.offer).record m).trace =
        [.bottomGrasp] ∧
      HasBox "yes" ((Stimulus.endless fun _ => Arms.offer).state (m + 1)) := by
  refine offer_taken _ (n := 0) (Or.inl rfl) ?_ ?_
  · intro k _ _
    rw [stimuli_endless]
    exact ⟨rfl, rfl⟩
  · refine (Eventually.of_forall fun k => ?_).frequently
    rw [stimuli_endless]
    exact ⟨rfl, rfl⟩

section Requested

variable (hrequests : ∃ᶠ k in atTop, (stimuli r k).requests)
include hrequests

/-- If a human who looks at the robot asks for the box again and again, with the robot
    standing still and its last motion finished, then its hands are empty again and again
    if and only if it never keeps a box. -/
theorem box_given_back :
    (∃ᶠ k in atTop, HasBox "no" (r.state k)) ↔ ∀ k, ¬ Kept (r.state k) := by
  have hempty : ∀ k, HasBox "no" (r.state k) ↔
      (stateAt arms (stimuli r) k).phase.hasBox = "no" := fun k =>
    (inArms_stateAt r k).hasBox_iff "no"
  have hkept : ∀ k, Kept (r.state k) ↔ (stateAt arms (stimuli r) k).Trapped := fun k =>
    (inArms_stateAt r k).kept_iff
  simp only [hempty, hkept]
  exact Arms.emptied_iff_never_trapped hrequests

/-- If there is also an object in sight and in reach whenever the hands are empty, then the
    robot ends with a box that it keeps, and with arms that are never commanded again. -/
theorem second_box_kept
    (hoffers : ∀ᶠ k in atTop, HasBox "no" (r.state k) → (stimuli r k).offers) :
    ∀ᶠ k in atTop, HasBox "yes" (r.state k) ∧ motions (r.record k).trace = [] := by
  obtain ⟨n₀, hn₀⟩ := eventually_atTop.mp hoffers
  have hoffers' : ∀ k, n₀ ≤ k → (stateAt arms (stimuli r) k).phase.hasBox = "no" →
      (stimuli r k).offers := fun k hk hno =>
    hn₀ k hk (((inArms_stateAt r k).hasBox_iff "no").mpr hno)
  obtain ⟨n, -, hn⟩ := Arms.ends_trapped hoffers' hrequests
  refine eventually_atTop.mpr ⟨n, fun k hk => ?_⟩
  have htrapped : (stateAt arms (stimuli r) k).Trapped :=
    lasts (P := fun k => (stateAt arms (stimuli r) k).Trapped)
      (fun k _ h => (h.step (stimuli r k)).1) hn hk
  refine ⟨((inArms_stateAt r k).hasBox_iff "yes").mpr htrapped.hasBox, ?_⟩
  rw [motions_outputAt]
  exact (htrapped.step (stimuli r k)).2

end Requested

/-- An object is offered, and a human asks for it. -/
def Arms.offerAndAsk : Stimulus :=
  { Arms.ask with offered := true }

theorem requests_offerAndAsk :
    ∃ᶠ k in atTop, (stimuli (Stimulus.endless fun _ => Arms.offerAndAsk) k).requests := by
  refine (Eventually.of_forall fun k => ?_).frequently
  rw [stimuli_endless]
  exact ⟨⟨rfl, rfl⟩, rfl, rfl⟩

theorem box_given_back_constant :
    (∃ᶠ k in atTop, HasBox "no" ((Stimulus.endless fun _ => Arms.offerAndAsk).state k)) ↔
      ∀ k, ¬ Kept ((Stimulus.endless fun _ => Arms.offerAndAsk).state k) :=
  box_given_back _ requests_offerAndAsk

theorem second_box_kept_constant :
    ∀ᶠ k in atTop, HasBox "yes" ((Stimulus.endless fun _ => Arms.offerAndAsk).state k) ∧
      motions ((Stimulus.endless fun _ => Arms.offerAndAsk).record k).trace = [] := by
  refine second_box_kept _ requests_offerAndAsk (Eventually.of_forall fun k _ => ?_)
  rw [stimuli_endless]
  exact ⟨rfl, rfl⟩

-- ============================================================================
-- Humans
-- ============================================================================

/-- What is replied in the end. -/
theorem Arms.reply_getD (last : String) (i : Stimulus) :
    (Arms.reply last i).getD last =
      if i.action ∈ ["wave", "shake", "t_pose"] then if i.looking then i.action else last
      else "home" := by
  unfold Arms.reply
  split_ifs <;> simp_all

/-- If a robot with empty hands stands still, has nothing in reach, and sees a human who
    goes on doing the same, and its motions come to an end, then its last response is the
    gesture of a human who looks at it, the one it was if they do not look, and the way
    `home` for anything but a gesture; and its arms rest. -/
theorem human_answered {n : Nat} {action : String} {looking : Bool}
    (hno : HasBox "no" (r.state n))
    (hstay : ∀ k, n ≤ k → (stimuli r k).travelling = false ∧ (stimuli r k).offered = false ∧
      (stimuli r k).action = action ∧ (stimuli r k).looking = looking)
    (hfin : ∃ᶠ k in atTop, (stimuli r k).finished = true) :
    ∀ᶠ k in atTop, motions (r.record k).trace = [] ∧ HasBox "no" (r.state k) ∧
      (r.state k).memory.doResponseAction.lastSentCommand =
        if action ∈ ["wave", "shake", "t_pose"] then
          if looking then action else (r.state n).memory.doResponseAction.lastSentCommand
        else "home" := by
  have harms := inArms_stateAt r n
  obtain ⟨-, -, haction, hlooking⟩ := hstay n (Nat.le_refl n)
  have hstay' : ∀ k, n ≤ k → (stimuli r k).travelling = false ∧
      (stimuli r k).offered = false ∧ (stimuli r k).action = (stimuli r n).action ∧
      (stimuli r k).looking = (stimuli r n).looking := by
    rw [haction, hlooking]
    exact hstay
  obtain ⟨m, -, hm⟩ := Arms.replies hstay' hfin ((harms.hasBox_iff "no").mp hno) rfl
  refine eventually_atTop.mpr ⟨m, fun k hk => ?_⟩
  obtain ⟨hstate, hquiet⟩ := hm k hk
  have harms' := inArms_stateAt r k
  rw [hstate] at harms'
  refine ⟨(motions_outputAt r k).trans hquiet, (harms'.hasBox_iff "no").mpr rfl, ?_⟩
  rw [harms'.last, Arms.reply_getD, haction, hlooking, harms.last]

/-- Somebody who looks at the robot goes on waving. -/
def Arms.wave : Stimulus :=
  { Arms.ask with action := "wave" }

theorem human_answered_waving :
    ∀ᶠ k in atTop, motions ((Stimulus.endless fun _ => Arms.wave).record k).trace = [] ∧
      HasBox "no" ((Stimulus.endless fun _ => Arms.wave).state k) ∧
      ((Stimulus.endless fun _ => Arms.wave).state k).memory.doResponseAction.lastSentCommand =
        "wave" := by
  have hstay : ∀ k, 0 ≤ k → (stimuli (Stimulus.endless fun _ => Arms.wave) k).travelling = false ∧
      (stimuli (Stimulus.endless fun _ => Arms.wave) k).offered = false ∧
      (stimuli (Stimulus.endless fun _ => Arms.wave) k).action = "wave" ∧
      (stimuli (Stimulus.endless fun _ => Arms.wave) k).looking = true := by
    intro k _
    rw [stimuli_endless]
    exact ⟨rfl, rfl, rfl, rfl⟩
  have hfin : ∀ k, (stimuli (Stimulus.endless fun _ => Arms.wave) k).finished = true := by
    intro k
    rw [stimuli_endless]
    rfl
  have hanswered := human_answered (Stimulus.endless fun _ => Arms.wave) (n := 0) rfl hstay
    (Eventually.of_forall hfin).frequently
  rwa [if_pos (by decide), if_pos rfl] at hanswered

end ErgoCubBehavior
