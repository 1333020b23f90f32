/-
  ErgoCubBehavior.Protocol.Arms

  What the arms do, as a function of what the robot sees.  The machine of
  `Protocol.Phase` leaves open which of its steps a tick takes; this one takes the
  phase and the last response, reads a `Stimulus`, and says which motions are
  commanded.

  The results of this module are about the machine alone:

  * `Arms.after_mem_states` — the machine has thirty states;
  * `Arms.commands_le`  — five motions at most for every change of the stimulus;
  * `Arms.fills`, `Arms.empties_iff` — the hands can always be filled, and emptied
    unless the box is trapped;
  * `Arms.trapped`, `Arms.traps` — a trapped box stays where it is, and from every
    state the robot can be led to trap one.
-/

import ErgoCubBehavior.Lib.Mealy
import ErgoCubBehavior.Protocol.Refinement

namespace ErgoCubBehavior

open Mealy

-- ============================================================================
-- The machine
-- ============================================================================

/-- What a tick sees, as far as the arms are concerned. -/
structure Stimulus where
  /-- the robot is on its way -/
  travelling : Bool
  /-- an object is in sight and in reach -/
  offered : Bool
  /-- the last motion is finished -/
  finished : Bool
  /-- what the human does -/
  action : String
  /-- the human looks at the robot -/
  looking : Bool
deriving DecidableEq, Repr

/-- Where the arms are, and the last response that was commanded. -/
structure Arms where
  phase : Phase
  last : String
deriving DecidableEq, Repr

namespace Arms

/-- What is answered with free hands: a gesture for a gesture, once, and otherwise the way
    back to `home`. -/
def reply (last : String) (i : Stimulus) : Option String :=
  if i.action ∈ ["wave", "shake", "t_pose"] then
    if last ≠ i.action ∧ i.looking then some i.action else none
  else if last ≠ "home" then some "home" else none

/-- The box is asked for, and was not asked for last. -/
def asks (last : String) (i : Stimulus) : Bool :=
  i.action = "release" && i.looking && last ≠ "release"

/-- Whatever is under way is given up, and nobody is answered. -/
def rest (a : Arms) : Arms × List Motion :=
  ({ a with phase := a.phase.halted }, a.phase.abort)

/-- Whatever is under way is given up, and the human is answered. -/
def answer (a : Arms) (i : Stimulus) : Arms × List Motion :=
  match a.phase with
  | .free | .approaching =>
      match reply a.last i with
      | some name => (⟨.free, name⟩, a.phase.abort ++ [.response name])
      | none => (⟨.free, a.last⟩, a.phase.abort)
  | .grasped | .holding =>
      if asks a.last i then (⟨.releasing, "release"⟩, [.release]) else (⟨.holding, a.last⟩, [])
  | .releasing => (⟨.free, a.last⟩, [])

/-- An object is taken that free hands can take. -/
def take (a : Arms) (i : Stimulus) : Arms × List Motion :=
  if a.phase = .approaching then
    if i.finished then ({ a with phase := .grasped }, [.bottomGrasp]) else (a, [])
  else ({ a with phase := .approaching }, [.ready])

def step (a : Arms) (i : Stimulus) : Arms × List Motion :=
  if i.travelling then a.rest
  else if i.offered ∧ a.phase.hasBox = "no" then a.take i
  else if i.finished then a.answer i
  else a.rest

end Arms

/-- Free hands that have answered nobody. -/
def arms : Machine Arms Stimulus (List Motion) where
  start := ⟨.free, ""⟩
  step := Arms.step

namespace Arms

variable {a : Arms} {i : Stimulus} {last : String}

-- ============================================================================
-- Its states
-- ============================================================================

def phases : List Phase := [.free, .approaching, .grasped, .holding, .releasing]

/-- What can be the last response. -/
def lastNames : List String := ["", "wave", "shake", "t_pose", "home", "release"]

/-- All states that the machine can come to. -/
def states : List Arms :=
  phases.flatMap fun phase => lastNames.map fun last => ⟨phase, last⟩

theorem mem_states : a ∈ states ↔ a.last ∈ lastNames := by
  obtain ⟨p, last⟩ := a
  have hp : p ∈ phases := by cases p <;> decide
  simp [states, hp]

theorem reply_mem {name : String} (hreply : reply last i = some name) : name ∈ lastNames := by
  unfold reply at hreply
  split_ifs at hreply with hgesture hwanted hhome
  · obtain rfl := Option.some.inj hreply
    exact List.mem_cons_of_mem _ (List.mem_append_left ["home", "release"] hgesture)
  · obtain rfl := Option.some.inj hreply
    decide

theorem answer_mem (ha : a ∈ states) : (a.answer i).1 ∈ states := by
  rw [mem_states] at ha ⊢
  unfold answer
  cases a.phase with
  | free | approaching =>
      cases hreply : reply a.last i with
      | none => exact ha
      | some name => exact reply_mem hreply
  | grasped | holding =>
      cases asks a.last i with
      | true =>
          show "release" ∈ lastNames
          decide
      | false => exact ha
  | releasing => exact ha

theorem step_mem (ha : a ∈ states) : (step a i).1 ∈ states := by
  have htake : (a.take i).1 ∈ states := by
    rw [mem_states] at ha ⊢
    unfold take
    split_ifs <;> exact ha
  have hrest : a.rest.1 ∈ states := by
    rw [mem_states] at ha ⊢
    exact ha
  unfold step
  split_ifs
  · exact hrest
  · exact htake
  · exact answer_mem ha
  · exact hrest

theorem after_mem_states (is : List Stimulus) : arms.after arms.start is ∈ states := by
  have hkeeps : arms.after arms.start is ∈ states ∧ ∀ o ∈ arms.outputs arms.start is, True :=
    Machine.keeps (A := arms) (fun _ _ ha => ⟨step_mem ha, trivial⟩) (by decide)
  exact hkeeps.1

-- ============================================================================
-- What a stimulus can make the robot do
-- ============================================================================

/-- What is answered once is not answered again. -/
theorem reply_reply {name : String} (hreply : reply last i = some name) : reply name i = none := by
  unfold reply at *
  split_ifs at * <;> simp_all

theorem asks_release : asks "release" i = false := by
  simp [asks]

/-- The motions that free hands can still command while the stimulus stays: for an object
    that stays in reach, one box is taken, given back, and taken again. -/
def freeBudget (i : Stimulus) (last : String) : Nat :=
  if i.offered then if i.finished then if asks last i then 5 else 2 else 1
  else if i.finished ∧ (reply last i).isSome then 1 else 0

/-- The motions that can still be commanded while the stimulus stays. -/
def budget (i : Stimulus) (a : Arms) : Nat :=
  if i.travelling then a.phase.abort.length
  else match a.phase with
    | .free => freeBudget i a.last
    | .approaching => if i.offered then freeBudget i a.last - 1 else freeBudget i a.last + 1
    | .grasped | .holding =>
        if i.finished ∧ asks a.last i then 1 + freeBudget i "release" else 0
    | .releasing => if i.finished then freeBudget i a.last else 0

theorem freeBudget_le : freeBudget i last ≤ 5 := by
  unfold freeBudget
  split_ifs <;> omega

/-- A box that was given back is taken once more, and then kept. -/
theorem freeBudget_release : freeBudget i "release" ≤ 2 := by
  unfold freeBudget
  rw [asks_release]
  split_ifs <;> simp_all

theorem freeBudget_closed (hclosed : i.offered = false) : freeBudget i last ≤ 1 := by
  unfold freeBudget
  rw [hclosed]
  split_ifs <;> simp_all

theorem budget_travelling (htravel : i.travelling = true) : budget i a = a.phase.abort.length := by
  rw [budget, if_pos htravel]

theorem abort_halted (p : Phase) : p.halted.abort = [] := by
  cases p <;> rfl

theorem abort_length_le (p : Phase) : p.abort.length ≤ 1 := by
  cases p <;> simp [Phase.abort]

section Budget

variable (hstay : i.travelling = false)
include hstay

theorem budget_free : budget i ⟨.free, last⟩ = freeBudget i last := by
  rw [budget, hstay, if_neg Bool.false_ne_true]

theorem budget_approaching_open (hoffered : i.offered = true) :
    budget i ⟨.approaching, last⟩ = freeBudget i last - 1 := by
  rw [budget, hstay, if_neg Bool.false_ne_true]
  exact if_pos hoffered

theorem budget_approaching_closed (hoffered : i.offered = false) :
    budget i ⟨.approaching, last⟩ = freeBudget i last + 1 := by
  rw [budget, hstay, if_neg Bool.false_ne_true]
  simp [hoffered]

theorem budget_held {p : Phase} (hp : p = .grasped ∨ p = .holding) :
    budget i ⟨p, last⟩ = if i.finished ∧ asks last i then 1 + freeBudget i "release" else 0 := by
  rw [budget, hstay, if_neg Bool.false_ne_true]
  rcases hp with rfl | rfl <;> rfl

theorem budget_releasing :
    budget i ⟨.releasing, last⟩ = if i.finished then freeBudget i last else 0 := by
  rw [budget, hstay, if_neg Bool.false_ne_true]

end Budget

/-- The whole budget is that of a first box that will be asked for. -/
theorem budget_le : budget i a ≤ 5 := by
  obtain ⟨p, last⟩ := a
  have hfree : freeBudget i last ≤ 5 := freeBudget_le
  have hrelease : freeBudget i "release" ≤ 2 := freeBudget_release
  cases htravel : i.travelling with
  | true =>
      rw [budget_travelling htravel]
      exact Nat.le_trans (abort_length_le p) (by omega)
  | false =>
      cases p with
      | free =>
          rw [budget_free htravel]
          omega
      | approaching =>
          cases hoffered : i.offered with
          | true =>
              rw [budget_approaching_open htravel hoffered]
              omega
          | false =>
              have hclosed : freeBudget i last ≤ 1 := freeBudget_closed hoffered
              rw [budget_approaching_closed htravel hoffered]
              omega
      | grasped =>
          rw [budget_held htravel (Or.inl rfl)]
          split_ifs <;> omega
      | holding =>
          rw [budget_held htravel (Or.inr rfl)]
          split_ifs <;> omega
      | releasing =>
          rw [budget_releasing htravel]
          split_ifs <;> omega

/-- Free hands leave an object alone only if there is none. -/
theorem closed_of_free (hclosed : ¬ (i.offered ∧ a.phase.hasBox = "no"))
    (hno : a.phase.hasBox = "no") : i.offered = false := by
  simpa [hno] using hclosed

section Pays

variable (hstay : i.travelling = false)
include hstay

theorem pays_take (hoffered : i.offered = true) (hno : a.phase.hasBox = "no") :
    (a.take i).2.length + budget i (a.take i).1 ≤ budget i a := by
  obtain ⟨p, last⟩ := a
  cases p with
  | free =>
      have htake : take ⟨.free, last⟩ i = (⟨.approaching, last⟩, [.ready]) := rfl
      have hone : 1 ≤ freeBudget i last := by
        rw [freeBudget, if_pos hoffered]
        split_ifs <;> omega
      rw [htake, budget_approaching_open hstay hoffered, budget_free hstay, List.length_singleton]
      omega
  | approaching =>
      rw [take, if_pos rfl]
      split_ifs with hfin
      · rw [budget_held hstay (Or.inl rfl), budget_approaching_open hstay hoffered, freeBudget,
          freeBudget, asks_release]
        simp only [hoffered, hfin, List.length_singleton, if_true]
        split_ifs <;> simp_all
      · exact Nat.le_of_eq (Nat.zero_add _)
  | _ => simp [Phase.hasBox] at hno

/-- Nobody is answered twice. -/
theorem pays_reply (hoffered : i.offered = false) (hfin : i.finished = true) :
    (answer ⟨.free, last⟩ i).2.length + budget i (answer ⟨.free, last⟩ i).1 ≤
      freeBudget i last := by
  cases hreply : reply last i with
  | none =>
      have hanswer : answer ⟨.free, last⟩ i = (⟨.free, last⟩, []) := by
        simp [answer, hreply, Phase.abort]
      rw [hanswer, budget_free hstay]
      exact Nat.le_of_eq (Nat.zero_add _)
  | some name =>
      have hanswer : answer ⟨.free, last⟩ i = (⟨.free, name⟩, [.response name]) := by
        simp [answer, hreply, Phase.abort]
      rw [hanswer, budget_free hstay, freeBudget, freeBudget, reply_reply hreply, hreply]
      simp [hoffered, hfin]

theorem pays_answer (hclosed : ¬ (i.offered ∧ a.phase.hasBox = "no")) (hfin : i.finished = true) :
    (a.answer i).2.length + budget i (a.answer i).1 ≤ budget i a := by
  obtain ⟨p, last⟩ := a
  have hheld : ∀ p, p = .grasped ∨ p = .holding →
      (answer ⟨p, last⟩ i).2.length + budget i (answer ⟨p, last⟩ i).1 ≤ budget i ⟨p, last⟩ := by
    intro p hp
    have hanswer : answer ⟨p, last⟩ i = if asks last i then (⟨.releasing, "release"⟩, [.release])
        else (⟨.holding, last⟩, []) := by
      rcases hp with rfl | rfl <;> rfl
    rw [hanswer, budget_held hstay hp]
    cases hasks : asks last i with
    | true =>
        simp only [if_true, hfin, true_and]
        rw [budget_releasing hstay, if_pos hfin]
        exact Nat.le_refl _
    | false =>
        simp only [Bool.false_eq_true, if_false]
        rw [budget_held hstay (Or.inr rfl), hasks]
        simp
  cases p with
  | free =>
      rw [budget_free hstay]
      exact pays_reply hstay (closed_of_free hclosed rfl) hfin
  | approaching =>
      have hoffered : i.offered = false := closed_of_free hclosed rfl
      have hreply : (answer ⟨.free, last⟩ i).2.length + budget i (answer ⟨.free, last⟩ i).1 ≤
          freeBudget i last := pays_reply hstay hoffered hfin
      have hanswer : answer ⟨.approaching, last⟩ i =
          ((answer ⟨.free, last⟩ i).1, .abort :: (answer ⟨.free, last⟩ i).2) := by
        unfold answer
        cases reply last i <;> rfl
      rw [hanswer, budget_approaching_closed hstay hoffered, List.length_cons]
      show _ + budget i (answer ⟨.free, last⟩ i).1 ≤ _
      omega
  | grasped => exact hheld .grasped (Or.inl rfl)
  | holding => exact hheld .holding (Or.inr rfl)
  | releasing =>
      rw [budget_releasing hstay, if_pos hfin]
      show 0 + budget i ⟨.free, last⟩ ≤ _
      rw [budget_free hstay, Nat.zero_add]

theorem pays_rest (hclosed : ¬ (i.offered ∧ a.phase.hasBox = "no")) :
    a.rest.2.length + budget i a.rest.1 ≤ budget i a := by
  obtain ⟨p, last⟩ := a
  cases p with
  | free => exact Nat.le_of_eq (Nat.zero_add _)
  | approaching =>
      show 1 + budget i ⟨.free, last⟩ ≤ _
      rw [budget_free hstay, budget_approaching_closed hstay (closed_of_free hclosed rfl), Nat.add_comm]
  | grasped =>
      show 0 + budget i ⟨.holding, last⟩ ≤ _
      rw [budget_held hstay (Or.inl rfl), budget_held hstay (Or.inr rfl), Nat.zero_add]
  | holding => exact Nat.le_of_eq (Nat.zero_add _)
  | releasing => exact Nat.le_of_eq (Nat.zero_add _)

end Pays

/-- Every motion is paid for. -/
theorem pays : (step a i).2.length + budget i (step a i).1 ≤ budget i a := by
  unfold step
  split_ifs with htravel hopen hfin
  · rw [budget_travelling htravel, budget_travelling htravel]
    show a.phase.abort.length + a.phase.halted.abort.length ≤ _
    rw [abort_halted]
    exact Nat.le_refl _
  · exact pays_take (by simpa using htravel) hopen.1 hopen.2
  · exact pays_answer (by simpa using htravel) hopen hfin
  · exact pays_rest (by simpa using htravel) hopen

/-- Five motions at most for every change of the stimulus, and for the first. -/
theorem commands_le (a : Arms) (is : List Stimulus) :
    ((arms.outputs a is).map List.length).sum ≤ 5 * (changes is + 1) :=
  Machine.cost_le (A := arms) (fun _ _ => pays) (fun _ _ => budget_le) a is

/-- A box stays in reach while a human asks for it. -/
example : ((arms.outputs arms.start (List.replicate 9
    ⟨false, true, true, "release", true⟩)).map List.length).sum = 5 := by
  decide

-- ============================================================================
-- Filling and emptying the hands
-- ============================================================================

/-- There is something to take. -/
def offer : Stimulus where
  travelling := false
  offered := true
  finished := true
  action := "none"
  looking := false

/-- A human who looks at the robot asks for the box. -/
def ask : Stimulus where
  travelling := false
  offered := false
  finished := true
  action := "release"
  looking := true

/-- Empty hands can be filled. -/
theorem fills (hno : a.phase.hasBox = "no") :
    ∃ is, is.length ≤ 2 ∧ arms.after a is = ⟨.grasped, a.last⟩ := by
  obtain ⟨p, last⟩ := a
  cases p with
  | free => exact ⟨[offer, offer], Nat.le_refl 2, rfl⟩
  | approaching => exact ⟨[offer], Nat.le_succ 1, rfl⟩
  | _ => simp [Phase.hasBox] at hno

/-- A box is held, and the last response was to give one back. -/
def Trapped (a : Arms) : Prop :=
  (a.phase = .grasped ∨ a.phase = .holding) ∧ a.last = "release"

theorem Trapped.hasBox (htrapped : a.Trapped) : a.phase.hasBox = "yes" := by
  rcases htrapped.1 with hp | hp <;> rw [hp] <;> rfl

/-- Nothing is asked of a box that is trapped. -/
theorem Trapped.step (htrapped : a.Trapped) (i : Stimulus) :
    (Arms.step a i).1.Trapped ∧ (Arms.step a i).2 = [] := by
  have hyes := htrapped.hasBox
  obtain ⟨p, last⟩ := a
  obtain ⟨hp, rfl⟩ := htrapped
  have hrest : (rest ⟨p, "release"⟩).1.Trapped ∧ (rest ⟨p, "release"⟩).2 = [] := by
    rcases hp with rfl | rfl <;> exact ⟨⟨Or.inr rfl, rfl⟩, rfl⟩
  have hanswer : answer ⟨p, "release"⟩ i = (⟨.holding, "release"⟩, []) := by
    rcases hp with rfl | rfl <;> simp [answer, asks_release]
  unfold Arms.step
  split_ifs with htravel hopen hfin
  · exact hrest
  · rw [hyes] at hopen
    exact absurd hopen.2 (by decide)
  · rw [hanswer]
    exact ⟨⟨Or.inr rfl, rfl⟩, rfl⟩
  · exact hrest

theorem trapped (htrapped : a.Trapped) (is : List Stimulus) :
    (arms.after a is).Trapped ∧ ∀ o ∈ arms.outputs a is, o = [] :=
  Machine.keeps (A := arms) (fun _ i h => h.step i) htrapped

/-- Full hands are trapped, or can be emptied; what was given back last is remembered. -/
theorem gives (hyes : a.phase.hasBox = "yes") (hfree : ¬ a.Trapped) :
    ∃ is, (arms.after a is).phase = .free ∧
      (a.phase ≠ .releasing → (arms.after a is).last = "release") := by
  obtain ⟨p, last⟩ := a
  have hheld : p = .grasped ∨ p = .holding →
      arms.after ⟨p, last⟩ [ask, ask] = ⟨.free, "release"⟩ := by
    intro hp
    have hlast : last ≠ "release" := fun hlast => hfree ⟨hp, hlast⟩
    have hstep : Arms.step ⟨p, last⟩ ask = (⟨.releasing, "release"⟩, [.release]) := by
      rcases hp with rfl | rfl <;> simp [Arms.step, answer, asks, ask, hlast]
    rw [Machine.after_cons]
    show arms.after (Arms.step ⟨p, last⟩ ask).1 [ask] = _
    rw [hstep]
    rfl
  cases p with
  | grasped =>
      exact ⟨[ask, ask], by rw [hheld (Or.inl rfl)], fun _ => by rw [hheld (Or.inl rfl)]⟩
  | holding =>
      exact ⟨[ask, ask], by rw [hheld (Or.inr rfl)], fun _ => by rw [hheld (Or.inr rfl)]⟩
  | releasing => exact ⟨[ask], rfl, fun hne => absurd rfl hne⟩
  | _ => simp [Phase.hasBox] at hyes

theorem empties_iff (hyes : a.phase.hasBox = "yes") :
    (∃ is, (arms.after a is).phase.hasBox = "no") ↔ ¬ a.Trapped := by
  constructor
  · rintro ⟨is, hno⟩ htrapped
    rw [(trapped htrapped is).1.hasBox] at hno
    exact absurd hno (by decide)
  · intro hfree
    obtain ⟨is, hafter, -⟩ := gives hyes hfree
    exact ⟨is, by rw [hafter]; rfl⟩

/-- A box is given back, and the next one is trapped. -/
theorem traps (a : Arms) : ∃ is, (arms.after a is).Trapped := by
  -- with a box that can be asked for in the hands, three more steps are enough
  have hheld : ∀ last, ∃ is, (arms.after ⟨.grasped, last⟩ is).Trapped := by
    intro last
    by_cases hlast : last = "release"
    · exact ⟨[], Or.inl rfl, hlast⟩
    · obtain ⟨is, hafter, hrelease⟩ := gives (a := ⟨.grasped, last⟩) rfl fun h => hlast h.2
      obtain ⟨js, -, hfilled⟩ := fills (a := arms.after ⟨.grasped, last⟩ is) (by rw [hafter]; rfl)
      refine ⟨is ++ js, ?_⟩
      rw [Machine.after_append, hfilled]
      exact ⟨Or.inl rfl, hrelease (by simp)⟩
  have hempty : ∀ b : Arms, b.phase.hasBox = "no" → ∃ is, (arms.after b is).Trapped := by
    intro b hno
    obtain ⟨is, -, hfilled⟩ := fills hno
    obtain ⟨js, htrapped⟩ := hheld b.last
    exact ⟨is ++ js, by rw [Machine.after_append, hfilled]; exact htrapped⟩
  by_cases htrapped : a.Trapped
  · exact ⟨[], htrapped⟩
  · by_cases hyes : a.phase.hasBox = "yes"
    · obtain ⟨is, hafter, -⟩ := gives hyes htrapped
      obtain ⟨js, htrapped'⟩ := hempty (arms.after a is) (by rw [hafter]; rfl)
      exact ⟨is ++ js, by rw [Machine.after_append]; exact htrapped'⟩
    · refine hempty a ?_
      obtain ⟨p, last⟩ := a
      cases p <;> simp_all [Phase.hasBox]

end Arms

end ErgoCubBehavior
