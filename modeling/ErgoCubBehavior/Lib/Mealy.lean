/-
  ErgoCubBehavior.Lib.Mealy

  Deterministic machines: every input takes a machine from a state to a state and
  is answered with an output.

  * `Machine.after`, `Machine.outputs` — what a sequence of inputs leads to;
  * `Machine.keeps`     — the induction rule, for states and outputs;
  * `Machine.cost_le`   — where the cost of an output is paid out of a potential
    that only a change of the input can fill up, what a sequence of inputs costs;
  * `Implements`        — a transition system that does what a machine does, and
    takes every input that the machine takes.
-/

import ErgoCubBehavior.Lib.Transition
import Mathlib.Algebra.GroupWithZero.Nat

namespace Mealy

open Transition

/-- A start state, and the next state and the output for every input. -/
structure Machine (State Input Output : Type) where
  start : State
  step : State → Input → State × Output

variable {State Input Output : Type} (A : Machine State Input Output)

-- ============================================================================
-- Sequences of inputs
-- ============================================================================

namespace Machine

/-- The state after the inputs `is`. -/
def after (a : State) (is : List Input) : State :=
  is.foldl (fun a i => (A.step a i).1) a

/-- The outputs for the inputs `is`, one for each. -/
def outputs (a : State) : List Input → List Output
  | [] => []
  | i :: is => (A.step a i).2 :: outputs (A.step a i).1 is

variable (a : State) (i : Input) (is js : List Input)

@[simp] theorem after_nil : A.after a [] = a := rfl

@[simp] theorem after_cons : A.after a (i :: is) = A.after (A.step a i).1 is := rfl

@[simp] theorem after_append : A.after a (is ++ js) = A.after (A.after a is) js :=
  List.foldl_append

@[simp] theorem outputs_nil : A.outputs a [] = [] := rfl

@[simp] theorem outputs_cons :
    A.outputs a (i :: is) = (A.step a i).2 :: A.outputs (A.step a i).1 is := rfl

theorem outputs_append : A.outputs a (is ++ js) = A.outputs a is ++ A.outputs (A.after a is) js := by
  induction is generalizing a with
  | nil => rfl
  | cons i is ih => rw [List.cons_append, outputs_cons, outputs_cons, ih, List.cons_append, after_cons]

variable {A a is}

/-- What every input keeps, and what it shows meanwhile. -/
theorem keeps {Inv : State → Prop} {Shows : Output → Prop}
    (hstep : ∀ a i, Inv a → Inv (A.step a i).1 ∧ Shows (A.step a i).2) (ha : Inv a) :
    Inv (A.after a is) ∧ ∀ o ∈ A.outputs a is, Shows o := by
  induction is generalizing a with
  | nil => exact ⟨ha, by simp⟩
  | cons i is ih =>
      obtain ⟨hnext, hshows⟩ := hstep a i ha
      obtain ⟨hafter, hall⟩ := ih hnext
      exact ⟨hafter, by simpa using ⟨hshows, hall⟩⟩

end Machine

-- ============================================================================
-- What a sequence of inputs costs
-- ============================================================================

section Cost

variable [DecidableEq Input]

/-- How often the input changes. -/
def changes : List Input → Nat
  | i :: j :: is => (if i = j then 0 else 1) + changes (j :: is)
  | _ => 0

variable {A} {cost : Output → Nat} {potential : Input → State → Nat} {bound : Nat}
  (hpay : ∀ i a, cost (A.step a i).2 + potential i (A.step a i).1 ≤ potential i a)
  (hbound : ∀ i a, potential i a ≤ bound)
include hpay hbound

/-- The potential for the first input, and a full one for each change. -/
theorem Machine.cost_cons_le (a : State) (i : Input) (is : List Input) :
    ((A.outputs a (i :: is)).map cost).sum ≤ potential i a + bound * changes (i :: is) := by
  induction is generalizing a i with
  | nil =>
      have hi := hpay i a
      simp only [Machine.outputs_cons, Machine.outputs_nil, List.map_cons, List.map_nil,
        List.sum_cons, List.sum_nil]
      omega
  | cons j is ih =>
      have hi := hpay i a
      have hrest := ih (A.step a i).1 j
      rw [Machine.outputs_cons, List.map_cons, List.sum_cons, changes]
      by_cases hij : i = j
      · subst hij
        rw [if_pos rfl, Nat.zero_add]
        omega
      · have hj := hbound j (A.step a i).1
        rw [if_neg hij, Nat.mul_add, Nat.mul_one]
        omega

theorem Machine.cost_le (a : State) (is : List Input) :
    ((A.outputs a is).map cost).sum ≤ bound * (changes is + 1) := by
  cases is with
  | nil => exact Nat.zero_le _
  | cons i is =>
      have hcost := Machine.cost_cons_le hpay hbound a i is
      have hi := hbound i a
      rw [Nat.mul_add, Nat.mul_one]
      omega

end Cost

-- ============================================================================
-- Systems that do what a machine does
-- ============================================================================

section Implements

variable {Concrete Record : Type} {M : System Concrete Record} {A : Machine State Input Output}
  {input : Record → Input} {output : Record → Output} {Rel : Concrete → State → Prop}
  {s s' : Concrete} {h : List Record} {a : State}

/-- `M` does what `A` does: each of its steps is `A`'s answer to the input that the record
    shows, and there is a step for every input. -/
structure Implements (M : System Concrete Record) (A : Machine State Input Output)
    (input : Record → Input) (output : Record → Output) (Rel : Concrete → State → Prop) :
    Prop where
  start : Rel M.start A.start
  step : ∀ s r s' a, Rel s a → M.Step s r s' →
    output r = (A.step a (input r)).2 ∧ Rel s' (A.step a (input r)).1
  takes : ∀ s a i, Rel s a → ∃ r s', M.Step s r s' ∧ input r = i

theorem Implements.path (impl : Implements M A input output Rel) (hp : Path M s h s')
    (hs : Rel s a) :
    h.map output = A.outputs a (h.map input) ∧ Rel s' (A.after a (h.map input)) := by
  induction hp with
  | nil => exact ⟨rfl, hs⟩
  | snoc _ hr ih =>
      obtain ⟨houtputs, hrel⟩ := ih
      obtain ⟨houtput, hrel'⟩ := impl.step _ _ _ _ hrel hr
      rw [List.map_append, List.map_append, Machine.outputs_append, Machine.after_append]
      refine ⟨?_, hrel'⟩
      rw [houtputs, List.map_singleton, houtput]
      rfl

/-- Every sequence of inputs can come, from every state. -/
theorem Implements.realizes (impl : Implements M A input output Rel) (hs : Rel s a)
    (is : List Input) :
    ∃ h s', Path M s h s' ∧ h.map input = is ∧ Rel s' (A.after a is) := by
  induction is generalizing s a with
  | nil => exact ⟨[], s, .nil, rfl, hs⟩
  | cons i is ih =>
      obtain ⟨r, s₁, hr, rfl⟩ := impl.takes s a i hs
      obtain ⟨h, s', hp, rfl, hrel⟩ := ih (impl.step s r s₁ a hs hr).2
      exact ⟨r :: h, s', (Path.single hr).append hp, rfl, hrel⟩

/-- The histories of `M` are those of `A`. -/
theorem Implements.histories (impl : Implements M A input output Rel)
    (l : List (Input × Output)) :
    (∃ h s, Run M h s ∧ h.map (fun r => (input r, output r)) = l) ↔
      l.map Prod.snd = A.outputs A.start (l.map Prod.fst) := by
  constructor
  · rintro ⟨h, s, hrun, rfl⟩
    rw [List.map_map, List.map_map]
    exact (impl.path hrun impl.start).1
  · intro hl
    obtain ⟨h, s, hrun, hinputs, -⟩ := impl.realizes impl.start (l.map Prod.fst)
    have houtputs := (impl.path hrun impl.start).1
    rw [hinputs, ← hl] at houtputs
    exact ⟨h, s, hrun, by rw [← List.zip_map', ← List.zip_of_prod hinputs.symm houtputs.symm]⟩

end Implements

end Mealy
