/-
  ErgoCubBehavior.Lib.Liveness

  What runs without an end come to.

  * `LeadsTo P Q`          — whenever `P` holds, `Q` holds then or later;
  * `LeadsTo.of_fair`      — what lasts until it is helped along, and is helped along
    again and again, comes to its end;
  * `frequently_iff_never` — what happens again and again unless a trap is entered;
  * `EndlessRun M`         — a run of a transition system that goes on for ever;
  * `endless_implements`   — an endless run of a system that does what a machine does is,
    record by record, the machine on a stream of inputs.

  `P`, `Q` and the like are predicates of the time.
-/

import ErgoCubBehavior.Lib.Mealy
import Mathlib.Order.Filter.AtTopBot.Basic

namespace Liveness

open Filter Transition Mealy

-- ============================================================================
-- Predicates of the time
-- ============================================================================

section Time

variable {P Q R Helps Trap : Nat → Prop}

/-- Whenever `P` holds, `Q` holds then or later. -/
def LeadsTo (P Q : Nat → Prop) : Prop :=
  ∀ n, P n → ∃ m, n ≤ m ∧ Q m

theorem LeadsTo.trans (hP : LeadsTo P Q) (hQ : LeadsTo Q R) : LeadsTo P R := by
  intro n hn
  obtain ⟨m, hle, hQm⟩ := hP n hn
  exact (hQ m hQm).imp fun _ hR => hR.imp_left hle.trans

/-- What holds at once needs no time. -/
theorem LeadsTo.of_imp (h : ∀ n, P n → Q n) : LeadsTo P Q :=
  fun n hn => ⟨n, Nat.le_refl n, h n hn⟩

/-- What holds at the next time at the latest. -/
theorem LeadsTo.of_next (h : ∀ n, P n → Q (n + 1)) : LeadsTo P Q :=
  fun n hn => ⟨n + 1, Nat.le_succ n, h n hn⟩

/-- What is kept, from some time on, holds ever after. -/
theorem lasts {n m : Nat} (hkeep : ∀ k, n ≤ k → P k → P (k + 1)) (hn : P n) (hm : n ≤ m) : P m := by
  induction m, hm using Nat.le_induction with
  | base => exact hn
  | succ k hk ih => exact hkeep k hk ih

/-- What lasts until `Q`, and is brought to `Q` by what happens again and again. -/
theorem LeadsTo.of_fair (hkeep : ∀ n, P n → P (n + 1) ∨ Q (n + 1))
    (hhelp : ∀ n, P n → Helps n → Q (n + 1)) (hfair : ∃ᶠ n in atTop, Helps n) : LeadsTo P Q := by
  intro n hn
  obtain ⟨m, hnm, hm⟩ := frequently_atTop.mp hfair n
  have hwhile : P m ∨ ∃ k, n ≤ k ∧ Q k := by
    clear hm
    induction m, hnm using Nat.le_induction with
    | base => exact Or.inl hn
    | succ k hk ih =>
        rcases ih with hP | hQ
        · exact (hkeep k hP).imp_right fun hQ => ⟨k + 1, Nat.le_succ_of_le hk, hQ⟩
        · exact Or.inr hQ
  rcases hwhile with hP | hQ
  · exact ⟨m + 1, Nat.le_succ_of_le hnm, hhelp m hP hm⟩
  · exact hQ

/-- Where only a trap keeps from `Q`, `Q` holds again and again if and only if the trap is
    never entered. -/
theorem frequently_iff_never (htrap : ∀ n, Trap n → Trap (n + 1)) (hapart : ∀ n, Trap n → ¬ Q n)
    (hlead : LeadsTo (fun n => ¬ Q n ∧ ¬ Trap n) Q) : (∃ᶠ n in atTop, Q n) ↔ ∀ n, ¬ Trap n := by
  rw [frequently_atTop]
  constructor
  · intro hoften n hn
    obtain ⟨m, hnm, hm⟩ := hoften n
    exact hapart m (lasts (fun k _ => htrap k) hn hnm) hm
  · intro hnever n
    by_cases hn : Q n
    · exact ⟨n, Nat.le_refl n, hn⟩
    · exact hlead n ⟨hn, hnever n⟩

end Time

-- ============================================================================
-- Runs without an end
-- ============================================================================

variable {State Record : Type} {M : System State Record}

/-- A run of `M` that goes on for ever. -/
structure EndlessRun (M : System State Record) where
  state : Nat → State
  record : Nat → Record
  start : state 0 = M.start
  step : ∀ n, M.Step (state n) (record n) (state (n + 1))

/-- The endless run of a function that always finds a next step. -/
def EndlessRun.iterate (Inv : State → Prop) (next : Nat → State → Record × State)
    (hstart : Inv M.start)
    (hnext : ∀ n s, Inv s → M.Step s (next n s).1 (next n s).2 ∧ Inv (next n s).2) :
    EndlessRun M :=
  let state : Nat → State := fun n => n.rec M.start fun k s => (next k s).2
  have hinv : ∀ n, Inv (state n) := fun n => n.rec hstart fun k hk => (hnext k _ hk).2
  { state
    record := fun n => (next n (state n)).1
    start := rfl
    step := fun n => (hnext n _ (hinv n)).1 }

-- ============================================================================
-- Machines on streams
-- ============================================================================

variable {S Input Output : Type} {A : Machine S Input Output} {input : Record → Input}
  {output : Record → Output} {Rel : State → S → Prop}

/-- The state of a machine when it has read the first `n` inputs of a stream. -/
def stateAt (A : Machine S Input Output) (i : Nat → Input) : Nat → S
  | 0 => A.start
  | n + 1 => (A.step (stateAt A i n) (i n)).1

/-- What it answers to the next one. -/
def outputAt (A : Machine S Input Output) (i : Nat → Input) (n : Nat) : Output :=
  (A.step (stateAt A i n) (i n)).2

theorem endless_implements (impl : Implements M A input output Rel) (r : EndlessRun M) (n : Nat) :
    Rel (r.state n) (stateAt A (fun k => input (r.record k)) n) ∧
      output (r.record n) = outputAt A (fun k => input (r.record k)) n := by
  have hrel : Rel (r.state n) (stateAt A (fun k => input (r.record k)) n) := by
    induction n with
    | zero =>
        rw [r.start]
        exact impl.start
    | succ n ih => exact (impl.step _ _ _ _ ih (r.step n)).2
  exact ⟨hrel, (impl.step _ _ _ _ hrel (r.step n)).1⟩

end Liveness
