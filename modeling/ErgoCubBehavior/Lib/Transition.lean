/-
  ErgoCubBehavior.Lib.Transition

  Labeled transition systems and the histories of their runs.

  * `Path M s h s'` — from `s` the system can take the steps recorded in `h`,
    oldest first, and end in `s'`; `Run M h s` is a path from the start state.
  * `Path.preserves`, `Run.history` — the induction rules: a property of states
    kept by every step, and a relation between a history and the state it ends in;
  * `Run.since_entry` — a run that is in a region has entered it and stayed;
  * `Path.emits_once` — a path emits one thing at most, on its way into a region;
  * `Path.split`, `Run.split_at` — a history can be cut anywhere.
  * `Simulation` — a step of one system answered by a step of another whose
    label is computed from the record; `Simulation.path` lifts it to histories.
  * `Projection` — a step of one system answered by a path of another, with records
    that fit; `Projection.run` lifts it to runs.
  * `since p l` — the part of `l` after its last element satisfying `p`;
    `EachBetween p Q l` — what holds of the parts between two such elements.
-/

import Mathlib.Data.List.DropRight
import Mathlib.Data.List.Forall2
import Mathlib.Data.List.Induction

namespace Transition

/-- A start state and a step relation; a step leaves a record. -/
structure System (State Record : Type) where
  start : State
  Step : State → Record → State → Prop

variable {State Record : Type} {M : System State Record}
  {s s' s'' : State} {r : Record} {h h₁ h₂ : List Record}

-- ============================================================================
-- Paths and runs
-- ============================================================================

/-- The steps recorded in a history, oldest first, lead from one state to
    another. -/
inductive Path (M : System State Record) (s : State) : List Record → State → Prop where
  | nil : Path M s [] s
  | snoc {h : List Record} {s' s'' : State} {r : Record} :
      Path M s h s' → M.Step s' r s'' → Path M s (h ++ [r]) s''

/-- A path from the start state. -/
def Run (M : System State Record) (h : List Record) (s : State) : Prop :=
  Path M M.start h s

theorem Path.single (hr : M.Step s r s') : Path M s [r] s' :=
  Path.snoc (h := []) Path.nil hr

theorem Path.append (hp : Path M s h₁ s') (hq : Path M s' h₂ s'') :
    Path M s (h₁ ++ h₂) s'' := by
  induction hq with
  | nil => simpa using hp
  | snoc _ hr ih =>
      rw [← List.append_assoc]
      exact ih.snoc hr

theorem Path.nil_inv (hp : Path M s [] s') : s' = s := by
  generalize hl : ([] : List Record) = l at hp
  cases hp with
  | nil => rfl
  | snoc _ _ => simp at hl

/-- The last step of a nonempty path. -/
theorem Path.snoc_inv (hp : Path M s (h ++ [r]) s'') :
    ∃ s', Path M s h s' ∧ M.Step s' r s'' := by
  generalize hl : h ++ [r] = l at hp
  cases hp with
  | nil => simp at hl
  | @snoc k s' _ q hk hq =>
      obtain ⟨rfl, hrq⟩ := List.append_inj' hl rfl
      obtain rfl := List.singleton_inj.mp hrq
      exact ⟨s', hk, hq⟩

/-- A path can be cut after any prefix of its history. -/
theorem Path.split (hp : Path M s (h₁ ++ h₂) s'') :
    ∃ s', Path M s h₁ s' ∧ Path M s' h₂ s'' := by
  induction h₂ using List.reverseRecOn generalizing s'' with
  | nil => exact ⟨s'', by simpa using hp, Path.nil⟩
  | append_singleton k r ih =>
      rw [← List.append_assoc] at hp
      obtain ⟨m, hm, hr⟩ := hp.snoc_inv
      obtain ⟨s', h1, h2⟩ := ih hm
      exact ⟨s', h1, h2.snoc hr⟩

/-- A run cut at one of its records. -/
theorem Run.split_at (hrun : Run M (h₁ ++ r :: h₂) s'') :
    ∃ s s', Run M h₁ s ∧ M.Step s r s' ∧ Path M s' h₂ s'' := by
  rw [List.append_cons] at hrun
  obtain ⟨s', h1, h2⟩ := Path.split hrun
  obtain ⟨s, h0, hr⟩ := Path.snoc_inv h1
  exact ⟨s, s', h0, hr, h2⟩

-- ============================================================================
-- Induction rules
-- ============================================================================

/-- What the steps of a path keep, the path keeps. -/
theorem Path.preserves {Inv : State → Prop} (hp : Path M s h s')
    (hstep : ∀ s r s', r ∈ h → Inv s → M.Step s r s' → Inv s') (hs : Inv s) : Inv s' := by
  induction hp with
  | nil => exact hs
  | snoc _ hr ih =>
      refine hstep _ _ _ (by simp) (ih fun q x q' hx => hstep q x q' ?_) hr
      exact List.mem_append_left _ hx

/-- A relation between histories and states that holds at the start and is kept
    by every step of a run holds after every run. -/
@[elab_as_elim]
theorem Run.history {motive : List Record → State → Prop} (hrun : Run M h s)
    (hstart : motive [] M.start)
    (hstep : ∀ h s r s', Run M h s → motive h s → M.Step s r s' → motive (h ++ [r]) s') :
    motive h s := by
  induction hrun with
  | nil => exact hstart
  | snoc hp hr ih => exact hstep _ _ _ _ hp ih hr

/-- Where a region of the states is entered only by records that satisfy `Enter`
    and kept only by records that satisfy `Stay`, a run that ends in it has
    entered it and stayed since. -/
theorem Run.since_entry (In : State → Prop) {Enter Stay : Record → Prop}
    (hstart : ¬ In M.start)
    (hstep : ∀ s r s', M.Step s r s' → In s' → Enter r ∨ (In s ∧ Stay r))
    (hrun : Run M h s) (hs : In s) :
    ∃ h₁ r h₂, h = h₁ ++ r :: h₂ ∧ Enter r ∧ ∀ x ∈ h₂, Stay x := by
  induction hrun with
  | nil => exact absurd hs hstart
  | @snoc k s' s'' r _ hr ih =>
      rcases hstep s' r s'' hr hs with henter | ⟨hin, hstay⟩
      · exact ⟨k, r, [], rfl, henter, by simp⟩
      · obtain ⟨h₁, e, h₂, rfl, henter, hall⟩ := ih hin
        refine ⟨h₁, e, h₂ ++ [r], by simp, henter, ?_⟩
        intro x hx
        rcases List.mem_append.mp hx with hx | hx
        · exact hall x hx
        · rw [List.mem_singleton.mp hx]
          exact hstay

/-- Where a step emits at most one thing, and only on its way into a region that is
    quiet and never left, a path emits at most one thing. -/
theorem Path.emits_once {β : Type} {emit : Record → List β} (Settled : State → Prop)
    (hp : Path M s h s')
    (hstep : ∀ s r s', r ∈ h → M.Step s r s' →
      (emit r = [] ∧ (Settled s → Settled s')) ∨
      (¬ Settled s ∧ (emit r).length ≤ 1 ∧ Settled s')) :
    (h.flatMap emit).length ≤ 1 := by
  have hall : h.flatMap emit = [] ∨ ((h.flatMap emit).length ≤ 1 ∧ Settled s') := by
    induction hp with
    | nil => exact Or.inl rfl
    | snoc _ hr ih =>
        have hprev := ih fun q x q' hx => hstep q x q' (List.mem_append_left _ hx)
        rw [List.flatMap_append, List.flatMap_singleton]
        rcases hstep _ _ _ (by simp) hr with ⟨hnone, hkeep⟩ | ⟨hfresh, hone, hsettled⟩
        · rw [hnone, List.append_nil]
          exact hprev.imp_right fun ⟨hlength, hs⟩ => ⟨hlength, hkeep hs⟩
        · rcases hprev with hempty | ⟨-, hs⟩
          · rw [hempty]
            exact Or.inr ⟨hone, hsettled⟩
          · exact absurd hs hfresh
  rcases hall with hnone | ⟨hone, -⟩
  · rw [hnone]
    exact Nat.zero_le 1
  · exact hone

-- ============================================================================
-- Simulation
-- ============================================================================

section Simulation

variable {Abs Label : Type} {A : System Abs Label} {a : Abs}

/-- `A` answers every step of `M` from related states by a step whose label is
    `label` of the record. -/
structure Simulation (M : System State Record) (A : System Abs Label)
    (label : Record → Label) (Rel : State → Abs → Prop) : Prop where
  start : Rel M.start A.start
  step : ∀ s r s' a, Rel s a → M.Step s r s' →
    ∃ a', A.Step a (label r) a' ∧ Rel s' a'

theorem Simulation.path {label : Record → Label} {Rel : State → Abs → Prop}
    (sim : Simulation M A label Rel) (hp : Path M s h s') (hs : Rel s a) :
    ∃ a', Path A a (h.map label) a' ∧ Rel s' a' := by
  induction hp with
  | nil => exact ⟨a, Path.nil, hs⟩
  | snoc _ hr ih =>
      obtain ⟨b, hb, hrel⟩ := ih
      obtain ⟨a', hstep, hrel'⟩ := sim.step _ _ _ _ hrel hr
      refine ⟨a', ?_, hrel'⟩
      rw [List.map_append, List.map_singleton]
      exact hb.snoc hstep

/-- Every run of the concrete system is, label by label, a run of the abstract
    one. -/
theorem Simulation.run {label : Record → Label} {Rel : State → Abs → Prop}
    (sim : Simulation M A label Rel) (hrun : Run M h s) :
    ∃ a, Run A (h.map label) a ∧ Rel s a :=
  sim.path hrun sim.start

/-- `A` is a part of `M`: a step of `M` contains any number of steps of `A`, and `Shows`
    says which. -/
structure Projection (M : System State Record) (A : System Abs Label)
    (Shows : Record → List Label → Prop) (Rel : State → Abs → Prop) : Prop where
  start : Rel M.start A.start
  step : ∀ s r s' a, Rel s a → M.Step s r s' →
    ∃ l a', Path A a l a' ∧ Shows r l ∧ Rel s' a'

/-- The steps of `A` contained in a run of `M` are a run of `A`. -/
theorem Projection.run {Shows : Record → List Label → Prop} {Rel : State → Abs → Prop}
    (proj : Projection M A Shows Rel) (hrun : Run M h s) :
    ∃ ls a, List.Forall₂ Shows h ls ∧ Run A ls.flatten a ∧ Rel s a := by
  induction hrun with
  | nil => exact ⟨[], A.start, .nil, .nil, proj.start⟩
  | snoc _ hr ih =>
      obtain ⟨ls, a, hshows, hrun, hrel⟩ := ih
      obtain ⟨l, a', hpath, hl, hrel'⟩ := proj.step _ _ _ _ hrel hr
      refine ⟨ls ++ [l], a', List.rel_append hshows (.cons hl .nil), ?_, hrel'⟩
      rw [List.flatten_append, List.flatten_singleton]
      exact Path.append hrun hpath

end Simulation

-- ============================================================================
-- The part of a list after its last mark
-- ============================================================================

section Since

variable {α : Type} {p : α → Bool}

/-- The elements of `l` after the last one that satisfies `p`; all of `l` when
    none does. -/
def since (p : α → Bool) (l : List α) : List α :=
  l.rtakeWhile fun x => !p x

theorem mem_of_mem_since {l : List α} {x : α} (hx : x ∈ since p l) : x ∈ l :=
  (List.rtakeWhile_suffix _ _).mem hx

theorem since_concat_mark {l : List α} {x : α} (hx : p x = true) :
    since p (l ++ [x]) = [] := by
  apply List.rtakeWhile_concat_neg
  simp [hx]

theorem since_concat_other {l : List α} {x : α} (hx : p x = false) :
    since p (l ++ [x]) = since p l ++ [x] := by
  apply List.rtakeWhile_concat_pos
  simp [hx]

/-- Elements that satisfy `p` nowhere extend the part after the last mark. -/
theorem since_append_unmarked {l₁ l₂ : List α} (h : ∀ x ∈ l₂, p x = false) :
    since p (l₁ ++ l₂) = since p l₁ ++ l₂ := by
  induction l₂ using List.reverseRecOn with
  | nil => simp
  | append_singleton l x ih =>
      have hl : ∀ y ∈ l, p y = false := fun y hy => h y (List.mem_append_left _ hy)
      have hx : p x = false := h x (by simp)
      rw [← List.append_assoc, since_concat_other hx, ih hl, List.append_assoc]

/-- Cutting at a mark after which no other stands. -/
theorem since_append_mark {l₁ l₂ : List α} {x : α} (hx : p x = true)
    (h : ∀ y ∈ l₂, p y = false) : since p (l₁ ++ x :: l₂) = l₂ := by
  rw [List.append_cons, since_append_unmarked h, since_concat_mark hx, List.nil_append]

/-- A list ends in `k` copies of `a` when `k` elements stand after its last element
    that differs from `a`. -/
theorem replicate_suffix_iff [DecidableEq α] {a : α} {k : Nat} {l : List α} :
    List.replicate k a <:+ l ↔ k ≤ (since (fun x => x ≠ a) l).length := by
  induction l using List.reverseRecOn generalizing k with
  | nil => simp [since]
  | append_singleton l x ih =>
      cases k with
      | zero => simp
      | succ k =>
          have hlast : List.replicate (k + 1) a <:+ l ++ [x] ↔
              a = x ∧ k ≤ (since (fun x => x ≠ a) l).length := by
            rw [← ih, List.replicate_succ', ← List.reverse_prefix, List.reverse_append,
              List.reverse_append, List.reverse_singleton, List.reverse_singleton,
              List.singleton_append, List.singleton_append, List.cons_prefix_cons,
              List.reverse_prefix]
          rw [hlast]
          by_cases hx : x = a
          · rw [since_concat_other (by simp [hx]), List.length_append, List.length_singleton]
            simp [hx]
          · rw [since_concat_mark (by simpa using hx)]
            simp [Ne.symm hx]

/-- Every stretch of `l` between two consecutive elements that satisfy `p`
    satisfies `Q`. -/
def EachBetween (p : α → Bool) (Q : List α → Prop) (l : List α) : Prop :=
  ∀ l₁ x l₂ y l₃, l = l₁ ++ x :: (l₂ ++ y :: l₃) → p x = true → p y = true →
    (∀ z ∈ l₂, p z = false) → Q l₂

variable {Q : List α → Prop}

theorem eachBetween_nil : EachBetween p Q [] := by
  intro l₁ x l₂ y l₃ hl
  simp at hl

/-- A new last element ends a stretch only if it is a mark. -/
theorem eachBetween_concat {l : List α} {a : α} (hl : EachBetween p Q l)
    (ha : p a = true → (∃ x ∈ l, p x = true) → Q (since p l)) :
    EachBetween p Q (l ++ [a]) := by
  intro l₁ x l₂ y l₃ heq hx hy hnone
  rcases List.eq_nil_or_concat l₃ with rfl | ⟨k, c, rfl⟩
  · have hsplit : l ++ [a] = (l₁ ++ x :: l₂) ++ [y] := by simpa using heq
    obtain ⟨rfl, hay⟩ := List.append_inj' hsplit rfl
    obtain rfl := List.singleton_inj.mp hay
    rw [← since_append_mark hx hnone]
    exact ha hy ⟨x, by simp, hx⟩
  · have hsplit : l ++ [a] = (l₁ ++ x :: (l₂ ++ y :: k)) ++ [c] := by simpa using heq
    exact hl l₁ x l₂ y k (List.append_inj' hsplit rfl).1 hx hy hnone

theorem eachBetween_append_unmarked {l₁ l₂ : List α} (hl : EachBetween p Q l₁)
    (h : ∀ x ∈ l₂, p x = false) : EachBetween p Q (l₁ ++ l₂) := by
  induction l₂ using List.reverseRecOn with
  | nil => simpa using hl
  | append_singleton l a ih =>
      have ha : p a = false := h a (by simp)
      rw [← List.append_assoc]
      refine eachBetween_concat (ih fun x hx => h x (List.mem_append_left _ hx)) fun hmark _ => ?_
      rw [ha] at hmark
      cases hmark

end Since

end Transition
