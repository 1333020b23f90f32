/-
  ErgoCubBehavior.Lib.Replay

  Two computations on the same states, the second of which does what the first
  does wherever the first ends well.

  The case to think of is a program that asks an oracle and logs what it was
  answered.  Under another oracle it does the same, as long as the log of the first
  run agrees with the second oracle: `Ok` is that agreement.  As the log grows it can
  only be lost, and the run under the second oracle itself does not lose it.

  `Follows` is kept by everything programs are composed with, and by the engine of
  `Lib.BehaviorTree`: `tickRoot_follows`.
-/

import ErgoCubBehavior.Lib.BehaviorTree

namespace Replay

open BehaviorTree

variable {ε σ α β : Type}

/-- The state a computation ends in, whether it returns or throws. -/
def final : EStateM.Result ε σ α → σ
  | .ok _ s => s
  | .error _ s => s

/-- Wherever `x` ends in a state that is `Ok`, it has begun in one, and `y` does the
    same; and `y` itself does not leave the states that are `Ok`. -/
structure Follows (Ok : σ → Prop) (x y : EStateM ε σ α) : Prop where
  back : ∀ s, Ok (final (x.run s)) → Ok s
  forth : ∀ s, Ok s → Ok (final (y.run s))
  run_eq : ∀ s, Ok (final (x.run s)) → y.run s = x.run s

-- ============================================================================
-- Composition
-- ============================================================================

section Composition

variable {Ok : σ → Prop} {x y : EStateM ε σ α}

/-- A computation that keeps the state follows itself. -/
theorem Follows.keep (h : ∀ s, final (x.run s) = s) : Follows Ok x x where
  back s hs := by rwa [h s] at hs
  forth s hs := by rwa [h s]
  run_eq _ _ := rfl

theorem Follows.pure (a : α) : Follows Ok (pure a : EStateM ε σ α) (pure a) :=
  .keep fun _ => rfl

theorem Follows.throw (e : ε) : Follows Ok (throw e : EStateM ε σ α) (throw e) :=
  .keep fun _ => rfl

theorem Follows.get : Follows Ok (get : EStateM ε σ σ) get :=
  .keep fun _ => rfl

theorem Follows.modify {f : σ → σ} (h : ∀ s, Ok (f s) ↔ Ok s) :
    Follows Ok (modify f : EStateM ε σ PUnit) (modify f) where
  back s := (h s).mp
  forth s := (h s).mpr
  run_eq _ _ := rfl

theorem Follows.bind {f g : α → EStateM ε σ β} (hx : Follows Ok x y)
    (hf : ∀ a, Follows Ok (f a) (g a)) : Follows Ok (x >>= f) (y >>= g) := by
  constructor
  · intro s hs
    rw [EStateM.run_bind] at hs
    apply hx.back
    cases hr : x.run s with
    | ok a s' =>
        rw [hr] at hs
        exact (hf a).back s' hs
    | error e s' =>
        rw [hr] at hs
        exact hs
  · intro s hs
    have hmid := hx.forth s hs
    rw [EStateM.run_bind]
    cases hr : y.run s with
    | ok a s' =>
        rw [hr] at hmid
        exact (hf a).forth s' hmid
    | error e s' =>
        rw [hr] at hmid
        exact hmid
  · intro s hs
    rw [EStateM.run_bind] at hs
    cases hr : x.run s with
    | ok a s' =>
        rw [hr] at hs
        have hx' : y.run s = .ok a s' := by
          rw [hx.run_eq s (by rw [hr]; exact (hf a).back s' hs), hr]
        rw [bind_ok hr, bind_ok hx']
        exact (hf a).run_eq s' hs
    | error e s' =>
        rw [hr] at hs
        have hx' : y.run s = .error e s' := by
          rw [hx.run_eq s (by rw [hr]; exact hs), hr]
        rw [bind_error hr, bind_error hx']

theorem Follows.ite {p : Prop} [Decidable p] {x₁ y₁ x₂ y₂ : EStateM ε σ α}
    (h₁ : Follows Ok x₁ y₁) (h₂ : Follows Ok x₂ y₂) :
    Follows Ok (if p then x₁ else x₂) (if p then y₁ else y₂) := by
  split
  · exact h₁
  · exact h₂

end Composition

-- ============================================================================
-- Trees
-- ============================================================================

section Trees

variable {Leaf Guard : Type} {Ok : σ → Prop} {S S' : Semantics Leaf Guard ε σ}

/-- Leaves and guards that follow those of another tree. -/
structure SemanticsFollow (Ok : σ → Prop) (S S' : Semantics Leaf Guard ε σ) : Prop where
  tick : ∀ n st, Follows Ok (S.tick n st) (S'.tick n st)
  onHalted : ∀ n, Follows Ok (S.onHalted n) (S'.onHalted n)
  check : ∀ g, Follows Ok (S.check g) (S'.check g)
  onMismatch : S'.onMismatch = S.onMismatch

mutual

theorem halt_follows (h : SemanticsFollow Ok S S') :
    ∀ t : Tree Leaf Guard, Follows Ok (t.halt S) (t.halt S')
  | .leaf st n => by
      unfold Tree.halt
      exact (h.onHalted n).bind fun _ => .pure _
  | .decorator st g c => by
      unfold Tree.halt
      dsimp only
      exact .ite ((halt_follows h c).bind fun _ => .pure _) ((Follows.pure c).bind fun _ => .pure _)
  | .reactiveSequence st cs => by
      unfold Tree.halt
      exact (haltChildren_follows h cs).bind fun _ => .pure _
  | .reactiveFallback st cs => by
      unfold Tree.halt
      exact (haltChildren_follows h cs).bind fun _ => .pure _

theorem haltChildren_follows (h : SemanticsFollow Ok S S') :
    ∀ cs : List (Tree Leaf Guard), Follows Ok (haltChildren S cs) (haltChildren S' cs)
  | [] => by
      unfold haltChildren
      exact .pure _
  | c :: cs => by
      unfold haltChildren
      dsimp only
      exact .ite
        ((halt_follows h c).bind fun _ => (haltChildren_follows h cs).bind fun _ => .pure _)
        ((Follows.pure c).bind fun _ => (haltChildren_follows h cs).bind fun _ => .pure _)

end

mutual

theorem executeTick_follows (h : SemanticsFollow Ok S S') :
    ∀ t : Tree Leaf Guard, Follows Ok (t.executeTick S) (t.executeTick S')
  | .leaf st n => by
      unfold Tree.executeTick
      exact (h.tick n st).bind fun _ => .pure _
  | .decorator st g c => by
      unfold Tree.executeTick
      rw [h.onMismatch]
      refine (h.check g).bind fun b => ?_
      exact .ite ((executeTick_follows h c).bind fun _ => .pure _) (.pure _)
  | .reactiveSequence st cs => by
      unfold Tree.executeTick
      exact (tickSequence_follows h [] cs).bind fun _ => .pure _
  | .reactiveFallback st cs => by
      unfold Tree.executeTick
      exact (tickFallback_follows h [] cs).bind fun _ => .pure _

theorem tickSequence_follows (h : SemanticsFollow Ok S S') (done : List (Tree Leaf Guard)) :
    ∀ cs : List (Tree Leaf Guard), Follows Ok (tickSequence S done cs) (tickSequence S' done cs)
  | [] => by
      unfold tickSequence
      exact (haltChildren_follows h done).bind fun _ => .pure _
  | c :: rest => by
      unfold tickSequence
      refine (executeTick_follows h c).bind fun ⟨r, c'⟩ => ?_
      cases r with
      | running => exact (haltChildren_follows h rest).bind fun _ => .pure _
      | failure => exact (haltChildren_follows h _).bind fun _ => .pure _
      | success => exact tickSequence_follows h (done ++ [c']) rest

theorem tickFallback_follows (h : SemanticsFollow Ok S S') (done : List (Tree Leaf Guard)) :
    ∀ cs : List (Tree Leaf Guard), Follows Ok (tickFallback S done cs) (tickFallback S' done cs)
  | [] => by
      unfold tickFallback
      exact (haltChildren_follows h done).bind fun _ => .pure _
  | c :: rest => by
      unfold tickFallback
      refine (executeTick_follows h c).bind fun ⟨r, c'⟩ => ?_
      cases r with
      | running => exact (haltChildren_follows h rest).bind fun _ => .pure _
      | success => exact (haltChildren_follows h _).bind fun _ => .pure _
      | failure => exact tickFallback_follows h (done ++ [c']) rest

end

/-- A tree follows another if its leaves and guards do. -/
theorem tickRoot_follows (h : SemanticsFollow Ok S S') (t : Tree Leaf Guard) :
    Follows Ok (t.tickRoot S) (t.tickRoot S') := by
  unfold Tree.tickRoot
  exact (executeTick_follows h t).bind fun _ => .pure _

end Trees

end Replay
