/-
  ErgoCubBehavior.Lib.BehaviorTree

  Reactive behavior trees in the manner of BehaviorTree.CPP v3: control nodes
  that re-tick their children in order on every tick, decorators that tick
  their child only when a guard holds, and leaves with effects.

  A tree carries the status of every node, so ticking and halting a tree return
  the tree with its new statuses.  The effects of the leaves live in an
  arbitrary `EStateM ε σ`: `σ` is what leaves and guards read and write, `ε`
  what they throw.  An exception ends the tick where it is thrown.

  The second half is the big-step logic of the engine: one rule for each way a
  node can finish, so that the run of a concrete tree is read off the runs of
  its leaves without unfolding the engine.
-/

import Mathlib.Data.List.Basic

namespace BehaviorTree

-- ============================================================================
-- Trees and statuses
-- ============================================================================

/-- The status stored in a node. -/
inductive NodeStatus where
  | idle | running | success | failure
deriving DecidableEq, Repr

/-- What a tick may return: a node that returns `IDLE` is a logic error of the
    engine, so that answer does not exist here. -/
inductive TickStatus where
  | running | success | failure
deriving DecidableEq, Repr

/-- The status a node stores after its tick has returned. -/
def TickStatus.toNodeStatus : TickStatus → NodeStatus
  | .running => .running
  | .success => .success
  | .failure => .failure

@[simp] theorem TickStatus.toNodeStatus_running :
    TickStatus.running.toNodeStatus = .running := rfl

@[simp] theorem TickStatus.toNodeStatus_success :
    TickStatus.success.toNodeStatus = .success := rfl

@[simp] theorem TickStatus.toNodeStatus_failure :
    TickStatus.failure.toNodeStatus = .failure := rfl

/-- A tree over a type of leaves and a type of guards, with the status of every
    node. -/
inductive Tree (Leaf Guard : Type) where
  | leaf (status : NodeStatus) (node : Leaf)
  | decorator (status : NodeStatus) (guard : Guard) (child : Tree Leaf Guard)
  | reactiveSequence (status : NodeStatus) (children : List (Tree Leaf Guard))
  | reactiveFallback (status : NodeStatus) (children : List (Tree Leaf Guard))

namespace Tree

variable {Leaf Guard : Type}

def status : Tree Leaf Guard → NodeStatus
  | leaf st _ => st
  | decorator st _ _ => st
  | reactiveSequence st _ => st
  | reactiveFallback st _ => st

def setStatus (st : NodeStatus) : Tree Leaf Guard → Tree Leaf Guard
  | leaf _ n => leaf st n
  | decorator _ g c => decorator st g c
  | reactiveSequence _ cs => reactiveSequence st cs
  | reactiveFallback _ cs => reactiveFallback st cs

section Lemmas

variable (st st' : NodeStatus) (n : Leaf) (g : Guard) (c : Tree Leaf Guard)
  (cs : List (Tree Leaf Guard))

@[simp] theorem status_leaf : (leaf st n : Tree Leaf Guard).status = st := rfl

@[simp] theorem status_decorator : (decorator st g c).status = st := rfl

@[simp] theorem status_reactiveSequence : (reactiveSequence st cs).status = st := rfl

@[simp] theorem status_reactiveFallback : (reactiveFallback st cs).status = st := rfl

@[simp] theorem setStatus_leaf :
    (leaf st n : Tree Leaf Guard).setStatus st' = leaf st' n := rfl

@[simp] theorem setStatus_decorator :
    (decorator st g c).setStatus st' = decorator st' g c := rfl

@[simp] theorem setStatus_reactiveSequence :
    (reactiveSequence st cs).setStatus st' = reactiveSequence st' cs := rfl

@[simp] theorem setStatus_reactiveFallback :
    (reactiveFallback st cs).setStatus st' = reactiveFallback st' cs := rfl

end Lemmas

/-- A decorator puts a child that has finished back to `IDLE`. -/
def resetFinished (t : Tree Leaf Guard) : Tree Leaf Guard :=
  match t.status with
  | .success => t.setStatus .idle
  | .failure => t.setStatus .idle
  | .idle => t
  | .running => t

end Tree

variable {Leaf Guard : Type}

mutual

/-- The leaves with the statuses they store, in the order in which they are
    ticked. -/
def Tree.leaves : Tree Leaf Guard → List (Leaf × NodeStatus)
  | .leaf st n => [(n, st)]
  | .decorator _ _ c => c.leaves
  | .reactiveSequence _ cs => leavesOf cs
  | .reactiveFallback _ cs => leavesOf cs

def leavesOf : List (Tree Leaf Guard) → List (Leaf × NodeStatus)
  | [] => []
  | c :: cs => c.leaves ++ leavesOf cs

end

mutual

/-- The statuses of the nodes on the way from the root down to the first leaf `n`. -/
def Tree.pathTo [DecidableEq Leaf] (n : Leaf) : Tree Leaf Guard → Option (List NodeStatus)
  | .leaf st n' => if n' = n then some [st] else none
  | .decorator st _ c => (c.pathTo n).map (st :: ·)
  | .reactiveSequence st cs => (pathToOf n cs).map (st :: ·)
  | .reactiveFallback st cs => (pathToOf n cs).map (st :: ·)

def pathToOf [DecidableEq Leaf] (n : Leaf) :
    List (Tree Leaf Guard) → Option (List NodeStatus)
  | [] => none
  | c :: cs =>
      match c.pathTo n with
      | some sts => some sts
      | none => pathToOf n cs

end

/-- What the leaves and the guards do.  `tick` is given the status the leaf
    stores, which is what a stateful action node dispatches on; `onHalted` runs
    when a leaf that stores `RUNNING` is halted. -/
structure Semantics (Leaf Guard ε σ : Type) where
  tick : Leaf → NodeStatus → EStateM ε σ TickStatus
  onHalted : Leaf → EStateM ε σ Unit
  check : Guard → EStateM ε σ Bool
  onMismatch : Guard → TickStatus

variable {ε σ : Type}

-- ============================================================================
-- The engine
-- ============================================================================

mutual

/-- Halt a node: a leaf runs its `onHalted`, a control node or a decorator halts
    those of its children that store `RUNNING` and puts all of them to `IDLE`. -/
def Tree.halt (S : Semantics Leaf Guard ε σ) :
    Tree Leaf Guard → EStateM ε σ (Tree Leaf Guard)
  | .leaf st n => do
      S.onHalted n
      return .leaf st n
  | .decorator st g c => do
      let c' ← if c.status = .running then c.halt S else pure c
      return .decorator st g (c'.setStatus .idle)
  | .reactiveSequence st cs => do
      let cs' ← haltChildren S cs
      return .reactiveSequence st cs'
  | .reactiveFallback st cs => do
      let cs' ← haltChildren S cs
      return .reactiveFallback st cs'

/-- Halt the children that store `RUNNING`, in order; all end `IDLE`. -/
def haltChildren (S : Semantics Leaf Guard ε σ) :
    List (Tree Leaf Guard) → EStateM ε σ (List (Tree Leaf Guard))
  | [] => return []
  | c :: cs => do
      let c' ← if c.status = .running then c.halt S else pure c
      let cs' ← haltChildren S cs
      return c'.setStatus .idle :: cs'

end

mutual

/-- Tick a node and store the status it returns. -/
def Tree.executeTick (S : Semantics Leaf Guard ε σ) :
    Tree Leaf Guard → EStateM ε σ (TickStatus × Tree Leaf Guard)
  | .leaf st n => do
      let r ← S.tick n st
      return (r, .leaf r.toNodeStatus n)
  | .decorator _ g c => do
      if ← S.check g then
        let (r, c') ← c.executeTick S
        return (r, .decorator r.toNodeStatus g c'.resetFinished)
      else
        -- the child is left as it is, even when it stores `RUNNING`
        return (S.onMismatch g, .decorator (S.onMismatch g).toNodeStatus g c.resetFinished)
  | .reactiveSequence _ cs => do
      let (r, cs') ← tickSequence S [] cs
      return (r, .reactiveSequence r.toNodeStatus cs')
  | .reactiveFallback _ cs => do
      let (r, cs') ← tickFallback S [] cs
      return (r, .reactiveFallback r.toNodeStatus cs')

/-- A reactive sequence that has ticked the children `done`, all with success. -/
def tickSequence (S : Semantics Leaf Guard ε σ) (done : List (Tree Leaf Guard)) :
    List (Tree Leaf Guard) → EStateM ε σ (TickStatus × List (Tree Leaf Guard))
  | [] => do
      let cs' ← haltChildren S done
      return (.success, cs')
  | c :: rest => do
      let (r, c') ← c.executeTick S
      match r with
      | .running =>
          let rest' ← haltChildren S rest
          return (.running, done ++ c' :: rest')
      | .failure =>
          let cs' ← haltChildren S (done ++ c' :: rest)
          return (.failure, cs')
      | .success => tickSequence S (done ++ [c']) rest

/-- A reactive fallback that has ticked the children `done`, all with failure. -/
def tickFallback (S : Semantics Leaf Guard ε σ) (done : List (Tree Leaf Guard)) :
    List (Tree Leaf Guard) → EStateM ε σ (TickStatus × List (Tree Leaf Guard))
  | [] => do
      let cs' ← haltChildren S done
      return (.failure, cs')
  | c :: rest => do
      let (r, c') ← c.executeTick S
      match r with
      | .running =>
          let rest' ← haltChildren S rest
          return (.running, done ++ c' :: rest')
      | .success =>
          let cs' ← haltChildren S (done ++ c' :: rest)
          return (.success, cs')
      | .failure => tickFallback S (done ++ [c']) rest

end

/-- Tick the root of a tree; a root that has finished goes back to `IDLE`. -/
def Tree.tickRoot (S : Semantics Leaf Guard ε σ) (t : Tree Leaf Guard) :
    EStateM ε σ (TickStatus × Tree Leaf Guard) := do
  let (r, t') ← t.executeTick S
  return (r, t'.resetFinished)

-- ============================================================================
-- Running a computation
-- ============================================================================

/-- A computation that returns is followed by its continuation. -/
theorem bind_ok {α β : Type} {x : EStateM ε σ α} {f : α → EStateM ε σ β}
    {s s' : σ} {a : α} (h : x.run s = .ok a s') : (x >>= f).run s = (f a).run s' := by
  rw [EStateM.run_bind, h]

/-- A computation that throws ends there. -/
theorem bind_error {α β : Type} {x : EStateM ε σ α} {f : α → EStateM ε σ β}
    {s s' : σ} {e : ε} (h : x.run s = .error e s') : (x >>= f).run s = .error e s' := by
  rw [EStateM.run_bind, h]

@[simp] theorem run_map {α β : Type} (f : α → β) (x : EStateM ε σ α) (s : σ) :
    (f <$> x).run s =
      match x.run s with
      | .ok a s' => .ok (f a) s'
      | .error e s' => .error e s' := rfl

-- ============================================================================
-- Halting
-- ============================================================================

section Halting

variable {S : Semantics Leaf Guard ε σ} {s s' s'' : σ} (st : NodeStatus)
  {g : Guard} {c c' : Tree Leaf Guard} {cs cs' : List (Tree Leaf Guard)}

theorem halt_leaf {n : Leaf} (h : (S.onHalted n).run s = .ok () s') :
    ((Tree.leaf st n).halt S).run s = .ok (.leaf st n) s' :=
  bind_ok h

theorem halt_decorator (hc : c.status = .running) (h : (c.halt S).run s = .ok c' s') :
    ((Tree.decorator st g c).halt S).run s = .ok (.decorator st g (c'.setStatus .idle)) s' := by
  show (ite (c.status = .running) _ _ : EStateM ε σ _).run s = _
  rw [if_pos hc]
  exact bind_ok h

theorem halt_sequence (h : (haltChildren S cs).run s = .ok cs' s') :
    ((Tree.reactiveSequence st cs).halt S).run s = .ok (.reactiveSequence st cs') s' :=
  bind_ok h

theorem halt_fallback (h : (haltChildren S cs).run s = .ok cs' s') :
    ((Tree.reactiveFallback st cs).halt S).run s = .ok (.reactiveFallback st cs') s' :=
  bind_ok h

/-- A child that stores `RUNNING` is halted before its later siblings. -/
theorem haltChildren_running (hc : c.status = .running) (h : (c.halt S).run s = .ok c' s')
    (hcs : (haltChildren S cs).run s' = .ok cs' s'') :
    (haltChildren S (c :: cs)).run s = .ok (c'.setStatus .idle :: cs') s'' := by
  show (ite (c.status = .running) _ _ : EStateM ε σ _).run s = _
  rw [if_pos hc]
  exact (bind_ok h).trans (bind_ok hcs)

/-- A child that does not store `RUNNING` is only put to `IDLE`. -/
theorem haltChildren_settled_cons (hc : c.status ≠ .running)
    (hcs : (haltChildren S cs).run s = .ok cs' s') :
    (haltChildren S (c :: cs)).run s = .ok (c.setStatus .idle :: cs') s' := by
  show (ite (c.status = .running) _ _ : EStateM ε σ _).run s = _
  rw [if_neg hc]
  exact bind_ok hcs

/-- Halting children none of which stores `RUNNING` has no effect. -/
theorem haltChildren_settled (hcs : ∀ c ∈ cs, c.status ≠ .running) :
    (haltChildren S cs).run s = .ok (cs.map (Tree.setStatus .idle)) s := by
  induction cs with
  | nil => rfl
  | cons c cs ih =>
      have htail := ih fun d hd => hcs d (List.mem_cons_of_mem _ hd)
      exact haltChildren_settled_cons (hcs c List.mem_cons_self) htail

end Halting

-- ============================================================================
-- Ticking
-- ============================================================================

section Ticking

variable {S : Semantics Leaf Guard ε σ} {s s' s'' : σ} {st : NodeStatus} {e : ε}
  {r : TickStatus} {g : Guard} {c c' : Tree Leaf Guard}
  {done rest rest' cs cs' : List (Tree Leaf Guard)}

theorem executeTick_leaf {n : Leaf} (h : (S.tick n st).run s = .ok r s') :
    ((Tree.leaf st n).executeTick S).run s = .ok (r, .leaf r.toNodeStatus n) s' :=
  bind_ok h

theorem executeTick_leaf_error {n : Leaf} (h : (S.tick n st).run s = .error e s') :
    ((Tree.leaf st n).executeTick S).run s = .error e s' :=
  bind_error h

/-- A decorator whose guard holds ticks its child and answers for it. -/
theorem executeTick_match (hg : (S.check g).run s = .ok true s')
    (hc : (c.executeTick S).run s' = .ok (r, c') s'') :
    ((Tree.decorator st g c).executeTick S).run s =
      .ok (r, .decorator r.toNodeStatus g c'.resetFinished) s'' :=
  (bind_ok hg).trans (bind_ok hc)

theorem executeTick_match_error (hg : (S.check g).run s = .ok true s')
    (hc : (c.executeTick S).run s' = .error e s'') :
    ((Tree.decorator st g c).executeTick S).run s = .error e s'' :=
  (bind_ok hg).trans (bind_error hc)

/-- A decorator whose guard fails does not tick its child. -/
theorem executeTick_mismatch (hg : (S.check g).run s = .ok false s') :
    ((Tree.decorator st g c).executeTick S).run s =
      .ok (S.onMismatch g, .decorator (S.onMismatch g).toNodeStatus g c.resetFinished) s' :=
  bind_ok hg

theorem executeTick_sequence (h : (tickSequence S [] cs).run s = .ok (r, cs') s') :
    ((Tree.reactiveSequence st cs).executeTick S).run s =
      .ok (r, .reactiveSequence r.toNodeStatus cs') s' :=
  bind_ok h

theorem executeTick_sequence_error (h : (tickSequence S [] cs).run s = .error e s') :
    ((Tree.reactiveSequence st cs).executeTick S).run s = .error e s' :=
  bind_error h

theorem executeTick_fallback (h : (tickFallback S [] cs).run s = .ok (r, cs') s') :
    ((Tree.reactiveFallback st cs).executeTick S).run s =
      .ok (r, .reactiveFallback r.toNodeStatus cs') s' :=
  bind_ok h

theorem executeTick_fallback_error (h : (tickFallback S [] cs).run s = .error e s') :
    ((Tree.reactiveFallback st cs).executeTick S).run s = .error e s' :=
  bind_error h

/-! ### Reactive sequences -/

theorem tickSequence_nil (h : (haltChildren S done).run s = .ok cs' s') :
    (tickSequence S done []).run s = .ok (.success, cs') s' :=
  bind_ok h

theorem tickSequence_success (h : (c.executeTick S).run s = .ok (.success, c') s') :
    (tickSequence S done (c :: rest)).run s = (tickSequence S (done ++ [c']) rest).run s' :=
  bind_ok h

theorem tickSequence_failure (h : (c.executeTick S).run s = .ok (.failure, c') s')
    (hh : (haltChildren S (done ++ c' :: rest)).run s' = .ok cs' s'') :
    (tickSequence S done (c :: rest)).run s = .ok (.failure, cs') s'' :=
  (bind_ok h).trans (bind_ok hh)

theorem tickSequence_running (h : (c.executeTick S).run s = .ok (.running, c') s')
    (hh : (haltChildren S rest).run s' = .ok rest' s'') :
    (tickSequence S done (c :: rest)).run s = .ok (.running, done ++ c' :: rest') s'' :=
  (bind_ok h).trans (bind_ok hh)

theorem tickSequence_error (h : (c.executeTick S).run s = .error e s') :
    (tickSequence S done (c :: rest)).run s = .error e s' :=
  bind_error h

/-! ### Reactive fallbacks -/

theorem tickFallback_nil (h : (haltChildren S done).run s = .ok cs' s') :
    (tickFallback S done []).run s = .ok (.failure, cs') s' :=
  bind_ok h

theorem tickFallback_failure (h : (c.executeTick S).run s = .ok (.failure, c') s') :
    (tickFallback S done (c :: rest)).run s = (tickFallback S (done ++ [c']) rest).run s' :=
  bind_ok h

theorem tickFallback_success (h : (c.executeTick S).run s = .ok (.success, c') s')
    (hh : (haltChildren S (done ++ c' :: rest)).run s' = .ok cs' s'') :
    (tickFallback S done (c :: rest)).run s = .ok (.success, cs') s'' :=
  (bind_ok h).trans (bind_ok hh)

theorem tickFallback_running (h : (c.executeTick S).run s = .ok (.running, c') s')
    (hh : (haltChildren S rest).run s' = .ok rest' s'') :
    (tickFallback S done (c :: rest)).run s = .ok (.running, done ++ c' :: rest') s'' :=
  (bind_ok h).trans (bind_ok hh)

theorem tickFallback_error (h : (c.executeTick S).run s = .error e s') :
    (tickFallback S done (c :: rest)).run s = .error e s' :=
  bind_error h

/-! ### The root -/

theorem tickRoot_ok (h : (c.executeTick S).run s = .ok (r, c') s') :
    (c.tickRoot S).run s = .ok (r, c'.resetFinished) s' :=
  bind_ok h

theorem tickRoot_error (h : (c.executeTick S).run s = .error e s') :
    (c.tickRoot S).run s = .error e s' :=
  bind_error h

end Ticking

end BehaviorTree
