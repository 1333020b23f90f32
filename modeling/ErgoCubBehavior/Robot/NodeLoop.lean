/-
  ErgoCubBehavior.Robot.NodeLoop

  A node of the tree on its own.  It is ticked again and again, as `main` would
  tick it, but on a blackboard that anybody may have written in between; what
  it remembers is all that one tick hands on to the next.
-/

import ErgoCubBehavior.Robot.Ergotree

namespace ErgoCubBehavior

open BehaviorTree

/-- One tick of a node: the memory and the answers it got, what it did, and what it
    returned or threw. -/
structure NodeRecord where
  before : Memory
  env : Env
  trace : List Event
  result : Except Exception TickStatus
  after : Memory

def tickNode (n : Leaf) (env : Env) (m : Memory) : NodeRecord :=
  match (n.tick env .idle).run ⟨m, []⟩ with
  | .ok status w =>
      { before := m, env, trace := w.log, result := .ok status, after := w.memory }
  | .error e w =>
      { before := m, env, trace := w.log, result := .error e, after := w.memory }

/-- What a tick found in an entry of the blackboard. -/
def NodeRecord.read (entry : StringEntry) (t : NodeRecord) : Option String :=
  t.before.blackboard.get entry

/-- The node is ticked again and again; each step is a tick that returns. -/
def nodeLoop (n : Leaf) : Transition.System Memory NodeRecord where
  start := initialState.memory
  Step m t m' := (∃ env board, t = tickNode n env { m with blackboard := board }) ∧
    (∃ status, t.result = .ok status) ∧ m' = t.after

/-- `h` are the ticks of a node since its construction, oldest first. -/
abbrev NodeRun (n : Leaf) (h : List NodeRecord) (m : Memory) : Prop :=
  Transition.Run (nodeLoop n) h m

section TickNode

variable {n : Leaf} {env : Env} {m m' : Memory} {l : List Event}

theorem tickNode_ok {r : TickStatus} (h : (n.tick env .idle).run ⟨m, []⟩ = .ok r ⟨m', l⟩) :
    tickNode n env m = { before := m, env, trace := l, result := .ok r, after := m' } := by
  simp only [tickNode, h]

theorem tickNode_error {e : Exception}
    (h : (n.tick env .idle).run ⟨m, []⟩ = .error e ⟨m', l⟩) :
    tickNode n env m = { before := m, env, trace := l, result := .error e, after := m' } := by
  simp only [tickNode, h]

@[simp] theorem tickNode_before (n : Leaf) (env : Env) (m : Memory) :
    (tickNode n env m).before = m := by
  unfold tickNode
  split <;> rfl

end TickNode

-- ============================================================================
-- Running a node
-- ============================================================================

/-- The ticks that given inputs lead to, up to the first that throws. -/
def playNode (n : Leaf) (m : Memory) : List (Env × Blackboard) → List NodeRecord × Memory
  | [] => ([], m)
  | (env, board) :: inputs =>
      match (tickNode n env { m with blackboard := board }).result with
      | .ok _ =>
          let (h, m') := playNode n (tickNode n env { m with blackboard := board }).after inputs
          (tickNode n env { m with blackboard := board } :: h, m')
      | .error _ => ([], m)

theorem playNode_path (n : Leaf) (m : Memory) (inputs : List (Env × Blackboard)) :
    Transition.Path (nodeLoop n) m (playNode n m inputs).1 (playNode n m inputs).2 := by
  induction inputs generalizing m with
  | nil => exact .nil
  | cons input inputs ih =>
      obtain ⟨env, board⟩ := input
      unfold playNode
      cases hr : (tickNode n env { m with blackboard := board }).result with
      | error e => exact .nil
      | ok r =>
          have hstep : (nodeLoop n).Step m (tickNode n env { m with blackboard := board })
              (tickNode n env { m with blackboard := board }).after :=
            ⟨⟨env, board, rfl⟩, ⟨r, hr⟩, rfl⟩
          exact (Transition.Path.single hstep).append (ih _)

/-- Somebody who looks at the robot asks for `action`. -/
def Blackboard.asked (board : Blackboard) (action hasBox : String) : Blackboard :=
  { board with theAction := some action, theFocus := some "yes", theHasBox := some hasBox }

end ErgoCubBehavior
