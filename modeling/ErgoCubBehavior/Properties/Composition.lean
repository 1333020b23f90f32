/-
  ErgoCubBehavior.Properties.Composition

  The nodes that remember what they sent, in the tree and by themselves.  The loop
  of `Robot.NodeLoop` ticks such a node on a blackboard that anybody may have
  written; the tree writes the blackboard, ticks the node at most once a tick, and
  does nothing else to it.

  * `node_alone` — what a run of the tree makes of the node is a run of the node
    alone, so whatever holds of all of these holds of the node in the tree;
  * `tree_gaze` — the gaze of the robot, from it.
-/

import ErgoCubBehavior.Alone.Gaze
import ErgoCubBehavior.Properties.Expression

namespace ErgoCubBehavior

open BehaviorTree Transition Binary64

variable {env : Env} {a : Activity} {m : Memory} {hasBox : String} {t : TickRecord}
  {h : List TickRecord} {s : State}

-- ============================================================================
-- What one tick does to a node
-- ============================================================================

/-- The part of a tick that comes from `RobotLookAtPOI`, for the points of interest the
    tree selects. -/
theorem eventsOf_perceptionEvents_gaze {poi : Poi} :
    eventsOf .robotLookAtPOI (perceptionEvents env m poi hasBox) =
      gazeEvents env m.robotLookAtPOI poi := by
  simp [perceptionEvents, Event.node]

theorem TickCase.gaze (hcase : TickCase env a m hasBox t) :
    (env.selected (some hasBox) = none ∧ eventsOf .robotLookAtPOI t.trace = [] ∧
      t.after.memory.robotLookAtPOI = m.robotLookAtPOI) ∨
    ∃ poi, env.selected (some hasBox) = some poi ∧
      eventsOf .robotLookAtPOI t.trace = gazeEvents env m.robotLookAtPOI poi ∧
      t.after.memory.robotLookAtPOI = m.robotLookAtPOI.next poi.name := by
  rcases hcase.perceived (.inl rfl) with ⟨hsel, hnone, hkeep, -⟩ | ⟨poi, hsel, hevents, hnext, -⟩
  · exact Or.inl ⟨hsel, hnone, hkeep⟩
  · exact Or.inr ⟨poi, hsel, hevents.trans eventsOf_perceptionEvents_gaze, hnext⟩

/-- Behind `RobotChangeFace` the grasp gate reads what was selected. -/
theorem TickCase.gate {poi : Poi} (hcase : TickCase env a m hasBox t)
    (hsel : env.selected (some hasBox) = some poi) :
    .checkString .thePoi (some poi.name) "object" ∈ t.trace := by
  obtain ⟨hnav, hpoi⟩ := selected_eq_some.mp hsel
  have hopen : .checkString .thePoi (some poi.name) "object" ∈ openEvents env m poi hasBox := by
    simp [openEvents, gateEvents]
  have hclosed : .checkString .thePoi (some poi.name) "object" ∈
      closedEvents env a m poi hasBox := by
    simp [closedEvents, gateEvents]
  cases hcase with
  | navigating hnav' => simp [hnav] at hnav'
  | blind _ hsel' => simp [hpoi] at hsel'
  | start _ hsel' | grasp _ hsel' | wait _ hsel' =>
      obtain rfl := Except.ok.inj (hpoi.symm.trans hsel')
      exact List.mem_append_left _ hopen
  | unfinished _ hsel' | respond _ hsel' | comeShort _ hsel' =>
      obtain rfl := Except.ok.inj (hpoi.symm.trans hsel')
      exact List.mem_append_left _ hclosed

/-- A tick does not reach `DoResponseAction`, or finds the last motion unfinished, or
    answers. -/
theorem TickCase.answer (hcase : TickCase env a m hasBox t) {r : TickStatus}
    (hr : t.result = .ok r) :
    (eventsOf .doResponseAction t.trace = [] ∧
      t.after.memory.doResponseAction = m.doResponseAction) ∨
    (env.isFinished 0 = false ∧ t.result = .ok .failure ∧
      eventsOf .doResponseAction t.trace =
        inputEvents env hasBox ++ [.isFinished .doResponseAction false] ∧
      t.after.memory.doResponseAction = m.doResponseAction) ∨
    ∃ human, env.isFinished 0 = true ∧
      t.result = .ok (if (m.doResponseAction.command env.getAction env.focus hasBox).isSome
        then .success else .failure) ∧
      (env.getAction = "come" → position env.getHumanPosition = some human) ∧
      eventsOf .doResponseAction t.trace =
        inputEvents env hasBox ++ .isFinished .doResponseAction true ::
          respondEvents env a m.doResponseAction hasBox human ∧
      t.after.memory.doResponseAction =
        m.doResponseAction.next env.getAction env.focus hasBox := by
  have hperception : ∀ poi, eventsOf .doResponseAction (perceptionEvents env m poi hasBox) = [] := by
    intro poi
    simp [perceptionEvents, Event.node]
  have hopen : ∀ poi, eventsOf .doResponseAction (openEvents env m poi hasBox) = [] := by
    intro poi
    rw [openEvents, eventsOf_append, hperception]
    simp [Event.node]
  have hclosed : ∀ poi, eventsOf .doResponseAction (closedEvents env a m poi hasBox) = [] := by
    intro poi
    rw [closedEvents, eventsOf_append, hperception]
    simp
  cases hcase with
  | navigating => exact Or.inl ⟨by simp [Event.node], rfl⟩
  | blind => cases hr
  | start => exact Or.inl ⟨by simp [hopen, Event.node], rfl⟩
  | grasp => exact Or.inl ⟨by simp [hopen, Event.node], rfl⟩
  | wait => exact Or.inl ⟨by simp [hopen, Event.node], rfl⟩
  | unfinished _ _ _ hfin =>
      exact Or.inr (Or.inl ⟨hfin, rfl, by simp [hclosed, Event.node], rfl⟩)
  | respond _ _ _ hfin hhuman =>
      exact Or.inr (Or.inr ⟨_, hfin, rfl, hhuman, by simp [hclosed, Event.node], rfl⟩)
  | comeShort => cases hr

-- ============================================================================
-- A node in the tree and alone
-- ============================================================================

/-- The nodes that remember what they sent, as `ergotree.xml` wires them. -/
inductive Remembering where
  | robotLookAtPOI | robotChangeFace | doResponseAction
deriving DecidableEq, Repr

namespace Remembering

def leaf : Remembering → Leaf
  | robotLookAtPOI => .robotLookAtPOI .thePoi .thePoiPos
  | robotChangeFace => .robotChangeFace .theHasBox .thePoi
  | doResponseAction => .doResponseAction .theAction .theFocus .theHasBox .theHasBox

def node : Remembering → Node
  | robotLookAtPOI => .robotLookAtPOI
  | robotChangeFace => .robotChangeFace
  | doResponseAction => .doResponseAction

/-- Two memories in which the node has the same fields. -/
def SameFields : Remembering → Memory → Memory → Prop
  | robotLookAtPOI, m, m' => m.robotLookAtPOI = m'.robotLookAtPOI
  | robotChangeFace, m, m' => m.robotChangeFace = m'.robotChangeFace
  | doResponseAction, m, m' => m.doResponseAction = m'.doResponseAction

/-- What the tree makes of a result `r` of the node.  A sequence goes on behind a node that
    has succeeded and behind no other; the last node of the tree answers for all of it. -/
def Returns : Remembering → TickRecord → Except Exception TickStatus → Prop
  | robotLookAtPOI, t, r => r = .ok .success ↔ eventsOf .robotChangeFace t.trace ≠ []
  | robotChangeFace, t, r =>
      r = .ok .success ↔ ∃ value, .checkString .thePoi value "object" ∈ t.trace
  | doResponseAction, t, r => r = t.result

/-- The ticks of the node in a tick of the tree: at most one, and it did what the node
    did in the tree, with the same result. -/
structure Ticked (n : Remembering) (t : TickRecord) (us : List NodeRecord) : Prop where
  once : us.length ≤ 1
  events : us.flatMap NodeRecord.trace = eventsOf n.node t.trace
  results : ∀ u ∈ us, n.Returns t u.result

theorem Ticked.none {n : Remembering} (h : eventsOf n.node t.trace = []) : n.Ticked t [] :=
  ⟨Nat.zero_le 1, h.symm, by simp⟩

theorem Ticked.one {n : Remembering} {u : NodeRecord} (h : u.trace = eventsOf n.node t.trace)
    (hr : n.Returns t u.result) : n.Ticked t [u] :=
  ⟨Nat.le_refl 1, by simpa using h, by simpa using hr⟩

end Remembering

/-- A tick of a node alone that returns. -/
theorem NodeRun.tick {n : Leaf} {m' m₂ : Memory} {board : Blackboard} {r : TickStatus}
    {l : List Event}
    (hrun : (n.tick env .idle).run ⟨{ m' with blackboard := board }, []⟩ = .ok r ⟨m₂, l⟩) :
    ∃ u, Path (nodeLoop n) m' [u] m₂ ∧ u.trace = l ∧ u.result = .ok r := by
  have hu := tickNode_ok hrun
  refine ⟨tickNode n env { m' with blackboard := board }, ?_, by rw [hu], by rw [hu]⟩
  exact Path.single ⟨⟨env, board, rfl⟩, ⟨r, by rw [hu]⟩, by rw [hu]⟩

section Alone

variable (env : Env) (m' : Memory)

theorem gaze_alone {poi : Poi} (hsel : selectPoi env (some hasBox) = .ok poi) :
    ∃ u m₂, Path (nodeLoop Remembering.robotLookAtPOI.leaf) m' [u] m₂ ∧
      u.trace = gazeEvents env m'.robotLookAtPOI poi ∧ u.result = .ok .success ∧
      m₂.robotLookAtPOI = m'.robotLookAtPOI.next poi.name := by
  have hrun := robotLookAtPOI_run (m := m') (l := []) hsel
  obtain ⟨u, hpath, htrace, hresult⟩ := NodeRun.tick (n := Remembering.robotLookAtPOI.leaf) hrun
  exact ⟨u, _, hpath, htrace, hresult, rfl⟩

theorem face_alone (poi hasBox : String) :
    ∃ u m₂, Path (nodeLoop Remembering.robotChangeFace.leaf) m' [u] m₂ ∧
      u.trace = faceEvents env m'.robotChangeFace poi hasBox ∧ u.result = .ok .success ∧
      m₂.robotChangeFace = m'.robotChangeFace.next poi hasBox := by
  have hrun : (Leaf.tick env .idle Remembering.robotChangeFace.leaf).run
      ⟨{ m' with blackboard :=
          { initialBlackboard with thePoi := some poi, theHasBox := some hasBox } }, []⟩ =
      .ok .success ⟨{ m' with
        blackboard := { initialBlackboard with thePoi := some poi, theHasBox := some hasBox }
        robotChangeFace := m'.robotChangeFace.next poi hasBox },
        faceEvents env m'.robotChangeFace poi hasBox⟩ :=
    RobotChangeFace.tick_run rfl rfl
  obtain ⟨u, hpath, htrace, hresult⟩ := NodeRun.tick hrun
  exact ⟨u, _, hpath, htrace, hresult, rfl⟩

/-- Somebody does `env.getAction`, whether or not they look at the robot. -/
def Env.heard (env : Env) (hasBox : String) : Blackboard :=
  { initialBlackboard with
    theAction := some env.getAction, theFocus := some env.focus, theHasBox := some hasBox }

theorem unfinished_alone (hasBox : String) (hfin : env.isFinished 0 = false) :
    ∃ u m₂, Path (nodeLoop Remembering.doResponseAction.leaf) m' [u] m₂ ∧
      u.trace = inputEvents env hasBox ++ [.isFinished .doResponseAction false] ∧
      u.result = .ok .failure ∧ m₂.doResponseAction = m'.doResponseAction := by
  have hrun : (Leaf.tick env .idle Remembering.doResponseAction.leaf).run
      ⟨{ m' with blackboard := env.heard hasBox }, []⟩ =
      .ok .failure ⟨{ m' with blackboard := env.heard hasBox },
        inputEvents env hasBox ++ [.isFinished .doResponseAction false]⟩ :=
    DoResponseAction.tick_unfinished rfl rfl rfl hfin
  obtain ⟨u, hpath, htrace, hresult⟩ := NodeRun.tick hrun
  exact ⟨u, _, hpath, htrace, hresult, rfl⟩

/-- Motions that were commanded before in the tick of the tree are not there for the node
    alone: its first is answered as the tree's next. -/
theorem answer_alone (a : Activity) (hasBox : String) {human : List Double}
    (hfin : env.isFinished 0 = true)
    (hhuman : env.getAction = "come" → position env.getHumanPosition = some human) :
    ∃ u m₂, Path (nodeLoop Remembering.doResponseAction.leaf) m' [u] m₂ ∧
      u.trace = inputEvents env hasBox ++ .isFinished .doResponseAction true ::
        respondEvents env a m'.doResponseAction hasBox human ∧
      u.result = .ok (if (m'.doResponseAction.command env.getAction env.focus hasBox).isSome
        then .success else .failure) ∧
      m₂.doResponseAction = m'.doResponseAction.next env.getAction env.focus hasBox := by
  let env' : Env := { env with
    performJointSpaceAction := fun k =>
      env.performJointSpaceAction (k + if a = .running false then 1 else 0) }
  have hrun : ∃ m₂, (Leaf.tick env' .idle Remembering.doResponseAction.leaf).run
      ⟨{ m' with blackboard := env.heard hasBox }, []⟩ =
      .ok (if (m'.doResponseAction.command env.getAction env.focus hasBox).isSome then .success
        else .failure) ⟨m₂, inputEvents env' hasBox ++ .isFinished .doResponseAction true ::
        (DoResponseAction.comeEvents env' env.getAction human ++
          (DoResponseAction.confirmEvents m'.doResponseAction hasBox .theHasBox ++
            DoResponseAction.sendEvents env' m'.doResponseAction env.getAction env.focus hasBox
              0))⟩ ∧ m₂.doResponseAction =
        m'.doResponseAction.next env.getAction env.focus hasBox :=
    ⟨_, DoResponseAction.tick_finished rfl rfl rfl hfin hhuman, rfl⟩
  obtain ⟨m₂, hrun, hnext⟩ := hrun
  obtain ⟨u, hpath, htrace, hresult⟩ := NodeRun.tick hrun
  refine ⟨u, m₂, hpath, ?_, hresult, hnext⟩
  have hsend : DoResponseAction.sendEvents env' m'.doResponseAction env.getAction env.focus
      hasBox 0 = DoResponseAction.sendEvents env m'.doResponseAction env.getAction env.focus
        hasBox (if a = .running false then 1 else 0) := by
    unfold DoResponseAction.sendEvents
    have hanswer : env'.performJointSpaceAction 0 =
        env.performJointSpaceAction (if a = .running false then 1 else 0) :=
      congrArg env.performJointSpaceAction (Nat.zero_add _)
    rw [hanswer]
  rw [htrace, hsend]
  rfl

end Alone

/-- What a tick of the tree does to the node, the node alone can do. -/
theorem TickCase.ticked (n : Remembering) (hcase : TickCase env a m hasBox t) {r : TickStatus}
    (hr : t.result = .ok r) {m' : Memory} (hsame : n.SameFields m m') :
    ∃ us m₂, Path (nodeLoop n.leaf) m' us m₂ ∧ n.Ticked t us ∧
      n.SameFields t.after.memory m₂ := by
  cases n with
  | robotLookAtPOI =>
      have hfields : m.robotLookAtPOI = m'.robotLookAtPOI := hsame
      rcases hcase.gaze with ⟨-, hnone, hkeep⟩ | ⟨poi, hsel, hevents, hnext⟩
      · exact ⟨[], m', .nil, .none hnone, hkeep.trans hfields⟩
      · rw [hfields] at hevents hnext
        obtain ⟨u, m₂, hpath, htrace, hresult, hafter⟩ :=
          gaze_alone env m' (selected_eq_some.mp hsel).2
        have hreturns : Remembering.robotLookAtPOI.Returns t u.result := by
          rcases hcase.face with ⟨hsel', -⟩ | ⟨poi', -, hface, -⟩
          · simp [hsel] at hsel'
          · simp [Remembering.Returns, hresult, hface, faceEvents]
        exact ⟨[u], m₂, hpath, .one (htrace.trans hevents.symm) hreturns,
          hnext.trans hafter.symm⟩
  | robotChangeFace =>
      have hfields : m.robotChangeFace = m'.robotChangeFace := hsame
      rcases hcase.face with ⟨-, hnone, hkeep⟩ | ⟨poi, hsel, hevents, hnext⟩
      · exact ⟨[], m', .nil, .none hnone, hkeep.trans hfields⟩
      · rw [hfields] at hevents hnext
        obtain ⟨u, m₂, hpath, htrace, hresult, hafter⟩ := face_alone env m' poi.name hasBox
        have hreturns : Remembering.robotChangeFace.Returns t u.result :=
          iff_of_true hresult ⟨_, hcase.gate hsel⟩
        exact ⟨[u], m₂, hpath, .one (htrace.trans hevents.symm) hreturns,
          hnext.trans hafter.symm⟩
  | doResponseAction =>
      have hfields : m.doResponseAction = m'.doResponseAction := hsame
      rcases hcase.answer hr with ⟨hnone, hkeep⟩ | ⟨hfin, hroot, hevents, hkeep⟩ |
        ⟨human, hfin, hroot, hhuman, hevents, hnext⟩
      · exact ⟨[], m', .nil, .none hnone, hkeep.trans hfields⟩
      · obtain ⟨u, m₂, hpath, htrace, hresult, hafter⟩ := unfinished_alone env m' hasBox hfin
        exact ⟨[u], m₂, hpath, .one (htrace.trans hevents.symm) (hresult.trans hroot.symm),
          (hkeep.trans hfields).trans hafter.symm⟩
      · rw [hfields] at hroot hevents hnext
        obtain ⟨u, m₂, hpath, htrace, hresult, hafter⟩ :=
          answer_alone env m' a hasBox hfin hhuman
        exact ⟨[u], m₂, hpath, .one (htrace.trans hevents.symm) (hresult.trans hroot.symm),
          hnext.trans hafter.symm⟩

/-- A node in the tree is a part of it: the loop of the node alone. -/
theorem remembering_projection (n : Remembering) :
    Projection mainLoop (nodeLoop n.leaf) n.Ticked fun s m' =>
      (∃ p, InPhase p s) ∧ n.SameFields s.memory m' where
  start := ⟨⟨.free, inPhase_initialState⟩, by cases n <;> rfl⟩
  step := by
    rintro s t s' m' ⟨⟨p, hphase⟩, hsame⟩ hstep
    obtain ⟨p', -, hphase'⟩ := hphase.step hstep
    obtain ⟨⟨env, rfl⟩, ⟨r, hr⟩, rfl⟩ := hstep
    obtain ⟨us, m₂, hpath, hticked, hsame'⟩ := (hphase.cases env).ticked n hr hsame
    exact ⟨us, m₂, hpath, hticked, ⟨p', hphase'⟩, hsame'⟩

/-- In every run of the tree, what a node that remembers what it sent has done is what it
    does in a run of its own, and it is left with the same fields. -/
theorem node_alone (n : Remembering) (hrun : ErgoCubBehavior.Run h s) :
    ∃ us m', List.Forall₂ n.Ticked h us ∧ NodeRun n.leaf us.flatten m' ∧
      n.SameFields s.memory m' := by
  obtain ⟨us, m', hticked, hnode, -, hsame⟩ := (remembering_projection n).run hrun
  exact ⟨us, m', hticked, hnode, hsame⟩

theorem node_alone_recorded :
    ∃ us m', List.Forall₂ Remembering.doResponseAction.Ticked
        (history [Env.alone, Env.alone.human "wave"]) us ∧
      NodeRun Remembering.doResponseAction.leaf us.flatten m' ∧
      Remembering.doResponseAction.SameFields
        (reached [Env.alone, Env.alone.human "wave"]).memory m' :=
  node_alone .doResponseAction (run_history _)

-- ============================================================================
-- The gaze of the robot
-- ============================================================================

/-- What `RobotLookAtPOI` reads in a trace. -/
def looked (l : List Event) : List (Option String) :=
  l.filterMap fun
    | .getInput .robotLookAtPOI .thePoi value => some value
    | _ => none

/-- What can be seen of a node alone is not seen elsewhere in a trace. -/
theorem filterMap_eventsOf {β : Type} {n : Node} {f : Event → Option β}
    (hf : ∀ e, e.node ≠ some n → f e = none) (l : List Event) :
    (eventsOf n l).filterMap f = l.filterMap f := by
  rw [eventsOf, List.filterMap_filter]
  congr 1
  funext e
  by_cases he : e.node = some n
  · simp [he]
  · simp [he, hf e he]

@[simp] theorem looked_append (l₁ l₂ : List Event) :
    looked (l₁ ++ l₂) = looked l₁ ++ looked l₂ := by
  simp [looked]

theorem looked_eventsOf (l : List Event) : looked (eventsOf .robotLookAtPOI l) = looked l := by
  refine filterMap_eventsOf (fun e he => ?_) l
  cases e with
  | getInput reader entry value => cases reader <;> simp_all [Event.node]
  | _ => rfl

theorem setpoints_eventsOf (l : List Event) :
    setpoints (eventsOf .robotLookAtPOI l) = setpoints l := by
  refine filterMap_eventsOf (fun e he => ?_) l
  cases e with
  | lookAt => exact absurd rfl he
  | _ => rfl

theorem gains_eventsOf (l : List Event) : gains (eventsOf .robotLookAtPOI l) = gains l := by
  refine filterMap_eventsOf (fun e he => ?_) l
  cases e with
  | setGain => exact absurd rfl he
  | _ => rfl

/-- Everything `RobotLookAtPOI` has read in a run of the tree. -/
def lookedAt (h : List TickRecord) : List (Option String) :=
  h.flatMap fun t => looked t.trace

theorem looked_gainEvents (n : RobotLookAtPOI) (poi : String) :
    looked (n.gainEvents env poi) = [] := by
  unfold RobotLookAtPOI.gainEvents
  split_ifs <;> rfl

theorem looked_restEvents (n : RobotLookAtPOI) : looked (n.restEvents env) = [] := by
  unfold RobotLookAtPOI.restEvents
  split_ifs <;> rfl

theorem looked_gazeEvents (n : RobotLookAtPOI) (poi : Poi) :
    looked (gazeEvents env n poi) = [some poi.name] := by
  rw [gazeEvents, ← List.singleton_append, looked_append, looked_append, looked_gainEvents]
  cases poi with
  | none =>
      show _ ++ ([] ++ looked (n.restEvents env)) = _
      rw [looked_restEvents]
      rfl
  | face p => rfl
  | object p => rfl

/-- A tick of the node alone reads the point of interest once. -/
theorem NodeRun.looked {us : List NodeRecord} {m' : Memory}
    (hrun : NodeRun Remembering.robotLookAtPOI.leaf us m') :
    us.flatMap (fun u => ErgoCubBehavior.looked u.trace) = pois .thePoi us := by
  refine Run.history (motive := fun us _ =>
    us.flatMap (fun u => ErgoCubBehavior.looked u.trace) = pois .thePoi us) hrun rfl ?_
  rintro us m u m' - ih ⟨⟨env, board, rfl⟩, ⟨r, hr⟩, -⟩
  obtain ⟨poi, hpoi, hpos⟩ := gaze_inv hr
  rw [List.flatMap_append, ih, pois_concat, NodeRecord.read, tickNode_before, hpoi]
  congr 1
  rw [List.flatMap_singleton]
  by_cases hne : poi = "none"
  · subst hne
    rw [Remembering.leaf, gaze_none hpoi, ← List.singleton_append, looked_append, looked_append,
      looked_gainEvents, looked_restEvents]
    rfl
  · obtain ⟨v, p, hv, hp⟩ := hpos hne
    rw [Remembering.leaf, gaze_poi hpoi hne hv hp, ← List.singleton_append, looked_append,
      looked_append, looked_gainEvents]
    rfl

/-- The node is ticked at most once a tick. -/
theorem ticked_length {n : Remembering} {us : List (List NodeRecord)}
    (hticked : List.Forall₂ n.Ticked h us) : us.flatten.length ≤ h.length := by
  induction hticked with
  | nil => exact Nat.le_refl 0
  | cons hu _ ih =>
      have honce := hu.once
      rw [List.flatten_cons, List.length_append, List.length_cons]
      omega

theorem nones_le (ps : List (Option String)) : nones ps ≤ ps.length :=
  (List.rtakeWhile_suffix _ ps).length_le

/-- What the tree has looked at is what the node alone has read. -/
theorem lookedAt_eq {us : List (List NodeRecord)} {m' : Memory}
    (hticked : List.Forall₂ Remembering.robotLookAtPOI.Ticked h us)
    (hrun : NodeRun Remembering.robotLookAtPOI.leaf us.flatten m') :
    lookedAt h = pois .thePoi us.flatten := by
  rw [← hrun.looked]
  clear hrun
  induction hticked with
  | nil => rfl
  | @cons t u h us hu _ ih =>
      have hone : ErgoCubBehavior.looked t.trace =
          u.flatMap fun x => ErgoCubBehavior.looked x.trace := by
        rw [← looked_eventsOf, ← Remembering.node, ← hu.events, looked, List.filterMap_flatMap]
        rfl
      rw [lookedAt, List.flatMap_cons, List.flatten_cons, List.flatMap_append, hone]
      exact congrArg _ ih

section Gaze

variable (n : RobotLookAtPOI) (poi : Poi)

theorem setpoints_restEvents : setpoints (n.restEvents env) =
    if RobotLookAtPOI.increment n.noneCounter > 12 then [RobotLookAtPOI.restPoint] else [] := by
  unfold RobotLookAtPOI.restEvents
  split_ifs <;> rfl

theorem setpoints_gazeEvents_none : setpoints (gazeEvents env n .none) =
    if RobotLookAtPOI.increment n.noneCounter > 12 then [RobotLookAtPOI.restPoint] else [] := by
  rw [gazeEvents, ← List.singleton_append, setpoints_append, setpoints_append,
    setpoints_gainEvents]
  exact setpoints_restEvents n

theorem setpoints_gazeEvents {p : List Double} (hp : poi.position? = some p) :
    setpoints (gazeEvents env n poi) = [p] := by
  rw [gazeEvents, ← List.singleton_append, setpoints_append, setpoints_append,
    setpoints_gainEvents, hp]
  rfl

theorem gains_gazeEvents :
    gains (gazeEvents env n poi) = gains (n.gainEvents env poi.name) := by
  rw [gazeEvents, ← List.singleton_append, gains_append, gains_append]
  cases poi with
  | none =>
      show [] ++ (_ ++ gains (n.restEvents env)) = _
      rw [gains_restEvents, List.append_nil]
      rfl
  | face p => exact List.append_nil _
  | object p => exact List.append_nil _

end Gaze

/-- What a tick of the tree does about the gaze, after the ticks `h` and with `poi`
    selected. -/
structure TreeGaze (h : List TickRecord) (t : TickRecord) (poi : Poi) : Prop where
  looks : looked t.trace = [some poi.name]
  /-- a point of interest is looked at, where it was seen in this tick -/
  follows : ∀ p, poi.position? = some p → setpoints t.trace = [p]
  /-- the rest point is looked at from the 13th `none` in a row on, whatever the ticks in
      which nothing was looked for -/
  rests : poi = .none → setpoints t.trace =
    if List.replicate 13 (some "none") <:+ lookedAt (h ++ [t]) then [RobotLookAtPOI.restPoint]
    else []
  /-- the gain is set on the first look, and then when `none` comes or goes -/
  gain : gains t.trace =
    if (lookedAt h).getLast?.map tagOf = some (tagOf (some poi.name)) then []
    else [gainOf (some poi.name)]

/-- What the fields of the node say about the history of the tree. -/
structure Gazed (h : List TickRecord) (n : RobotLookAtPOI) : Prop where
  tag : n.lastPoi = ((lookedAt h).getLast?.map tagOf).getD ""
  rests : RobotLookAtPOI.increment n.noneCounter > 12 ↔
    List.replicate 13 (some "none") <:+ lookedAt h ++ [some "none"]

theorem gazed (hrun : ErgoCubBehavior.Run h s) (hlength : h.length + 1 < 2147483648) :
    Gazed h s.memory.robotLookAtPOI := by
  obtain ⟨us, m', hticked, hnode, -, hsame⟩ :=
    (remembering_projection .robotLookAtPOI).run hrun
  have hfields : s.memory.robotLookAtPOI = m'.robotLookAtPOI := hsame
  have hstate : GazeState .thePoi us.flatten m'.robotLookAtPOI := NodeRun.gazeState hnode
  have hlooked := lookedAt_eq hticked hnode
  have hticks := ticked_length hticked
  have hcount := nones_le (pois .thePoi us.flatten ++ [some "none"])
  rw [List.length_append, pois, List.length_map, List.length_singleton] at hcount
  rw [hfields]
  constructor
  · rw [hlooked]
    exact hstate.tag
  · rw [hlooked]
    exact hstate.rests_iff (Nat.lt_of_le_of_lt hcount (by omega))

/-- The tag says whether `none` came or went. -/
theorem Gazed.tag_iff {n : RobotLookAtPOI} (hgazed : Gazed h n) (q : Option String) :
    n.lastPoi = tagOf q ↔ (lookedAt h).getLast?.map tagOf = some (tagOf q) := by
  rw [hgazed.tag]
  cases (lookedAt h).getLast?.map tagOf with
  | none =>
      have hne : "" ≠ tagOf q := (tagOf_ne_empty q).symm
      simpa using hne
  | some tag => simp

/-- The gaze of the robot in every run: a tick that selects a point of interest follows it,
    and any other (the robot is on its way, or a detector throws) looks for nothing. -/
theorem tree_gaze (hrun : ErgoCubBehavior.Run h s) (hlength : h.length + 1 < 2147483648)
    (env : Env) :
    (∀ poi, env.selected s.memory.blackboard.theHasBox = some poi →
      TreeGaze h (tickRoot env s) poi) ∧
    (env.selected s.memory.blackboard.theHasBox = none →
      looked (tickRoot env s).trace = [] ∧ setpoints (tickRoot env s).trace = [] ∧
        gains (tickRoot env s).trace = []) := by
  obtain ⟨p, -, hphase⟩ := ErgoCubBehavior.Run.protocol hrun
  have hgazed := gazed hrun hlength
  have hcases := hphase.cases env
  rw [hphase.hasBox]
  generalize tickRoot env s = t at hcases ⊢
  rcases hcases.gaze with ⟨hsel, hnone, -⟩ | ⟨poi, hsel, hevents, -⟩
  · refine ⟨fun poi hpoi => ?_, fun _ => ⟨?_, ?_, ?_⟩⟩
    · simp [hsel] at hpoi
    · rw [← looked_eventsOf, hnone]
      rfl
    · rw [← setpoints_eventsOf, hnone]
      rfl
    · rw [← gains_eventsOf, hnone]
      rfl
  · refine ⟨fun poi' hpoi => ?_, fun hpoi => ?_⟩
    · obtain rfl := Option.some.inj (hsel.symm.trans hpoi)
      have hlooked : looked t.trace = [some poi.name] := by
        rw [← looked_eventsOf, hevents, looked_gazeEvents]
      refine ⟨hlooked, ?_, ?_, ?_⟩
      · intro q hq
        rw [← setpoints_eventsOf, hevents, setpoints_gazeEvents _ _ hq]
      · rintro rfl
        have hnow : lookedAt (h ++ [t]) = lookedAt h ++ [some "none"] := by
          rw [lookedAt, List.flatMap_append, List.flatMap_singleton, hlooked]
          rfl
        rw [← setpoints_eventsOf, hevents, setpoints_gazeEvents_none, hnow]
        simp only [hgazed.rests]
      · rw [← gains_eventsOf, hevents, gains_gazeEvents, gains_gainEvents]
        simp only [hgazed.tag_iff]
    · simp [hsel] at hpoi

/-- Twelve ticks alone, and the next one looks at the rest point. -/
theorem tree_gaze_rest :
    setpoints (tickRoot Env.alone (reached (List.replicate 12 Env.alone))).trace =
      [RobotLookAtPOI.restPoint] := by
  have hgaze := (tree_gaze (run_history (List.replicate 12 Env.alone)) (by decide +kernel)
    Env.alone).1 .none (by decide +kernel)
  rw [hgaze.rests rfl, if_pos (by decide +kernel)]

end ErgoCubBehavior
