/-
  ErgoCubBehavior.Tick.Traces

  Who does what in a tick.  The parts a trace is made of are attributed to the
  nodes they come from, so that what one node did is read off a trace without
  looking at the others.
-/

import ErgoCubBehavior.Tick.Cases

namespace ErgoCubBehavior

open BehaviorTree Binary64

-- ============================================================================
-- Calls to the manipulation server
-- ============================================================================

/-- A call to the manipulation server is in a trace if it is among its calls to
    the manipulation server. -/
theorem mem_manipulations {e : Event} {l : List Event} (he : e.manipulation = true) :
    e ∈ manipulations l ↔ e ∈ l := by
  simp [manipulations, he]

-- ============================================================================
-- Events of a node
-- ============================================================================

section EventsOf

variable (n : Node)

@[simp] theorem eventsOf_nil : eventsOf n [] = [] := rfl

@[simp] theorem eventsOf_cons (e : Event) (l : List Event) :
    eventsOf n (e :: l) = (if e.node = some n then [e] else []) ++ eventsOf n l := by
  by_cases h : e.node = some n <;> simp [eventsOf, h]

@[simp] theorem eventsOf_append (l₁ l₂ : List Event) :
    eventsOf n (l₁ ++ l₂) = eventsOf n l₁ ++ eventsOf n l₂ := by
  simp [eventsOf]

variable {n}

theorem mem_eventsOf {e : Event} {l : List Event} (he : e.node = some n) :
    e ∈ eventsOf n l ↔ e ∈ l := by
  simp [eventsOf, he]

/-- A node that has no part in a list of events. -/
theorem eventsOf_eq_nil {l : List Event} (ns : List (Option Node))
    (hl : ∀ e ∈ l, e.node ∈ ns) (hn : some n ∉ ns) : eventsOf n l = [] := by
  refine List.filter_eq_nil_iff.mpr fun e he heq => hn ?_
  rw [← of_decide_eq_true heq]
  exact hl e he

/-- Events that all come from one node. -/
theorem eventsOf_owned {l : List Event} {k : Node} (hl : ∀ e ∈ l, e.node = some k) :
    eventsOf n l = if n = k then l else [] := by
  split_ifs with hnk
  · subst hnk
    exact List.filter_eq_self.mpr fun e he => decide_eq_true (hl e he)
  · exact eventsOf_eq_nil [some k] (fun e he => by simp [hl e he]) (by simpa using hnk)

end EventsOf

section Parts

variable {n : Node} {env : Env} {action focus hasBox : String}

@[simp] theorem eventsOf_selectionEvents {b : Option String}
    (hn : some n ∉ [none, some .boxDetected, some .faceDetected, some .setBlackboard]) :
    eventsOf n (selectionEvents env b) = [] := by
  refine eventsOf_eq_nil _ ?_ hn
  unfold selectionEvents faceSelectionEvents
  repeat' split
  all_goals simp [Event.node]

theorem node_gazeEvents {g : RobotLookAtPOI} {poi : Poi} :
    ∀ e ∈ gazeEvents env g poi, e.node = some .robotLookAtPOI := by
  unfold gazeEvents RobotLookAtPOI.gainEvents RobotLookAtPOI.restEvents
  repeat' split
  all_goals simp [Event.node]

@[simp] theorem eventsOf_gazeEvents {g : RobotLookAtPOI} {poi : Poi} :
    eventsOf n (gazeEvents env g poi) =
      if n = .robotLookAtPOI then gazeEvents env g poi else [] :=
  eventsOf_owned node_gazeEvents

theorem node_emotionEvents {f : RobotChangeFace} {poi : String} :
    ∀ e ∈ f.emotionEvents env poi hasBox, e.node = some .robotChangeFace := by
  unfold RobotChangeFace.emotionEvents
  split <;> simp [Event.node]

@[simp] theorem eventsOf_emotionEvents {f : RobotChangeFace} {poi : String} :
    eventsOf n (f.emotionEvents env poi hasBox) =
      if n = .robotChangeFace then f.emotionEvents env poi hasBox else [] :=
  eventsOf_owned node_emotionEvents

@[simp] theorem eventsOf_gateEvents {poi : String}
    (hn : some n ∉ [none, some .objectIsGraspable]) : eventsOf n (gateEvents env poi) = [] := by
  refine eventsOf_eq_nil _ ?_ hn
  unfold gateEvents
  split <;> simp [Event.node]

theorem node_haltEvents {a : Activity} {k : Nat} :
    ∀ e ∈ a.haltEvents env k, e.node = some .goGrasp := by
  unfold Activity.haltEvents GoGrasp.haltEvents
  repeat' split
  all_goals simp [Event.node]

@[simp] theorem eventsOf_haltEvents {a : Activity} {k : Nat} :
    eventsOf n (a.haltEvents env k) = if n = .goGrasp then a.haltEvents env k else [] :=
  eventsOf_owned node_haltEvents

@[simp] theorem eventsOf_listenEvents
    (hn : some n ∉ [some .focusDetected, some .actionDetected]) :
    eventsOf n (listenEvents env) = [] :=
  eventsOf_eq_nil _ (by simp [listenEvents, Event.node]) hn

@[simp] theorem eventsOf_inputEvents :
    eventsOf n (inputEvents env hasBox) =
      if n = .doResponseAction then inputEvents env hasBox else [] :=
  eventsOf_owned (by simp [inputEvents, DoResponseAction.inputEvents, Event.node])

theorem node_respondEvents {a : Activity} {r : DoResponseAction} {human : List Double} :
    ∀ e ∈ respondEvents env a r hasBox human, e.node = some .doResponseAction := by
  unfold respondEvents DoResponseAction.comeEvents DoResponseAction.confirmEvents
    DoResponseAction.sendEvents
  repeat' split
  all_goals simp [Event.node]

@[simp] theorem eventsOf_respondEvents {a : Activity} {r : DoResponseAction}
    {human : List Double} :
    eventsOf n (respondEvents env a r hasBox human) =
      if n = .doResponseAction then respondEvents env a r hasBox human else [] :=
  eventsOf_owned node_respondEvents

end Parts

section Wholes

variable {n : Node} {env : Env} {a : Activity} {m : Memory} {poi : Poi} {hasBox : String}

@[simp] theorem eventsOf_perceptionEvents
    (hn : n ∉ [.robotNavigating, .boxDetected, .faceDetected, .setBlackboard, .robotLookAtPOI,
      .robotChangeFace]) :
    eventsOf n (perceptionEvents env m poi hasBox) = [] := by
  cases n <;> simp_all [perceptionEvents, Event.node]

@[simp] theorem eventsOf_openEvents
    (hn : n ∉ [.robotNavigating, .boxDetected, .faceDetected, .setBlackboard, .robotLookAtPOI,
      .robotChangeFace, .objectIsGraspable]) :
    eventsOf n (openEvents env m poi hasBox) = [] := by
  cases n <;> simp_all [openEvents, Event.node]

@[simp] theorem eventsOf_closedEvents
    (hn : n ∉ [.robotNavigating, .boxDetected, .faceDetected, .setBlackboard, .robotLookAtPOI,
      .robotChangeFace, .objectIsGraspable, .focusDetected, .actionDetected]) :
    eventsOf n (closedEvents env a m poi hasBox) =
      if n = .goGrasp then a.haltEvents env 0 else [] := by
  cases n <;> simp_all [closedEvents]

end Wholes

-- ============================================================================
-- GoGrasp
-- ============================================================================

/-- A motion is in a trace if its command is. -/
theorem mem_motions {x : Motion} {l : List Event} :
    x ∈ motions l ↔ ∃ answer, .performJointSpaceAction x.client x.actionName answer ∈ l := by
  constructor
  · intro hx
    obtain ⟨e, he, hmotion⟩ := List.mem_filterMap.mp hx
    cases e <;> simp only [Event.motion?, reduceCtorEq, Option.some.injEq] at hmotion
    subst hmotion
    exact ⟨_, he⟩
  · rintro ⟨answer, he⟩
    exact List.mem_filterMap.mpr ⟨_, he, rfl⟩

section GoGrasp

variable {env : Env} {a : Activity} {m : Memory} {hasBox : String} {t : TickRecord}

theorem mem_haltEvents {e : Event} {k : Nat} (he : e ∈ a.haltEvents env k) :
    e = .onHalted ∨
      e = .performJointSpaceAction .goGrasp "home" (env.performJointSpaceAction k) := by
  match a with
  | .idle => simp [Activity.haltEvents] at he
  | .running false => simpa [Activity.haltEvents, GoGrasp.haltEvents] using he
  | .running true =>
      exact Or.inl (by simpa [Activity.haltEvents, GoGrasp.haltEvents] using he)

/-- What `GoGrasp` may do in a tick. -/
theorem TickCase.goGrasp (h : TickCase env a m hasBox t) :
    (eventsOf .goGrasp t.trace = [.onStart,
      .performJointSpaceAction .goGrasp "ready" (env.performJointSpaceAction 0)]) ∨
    (eventsOf .goGrasp t.trace = [.onRunning, .isFinished .goGrasp true,
      .setOutput .goGrasp .theHasBox "yes",
      .performJointSpaceAction .goGrasp "bottom_grasp" (env.performJointSpaceAction 0)]) ∨
    (eventsOf .goGrasp t.trace = [.onRunning, .isFinished .goGrasp false,
      .isFinished .goGrasp (env.isFinished 1)]) ∨
    (∀ e ∈ eventsOf .goGrasp t.trace, e = .onHalted ∨
      e = .performJointSpaceAction .goGrasp "home" (env.performJointSpaceAction 0)) := by
  have hhalted : ∀ l, l = a.haltEvents env 0 ∨ l = [] → ∀ e ∈ l, e = .onHalted ∨
      e = .performJointSpaceAction .goGrasp "home" (env.performJointSpaceAction 0) := by
    rintro l (rfl | rfl) e he
    · exact mem_haltEvents he
    · simp at he
  cases h with
  | start => exact Or.inl (by simp [Event.node])
  | grasp => exact Or.inr (Or.inl (by simp [Event.node]))
  | wait => exact Or.inr (Or.inr (Or.inl (by simp [Event.node])))
  | navigating => exact Or.inr (Or.inr (Or.inr (hhalted _ (by simp [Event.node]))))
  | blind => exact Or.inr (Or.inr (Or.inr (hhalted _ (by simp [Event.node]))))
  | unfinished => exact Or.inr (Or.inr (Or.inr (hhalted _ (by simp [Event.node]))))
  | respond => exact Or.inr (Or.inr (Or.inr (hhalted _ (by simp [Event.node]))))
  | comeShort => exact Or.inr (Or.inr (Or.inr (hhalted _ (by simp [Event.node]))))

/-- `GoGrasp` believes in the box in the tick in which it grasps. -/
theorem TickCase.grasp_of_write (h : TickCase env a m hasBox t)
    (hwrite : .setOutput .goGrasp .theHasBox "yes" ∈ t.trace) :
    ∃ answer, .performJointSpaceAction .goGrasp "bottom_grasp" answer ∈ t.trace := by
  rw [← mem_eventsOf rfl] at hwrite
  refine ⟨env.performJointSpaceAction 0, (mem_eventsOf rfl).mp ?_⟩
  rcases h.goGrasp with hl | hl | hl | hl
  · simp [hl] at hwrite
  · simp [hl]
  · simp [hl] at hwrite
  · simpa using hl _ hwrite

/-- `GoGrasp` grasps in a tick in which it was told that the approach is finished. -/
theorem TickCase.finished_of_grasp {answer : Bool} (h : TickCase env a m hasBox t)
    (hgrasp : .performJointSpaceAction .goGrasp "bottom_grasp" answer ∈ t.trace) :
    .isFinished .goGrasp true ∈ t.trace := by
  rw [← mem_eventsOf rfl] at hgrasp
  refine (mem_eventsOf rfl).mp ?_
  rcases h.goGrasp with hl | hl | hl | hl
  · simp [hl] at hgrasp
  · simp [hl]
  · simp [hl] at hgrasp
  · simpa using hl _ hgrasp

/-- `GoGrasp` goes on only with an approach, and the tick then runs on. -/
theorem TickCase.onRunning_iff (h : TickCase env a m hasBox t) :
    .onRunning ∈ t.trace ↔ a = .running false ∧ t.result = .ok .running := by
  rw [← mem_eventsOf rfl]
  have hhalted : ∀ k, Event.onRunning ∉ a.haltEvents env k := by
    intro k hmem
    simpa using mem_haltEvents hmem
  cases h with
  | start hnav hsel hgrasp ha => simp [Event.node, ha]
  | grasp hnav hsel hgrasp ha hfin => simp [Event.node, ha]
  | wait hnav hsel hgrasp ha hfin => simp [Event.node, ha]
  | navigating => simp [Event.node, hhalted]
  | blind => simp [Event.node]
  | unfinished => simp [Event.node, hhalted]
  | respond =>
      have hresult : ∀ b : Bool, (if b then TickStatus.success else .failure) ≠ .running := by
        decide
      simp [Event.node, hhalted, hresult]
  | comeShort => simp [Event.node, hhalted]

/-- A tick that halts `GoGrasp` does not run on. -/
theorem TickCase.not_running_of_halted (h : TickCase env a m hasBox t)
    (hhalted : .onHalted ∈ t.trace) : t.result ≠ .ok .running := by
  rw [← mem_eventsOf rfl] at hhalted
  cases h with
  | start => simp [Event.node] at hhalted
  | grasp => simp [Event.node] at hhalted
  | wait => simp [Event.node] at hhalted
  | respond => simp only [ne_eq, Except.ok.injEq]; split <;> simp
  | _ => simp

end GoGrasp

-- ============================================================================
-- DoResponseAction
-- ============================================================================

namespace DoResponseAction

variable {n : DoResponseAction} {env : Env} {action focus hasBox : String}

/-- The motions a tick sends that found the last one finished. -/
def sends (n : DoResponseAction) (action focus hasBox : String) : List Motion :=
  match n.command action focus hasBox with
  | some (name, _) => [⟨.doResponseAction, name⟩]
  | none => []

theorem motions_sendEvents (k : Nat) :
    motions (n.sendEvents env action focus hasBox k) = n.sends action focus hasBox := by
  unfold sendEvents sends
  cases n.command action focus hasBox <;> rfl

end DoResponseAction

/-- The motions of one node, among all motions. -/
theorem motions_eventsOf (n : Node) (l : List Event) :
    motions (eventsOf n l) = (motions l).filter fun x => x.client = n := by
  rw [motions, eventsOf, List.filterMap_filter, motions, List.filter_filterMap]
  congr 1
  funext e
  cases e with
  | performJointSpaceAction client name answer =>
      by_cases hn : client = n <;> simp [Event.node, Event.motion?, Option.filter, hn]
  | _ => simp [Event.motion?]

section DoResponseAction

variable {env : Env} {a : Activity} {m : Memory} {hasBox : String} {t : TickRecord}

theorem motions_quiet {l : List Event} (hl : manipulations l = []) : motions l = [] := by
  rw [← motions_manipulations, hl, motions_nil]

theorem motions_inputEvents : motions (inputEvents env hasBox) = [] :=
  motions_quiet (by simp [inputEvents])

theorem motions_respondEvents {n : DoResponseAction} {human : List Double} :
    motions (respondEvents env a n hasBox human) = n.sends env.getAction env.focus hasBox := by
  rw [respondEvents, motions_append, motions_append, motions_quiet (by simp),
    motions_quiet (by simp), DoResponseAction.motions_sendEvents, List.nil_append, List.nil_append]

/-- `DoResponseAction` either leaves its fields alone and sends nothing, or it was
    told that the last motion is finished. -/
theorem TickCase.response (h : TickCase env a m hasBox t) :
    (t.after.memory.doResponseAction = m.doResponseAction ∧
      motions (eventsOf .doResponseAction t.trace) = []) ∨
    (t.after.memory.doResponseAction =
        m.doResponseAction.next env.getAction env.focus hasBox ∧
      motions (eventsOf .doResponseAction t.trace) =
        m.doResponseAction.sends env.getAction env.focus hasBox) := by
  cases h with
  | respond =>
      refine Or.inr ⟨rfl, ?_⟩
      simp [Event.node, Event.motion?, motions_inputEvents, motions_respondEvents]
  | navigating => exact Or.inl ⟨rfl, by simp [Event.node]⟩
  | blind => exact Or.inl ⟨rfl, by simp [Event.node]⟩
  | start => exact Or.inl ⟨rfl, by simp [Event.node]⟩
  | grasp => exact Or.inl ⟨rfl, by simp [Event.node]⟩
  | wait => exact Or.inl ⟨rfl, by simp [Event.node]⟩
  | unfinished =>
      exact Or.inl ⟨rfl, by simp [Event.node, Event.motion?, motions_inputEvents]⟩
  | comeShort =>
      exact Or.inl ⟨rfl, by simp [Event.node, Event.motion?, motions_inputEvents]⟩

end DoResponseAction

end ErgoCubBehavior
