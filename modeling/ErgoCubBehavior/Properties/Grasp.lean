/-
  ErgoCubBehavior.Properties.Grasp

  Taking a box, over every run of the tree.

  * `grasp_protocol` — `GoGrasp` commands `(ready (home | bottom_grasp))*`: ready
    when the gate opens, `bottom_grasp` or `home` when the approach is finished
    or the gate has closed, and only a grasp makes the box held;
  * `goGrasp_kept_iff` — a running `GoGrasp` whose gates succeed is ticked again
    only until it writes `the_has_box`: that write halts it in the next tick, so
    the second half of `onRunning` is never reached.
-/

import ErgoCubBehavior.Protocol.History

namespace ErgoCubBehavior

open BehaviorTree Transition

variable {h : List TickRecord} {s : State}

-- ============================================================================
-- The grasp protocol
-- ============================================================================

/-- What holds of the tick `t` that follows the ticks `h`, whether it returns or
    throws. -/
structure GraspProtocol (h : List TickRecord) (t : TickRecord) : Prop where
  /-- the commands of `GoGrasp` so far begin a word of `(ready (home | bottom_grasp))*` -/
  word : ∃ w ∈ graspLanguage, graspCommands (sent (h ++ [t])) <+: w
  /-- an approach under way was begun by a `ready`, and every tick since was open -/
  approach : underWay (sent h) = true →
    ∃ h₁ r h₂, h = h₁ ++ r :: h₂ ∧ .ready ∈ motions r.trace ∧ ∀ x ∈ h₂, x.gateOpen = true
  /-- `ready` is sent in the open ticks in which no approach is under way -/
  ready : .ready ∈ motions t.trace ↔ t.gateOpen = true ∧ underWay (sent h) = false
  /-- `bottom_grasp` is sent in an open tick, in an approach that is reported finished -/
  bottomGrasp : .bottomGrasp ∈ motions t.trace →
    t.gateOpen = true ∧ underWay (sent h) = true ∧ .isFinished .goGrasp true ∈ t.trace
  /-- the ticks that send `bottom_grasp` are those that change `the_has_box` to `yes` -/
  hasBox : .bottomGrasp ∈ motions t.trace ↔
    t.before.memory.blackboard.theHasBox = some "no" ∧
      t.after.memory.blackboard.theHasBox = some "yes"
  /-- `home` is sent in the first closed tick of an approach that returns -/
  home : (∃ r, t.result = .ok r) →
    (.abort ∈ motions t.trace ↔ underWay (sent h) = true ∧ t.gateOpen = false)
  /-- and once -/
  home_once : .abort ∈ motions t.trace →
    underWay (sent h) = true ∧ t.gateOpen = false ∧ (motions t.trace).count .abort = 1

/-- The part of the protocol that is about words. -/
theorem sent_word (hrun : Run h s) (env : Env) :
    ∃ w ∈ graspLanguage, graspCommands (sent (h ++ [tickRoot env s])) <+: w := by
  obtain ⟨p, hprotocol, hphase⟩ := hrun.protocol
  rw [sent_concat, ← commands_observe]
  rcases hphase.tick env with ⟨r, p', -, hstep, -⟩ | ⟨e, -, hcrash⟩
  · have hlast := graspCommands_word (hprotocol.snoc hstep)
    rw [commands_concat] at hlast
    exact hlast
  · exact graspCommands_crash hprotocol hcrash

/-- The part that looks back to where the approach began. -/
theorem approach_in_history (hprotocol : Transition.Run protocol (h.map observe) .approaching) :
    ∃ h₁ r h₂, h = h₁ ++ r :: h₂ ∧ .ready ∈ motions r.trace ∧ ∀ x ∈ h₂, x.gateOpen = true := by
  obtain ⟨os₁, o, os₂, hcut, hready, hopen⟩ := approach_run hprotocol
  obtain ⟨h₁, r, h₂, rfl, rfl, rfl⟩ := observe_cut hcut
  exact ⟨h₁, r, h₂, rfl, hready, fun x hx => hopen _ (List.mem_map_of_mem hx)⟩

theorem grasp_protocol (hrun : Run h s) (env : Env) : GraspProtocol h (tickRoot env s) := by
  obtain ⟨p, hprotocol, hphase⟩ := hrun.protocol
  have hunder : underWay (sent h) = true ↔ p = .approaching := by
    rw [← commands_observe]
    exact underWay_run hprotocol
  have hidle : underWay (sent h) = false ↔ p ≠ .approaching := by
    rw [← Bool.not_eq_true]
    exact not_congr hunder
  refine ⟨sent_word hrun env, ?_, ?_, ?_, hphase.grasp_iff env, ?_, ?_⟩
  · intro hway
    obtain rfl := hunder.mp hway
    exact approach_in_history hprotocol
  · rw [hidle]
    exact hphase.ready_iff env
  · intro hgrasp
    obtain ⟨hopen, hp⟩ := hphase.open_of_grasp hgrasp
    obtain ⟨answer, hcall⟩ := mem_motions.mp hgrasp
    exact ⟨hopen, hunder.mpr hp, (hphase.cases env).finished_of_grasp hcall⟩
  · rintro ⟨r, hr⟩
    rw [hunder]
    exact hphase.abort_iff hr
  · intro habort
    obtain ⟨hp, hclosed, hone⟩ := hphase.abort_once habort
    exact ⟨hunder.mpr hp, hclosed, hone⟩

/-- The second tick of an object in reach grasps it. -/
theorem grasp_protocol_grasped :
    .bottomGrasp ∈ motions (tickRoot Env.alone.object (reached [Env.alone.object])).trace ∧
      GraspProtocol (history [Env.alone.object])
        (tickRoot Env.alone.object (reached [Env.alone.object])) :=
  ⟨by decide +kernel, grasp_protocol (run_history _) _⟩

-- ============================================================================
-- A grasp that its own bookkeeping interrupts
-- ============================================================================

/-- With free hands and gates that succeed, the tick runs on. -/
theorem TickCase.running_of_open {env : Env} {a : Activity} {m : Memory} {t : TickRecord}
    (hcase : TickCase env a m "no" t) (hnav : env.navigating = false)
    (hseen : env.objectSeen = true) (hgrasp : env.graspable = true) :
    t.result = .ok .running := by
  obtain ⟨p, hsel⟩ : ∃ p, selectPoi env (some "no") = .ok (.object p) := by
    unfold Env.objectSeen at hseen
    cases hs : sighting env.getCenter with
    | seen p => exact ⟨p, selectPoi_object.mpr ⟨rfl, hs⟩⟩
    | short => simp [hs] at hseen
    | dead => simp [hs] at hseen
    | absent => simp [hs] at hseen
  cases hcase with
  | navigating hnav' => simp [hnav] at hnav'
  | blind _ hsel' => simp [hsel] at hsel'
  | unfinished _ hsel' hclosed _ =>
      simp [graspable_of_closed hsel' hclosed hsel] at hgrasp
  | respond _ hsel' hclosed _ _ =>
      simp [graspable_of_closed hsel' hclosed hsel] at hgrasp
  | comeShort _ hsel' hclosed _ _ _ =>
      simp [graspable_of_closed hsel' hclosed hsel] at hgrasp
  | _ => rfl

/-- `GoGrasp` goes on in this tick, instead of being halted. -/
def KeepsGrasping (t : TickRecord) : Prop :=
  .onRunning ∈ t.trace ∧ .onHalted ∉ t.trace

instance (t : TickRecord) : Decidable (KeepsGrasping t) :=
  inferInstanceAs (Decidable (_ ∧ _))

/-- A running `GoGrasp` whose gates succeed goes on if and only if the box is not
    held yet.  It never gets further than its first phase: whenever it is ticked
    again it answers `RUNNING`. -/
theorem goGrasp_kept_iff (hrun : Run h s) (env : Env) (hrunning : GoGraspRunning s)
    (hnav : env.navigating = false) (hseen : env.objectSeen = true)
    (hgrasp : env.graspable = true) :
    (KeepsGrasping (tickRoot env s) ↔ s.memory.blackboard.theHasBox = some "no") ∧
      (.onRunning ∈ (tickRoot env s).trace → (tickRoot env s).result = .ok .running) := by
  obtain ⟨p, -, hphase⟩ := hrun.protocol
  have hcase := hphase.cases env
  refine ⟨?_, fun hticked => (hcase.onRunning_iff.mp hticked).2⟩
  rw [KeepsGrasping, hcase.onRunning_iff, hphase.hasBox]
  rcases hphase.goGraspRunning_iff.mp hrunning with rfl | rfl
  · have hresult := hcase.running_of_open hnav hseen hgrasp
    simp only [Phase.activity, Phase.hasBox, hresult, and_self, true_and, iff_true]
    exact fun hhalted => hcase.not_running_of_halted hhalted hresult
  · simp [Phase.activity, Phase.hasBox]

theorem goGrasp_kept_approaching :
    KeepsGrasping (tickRoot Env.alone.object (reached [Env.alone.object])) :=
  (goGrasp_kept_iff (run_history [Env.alone.object]) Env.alone.object (by decide +kernel)
    (by decide +kernel) (by decide +kernel) (by decide +kernel)).1.mpr (by decide +kernel)

/-- The object stays in reach for three ticks: the second grasps it, and the third
    halts `GoGrasp` although every gate succeeds. -/
theorem goGrasp_halted_by_own_write :
    Run (history [Env.alone.object, Env.alone.object])
        (reached [Env.alone.object, Env.alone.object]) ∧
      GoGraspRunning (reached [Env.alone.object, Env.alone.object]) ∧
      Env.alone.object.navigating = false ∧ Env.alone.object.objectSeen = true ∧
      Env.alone.object.graspable = true ∧
      .onHalted ∈ (tickRoot Env.alone.object (reached [Env.alone.object, Env.alone.object])).trace ∧
      .onRunning ∉
        (tickRoot Env.alone.object (reached [Env.alone.object, Env.alone.object])).trace :=
  ⟨run_history _, by decide +kernel⟩

end ErgoCubBehavior
