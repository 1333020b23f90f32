/-
  ErgoCubBehavior.Protocol.Phase

  What the tree is for, as far as the arms are concerned: a machine of five
  phases that takes a box when one is offered and gives it back when it is
  asked to.  A step of the machine is one tick, seen through an `Observation`.

  The results of this module are about the machine alone:

  * `graspCommands_run` — the commands of `GoGrasp` form a word of
    `(ready (home | bottom_grasp))*`, plus `ready` while an approach is under way;
  * `approach_run` — every tick since that `ready` had an open gate;
  * `release_run` — nothing has been commanded, and no motion reported finished,
    since the release motion;
  * `hands_run` — how often the box was released since it was last grasped.
-/

import ErgoCubBehavior.Lib.Transition
import ErgoCubBehavior.Robot.Services
import Mathlib.Computability.Language

namespace ErgoCubBehavior

open Transition
open scoped Computability

-- ============================================================================
-- Motions
-- ============================================================================

namespace Motion

/-- `GoGrasp` gets ready for an approach. -/
def ready : Motion := ⟨.goGrasp, "ready"⟩

def bottomGrasp : Motion := ⟨.goGrasp, "bottom_grasp"⟩

/-- `GoGrasp` gives its approach up. -/
def abort : Motion := ⟨.goGrasp, "home"⟩

/-- `DoResponseAction` gives the box back: the motion goes by the name `ready`. -/
def release : Motion := ⟨.doResponseAction, "ready"⟩

/-- What `DoResponseAction` sends with free hands. -/
def response (actionName : String) : Motion := ⟨.doResponseAction, actionName⟩

end Motion

def responseNames : List String := ["wave", "shake", "t_pose", "home"]

theorem response_ne_release {name : String} (hname : name ∈ responseNames) :
    Motion.response name ≠ .release := by
  intro heq
  have hready : name = "ready" := congrArg Motion.actionName heq
  subst hready
  exact absurd hname (by decide)

theorem response_ne_bottomGrasp (name : String) : Motion.response name ≠ .bottomGrasp := by
  intro heq
  have hclient : Node.doResponseAction = .goGrasp := congrArg Motion.client heq
  cases hclient

-- ============================================================================
-- The machine
-- ============================================================================

inductive Phase where
  /-- no box, and none is being taken -/
  | free
  /-- an approach is under way -/
  | approaching
  /-- the grasp has been commanded in the last tick -/
  | grasped
  /-- the box is held -/
  | holding
  /-- the release motion has been commanded -/
  | releasing
deriving DecidableEq, Repr

/-- What the blackboard says about the box. -/
def Phase.hasBox : Phase → String
  | .free => "no"
  | .approaching => "no"
  | .grasped => "yes"
  | .holding => "yes"
  | .releasing => "yes"

/-- One tick as the machine sees it. -/
structure Observation where
  /-- an object can be grasped and the robot is free to do so -/
  gateOpen : Bool
  /-- `DoResponseAction` was told that the last motion is finished -/
  finished : Bool
  /-- somebody who is looking at the robot asks for the box -/
  asked : Bool
  motions : List Motion
deriving DecidableEq, Repr

inductive Phase.Step : Phase → Observation → Phase → Prop where
  | start {asked : Bool} :
      Step .free ⟨true, false, asked, [.ready]⟩ .approaching
  | rest {finished asked : Bool} :
      Step .free ⟨false, finished, asked, []⟩ .free
  | respond {asked : Bool} {name : String} (hname : name ∈ responseNames) :
      Step .free ⟨false, true, asked, [.response name]⟩ .free
  | wait {asked : Bool} :
      Step .approaching ⟨true, false, asked, []⟩ .approaching
  | grasp {asked : Bool} :
      Step .approaching ⟨true, false, asked, [.bottomGrasp]⟩ .grasped
  | abort {finished asked : Bool} :
      Step .approaching ⟨false, finished, asked, [.abort]⟩ .free
  | abortRespond {asked : Bool} {name : String} (hname : name ∈ responseNames) :
      Step .approaching ⟨false, true, asked, [.abort, .response name]⟩ .free
  | hold {p : Phase} {finished asked : Bool} (hp : p = .grasped ∨ p = .holding) :
      Step p ⟨false, finished, asked, []⟩ .holding
  | release {p : Phase} (hp : p = .grasped ∨ p = .holding) :
      Step p ⟨false, true, true, [.release]⟩ .releasing
  | keep {asked : Bool} :
      Step .releasing ⟨false, false, asked, []⟩ .releasing
  | putDown {asked : Bool} :
      Step .releasing ⟨false, true, asked, []⟩ .free

/-- The commands of giving up whatever is under way. -/
def Phase.abort : Phase → List Motion
  | .approaching => [.abort]
  | _ => []

/-- What can be seen of a tick that throws. -/
inductive Phase.Crash : Phase → Observation → Prop where
  /-- a detector threw before anything was commanded -/
  | blind {p : Phase} {asked : Bool} : Crash p ⟨false, false, asked, []⟩
  /-- the position of the human was too short, after an approach was given up -/
  | comeShort {p : Phase} {asked : Bool} :
      Crash p ⟨false, true, asked, p.abort⟩

def protocol : System Phase Observation where
  start := .free
  Step := Phase.Step

/-- All motion commands of a history. -/
def commands (os : List Observation) : List Motion :=
  os.flatMap Observation.motions

@[simp] theorem commands_nil : commands [] = [] := rfl

@[simp] theorem commands_concat (os : List Observation) (o : Observation) :
    commands (os ++ [o]) = commands os ++ o.motions := by
  simp [commands]

variable {os : List Observation} {o : Observation} {p p' : Phase}

-- ============================================================================
-- Steps
-- ============================================================================

namespace Phase.Step

/-- With the box in its hands the robot is commanded to release it, or nothing. -/
theorem held (h : p.Step o p') (hp : p.hasBox = "yes") : ∀ x ∈ o.motions, x = .release := by
  cases h <;> simp_all [Phase.hasBox]

/-- The box is put down by a tick that is told that the release is finished. -/
theorem putDown_inv (h : p.Step o p') (hp : p.hasBox = "yes") (hp' : p'.hasBox = "no") :
    p = .releasing ∧ o.finished = true ∧ o.motions = [] := by
  cases h <;> simp_all [Phase.hasBox]

/-- A release is commanded with the box in the hands. -/
theorem held_of_release (h : p.Step o p') (hrelease : o.motions = [.release]) :
    p.hasBox = "yes" := by
  cases h with
  | release hp => rcases hp with rfl | rfl <;> rfl
  | respond hname => exact absurd (List.singleton_inj.mp hrelease) (response_ne_release hname)
  | _ => simp [Motion.ready, Motion.bottomGrasp, Motion.abort, Motion.release] at hrelease

theorem ready_iff (h : p.Step o p') :
    .ready ∈ o.motions ↔ o.gateOpen = true ∧ p ≠ .approaching := by
  cases h with
  | hold hp => rcases hp with rfl | rfl <;> simp
  | release hp => rcases hp with rfl | rfl <;> simp [Motion.ready, Motion.release]
  | _ => simp [Motion.ready, Motion.bottomGrasp, Motion.abort, Motion.response]

theorem abort_iff (h : p.Step o p') :
    .abort ∈ o.motions ↔ o.gateOpen = false ∧ p = .approaching := by
  cases h with
  | hold hp => rcases hp with rfl | rfl <;> simp
  | release hp => rcases hp with rfl | rfl <;> simp [Motion.abort, Motion.release]
  | _ => simp [Motion.ready, Motion.bottomGrasp, Motion.abort, Motion.response]

theorem abort_count (h : p.Step o p') : o.motions.count .abort ≤ 1 := by
  cases h <;> simp [Motion.ready, Motion.bottomGrasp, Motion.abort, Motion.response,
    Motion.release]

/-- The grasp is the step that fills the hands. -/
theorem grasp_iff (h : p.Step o p') :
    .bottomGrasp ∈ o.motions ↔ p.hasBox = "no" ∧ p'.hasBox = "yes" := by
  cases h with
  | hold hp => rcases hp with rfl | rfl <;> simp [Phase.hasBox]
  | release hp =>
      rcases hp with rfl | rfl <;> simp [Phase.hasBox, Motion.bottomGrasp, Motion.release]
  | _ =>
      simp [Phase.hasBox, Motion.ready, Motion.bottomGrasp, Motion.abort, Motion.response]

theorem open_of_grasp (h : p.Step o p') (hgrasp : .bottomGrasp ∈ o.motions) :
    o.gateOpen = true ∧ p = .approaching := by
  cases h <;> simp_all [Motion.ready, Motion.bottomGrasp, Motion.abort, Motion.response,
    Motion.release]

end Phase.Step

/-- What a crash shows: nothing, or an approach given up. -/
theorem Phase.Crash.seen (h : p.Crash o) :
    o.gateOpen = false ∧ (o.motions = [] ∨ (p = .approaching ∧ o.motions = [.abort])) := by
  cases h with
  | blind => exact ⟨rfl, Or.inl rfl⟩
  | comeShort =>
      cases p with
      | approaching => exact ⟨rfl, Or.inr ⟨rfl, rfl⟩⟩
      | _ => exact ⟨rfl, Or.inl rfl⟩

theorem Phase.Crash.held (h : p.Crash o) (hp : p.hasBox = "yes") : o.motions = [] := by
  rcases h.seen.2 with hnone | ⟨rfl, -⟩
  · exact hnone
  · exact absurd hp (by decide)

theorem Phase.Crash.motion (h : p.Crash o) {x : Motion} (hx : x ∈ o.motions) :
    x = .abort ∧ p = .approaching ∧ o.motions = [.abort] := by
  rcases h.seen.2 with hnone | ⟨hp, habort⟩
  · simp [hnone] at hx
  · rw [habort] at hx
    exact ⟨List.mem_singleton.mp hx, hp, habort⟩

-- ============================================================================
-- The commands of GoGrasp
-- ============================================================================

def graspCommands (l : List Motion) : List Motion :=
  l.filter fun x => x.client = .goGrasp

@[simp] theorem graspCommands_append (l₁ l₂ : List Motion) :
    graspCommands (l₁ ++ l₂) = graspCommands l₁ ++ graspCommands l₂ := by
  simp [graspCommands]

/-- `(ready (home | bottom_grasp))*` -/
def graspLanguage : Language Motion :=
  ({[Motion.ready]} * ({[Motion.abort]} + {[Motion.bottomGrasp]}))∗

/-- `GoGrasp` has sent `ready`, and nothing since. -/
def underWay (l : List Motion) : Bool :=
  (graspCommands l).getLast? = some .ready

theorem graspLanguage_nil : [] ∈ graspLanguage :=
  Language.nil_mem_kstar _

/-- A word of the language can be followed by one more approach. -/
theorem graspLanguage_append {w : List Motion} {x : Motion} (hw : w ∈ graspLanguage)
    (hx : x = .abort ∨ x = .bottomGrasp) : w ++ [.ready, x] ∈ graspLanguage := by
  have hround : [Motion.ready, x] ∈
      ({[Motion.ready]} * ({[Motion.abort]} + {[Motion.bottomGrasp]}) : Language Motion) := by
    refine Language.mem_mul.mpr ⟨[.ready], rfl, [x], ?_, rfl⟩
    rcases hx with rfl | rfl
    · exact Or.inl rfl
    · exact Or.inr rfl
  obtain ⟨ws, rfl, hws⟩ := Language.mem_kstar.mp hw
  refine Language.mem_kstar.mpr ⟨ws ++ [[.ready, x]], by simp, ?_⟩
  intro y hy
  rcases List.mem_append.mp hy with hy | hy
  · exact hws y hy
  · rw [List.mem_singleton.mp hy]
    exact hround

/-- What `GoGrasp` sends in a step, by how the approach goes on. -/
theorem Phase.Step.graspCommands (h : p.Step o p') :
    (p ≠ .approaching ∧ p' ≠ .approaching ∧ ErgoCubBehavior.graspCommands o.motions = []) ∨
    (p ≠ .approaching ∧ p' = .approaching ∧
      ErgoCubBehavior.graspCommands o.motions = [.ready]) ∨
    (p = .approaching ∧ p' = .approaching ∧
      ErgoCubBehavior.graspCommands o.motions = []) ∨
    (p = .approaching ∧ p' ≠ .approaching ∧ ∃ x, (x = .abort ∨ x = .bottomGrasp) ∧
      ErgoCubBehavior.graspCommands o.motions = [x]) := by
  cases h with
  | start => exact Or.inr (Or.inl ⟨by decide, rfl, rfl⟩)
  | rest => exact Or.inl ⟨by decide, by decide, rfl⟩
  | respond => exact Or.inl ⟨by decide, by decide, rfl⟩
  | wait => exact Or.inr (Or.inr (Or.inl ⟨rfl, rfl, rfl⟩))
  | grasp => exact Or.inr (Or.inr (Or.inr ⟨rfl, by decide, _, Or.inr rfl, rfl⟩))
  | abort => exact Or.inr (Or.inr (Or.inr ⟨rfl, by decide, _, Or.inl rfl, rfl⟩))
  | abortRespond => exact Or.inr (Or.inr (Or.inr ⟨rfl, by decide, _, Or.inl rfl, rfl⟩))
  | hold hp => exact Or.inl ⟨by rcases hp with rfl | rfl <;> decide, by decide, rfl⟩
  | release hp => exact Or.inl ⟨by rcases hp with rfl | rfl <;> decide, by decide, rfl⟩
  | keep => exact Or.inl ⟨by decide, by decide, rfl⟩
  | putDown => exact Or.inl ⟨by decide, by decide, rfl⟩

theorem graspCommands_run (hrun : Run protocol os p) :
    ∃ w ∈ graspLanguage,
      graspCommands (commands os) = w ++ if p = .approaching then [.ready] else [] := by
  refine hrun.history ⟨[], graspLanguage_nil, rfl⟩ ?_
  rintro os p o p' - ⟨w, hw, hsent⟩ hstep
  rw [commands_concat, graspCommands_append, hsent]
  obtain ⟨hp, hp', hnone⟩ | ⟨hp, rfl, hready⟩ | ⟨rfl, rfl, hnone⟩ | ⟨rfl, hp', x, hx, hend⟩ :=
    Phase.Step.graspCommands hstep
  · exact ⟨w, hw, by simp [hp, hp', hnone]⟩
  · exact ⟨w, hw, by simp [hp, hready]⟩
  · exact ⟨w, hw, by simp [hnone]⟩
  · exact ⟨w ++ [.ready, x], graspLanguage_append hw hx, by simp [hp', hend]⟩

/-- So the commands of `GoGrasp` begin a word of the language, -/
theorem graspCommands_word (hrun : Run protocol os p) :
    ∃ w ∈ graspLanguage, graspCommands (commands os) <+: w := by
  obtain ⟨w, hw, hsent⟩ := graspCommands_run hrun
  rw [hsent]
  split_ifs
  · refine ⟨w ++ [.ready, .abort], graspLanguage_append hw (Or.inl rfl), [.abort], ?_⟩
    rw [List.append_assoc]
    rfl
  · exact ⟨w, hw, by simp⟩

/-- also when a last tick throws. -/
theorem graspCommands_crash (hrun : Run protocol os p) (hcrash : p.Crash o) :
    ∃ w ∈ graspLanguage, graspCommands (commands os ++ o.motions) <+: w := by
  rcases hcrash.seen.2 with hnone | ⟨rfl, habort⟩
  · rw [hnone, List.append_nil]
    exact graspCommands_word hrun
  · obtain ⟨w, hw, hsent⟩ := graspCommands_run hrun
    refine ⟨w ++ [.ready, .abort], graspLanguage_append hw (Or.inl rfl), ?_⟩
    rw [graspCommands_append, hsent, habort, if_pos rfl, List.append_assoc]
    exact List.prefix_rfl

/-- An approach is under way exactly when `ready` is the last command of
    `GoGrasp`. -/
theorem underWay_run (hrun : Run protocol os p) :
    underWay (commands os) = true ↔ p = .approaching := by
  simp only [underWay, decide_eq_true_eq]
  refine hrun.history (by simp [graspCommands, protocol]) ?_
  intro os p o p' _ hway hstep
  rw [commands_concat, graspCommands_append]
  obtain ⟨hp, hp', hnone⟩ | ⟨hp, rfl, hready⟩ | ⟨rfl, rfl, hnone⟩ | ⟨rfl, hp', x, hx, hend⟩ :=
    Phase.Step.graspCommands hstep
  · rw [hnone, List.append_nil]
    simp [hway, hp, hp']
  · simp [hready]
  · rw [hnone, List.append_nil]
    simp [hway]
  · rcases hx with rfl | rfl <;> simp [hend, hp', Motion.ready, Motion.abort, Motion.bottomGrasp]

/-- While an approach is under way, every tick since its `ready` had an open
    gate. -/
theorem approach_run (hrun : Run protocol os .approaching) :
    ∃ os₁ r os₂, os = os₁ ++ r :: os₂ ∧ Motion.ready ∈ r.motions ∧
      ∀ x ∈ os₂, x.gateOpen = true := by
  refine hrun.since_entry (· = .approaching) (by decide) ?_ rfl
  rintro q o q' hstep rfl
  cases (hstep : Phase.Step q o .approaching) with
  | start => exact Or.inl (by simp)
  | wait => exact Or.inr ⟨rfl, rfl⟩

-- ============================================================================
-- Giving the box back
-- ============================================================================

/-- While a release is in progress, nothing has been commanded and no motion
    reported finished since the release motion. -/
theorem release_run (hrun : Run protocol os .releasing) :
    ∃ os₁ r os₂, os = os₁ ++ r :: os₂ ∧
      (r.motions = [.release] ∧ r.finished = true ∧ r.asked = true) ∧
      ∀ x ∈ os₂, x.motions = [] ∧ x.finished = false := by
  refine hrun.since_entry (· = .releasing) (by decide) ?_ rfl
  rintro q o q' hstep rfl
  cases (hstep : Phase.Step q o .releasing) with
  | release => exact Or.inl ⟨rfl, rfl, rfl⟩
  | keep => exact Or.inr ⟨rfl, rfl, rfl⟩

/-- The commands sent since the box was last grasped. -/
def sinceGrasp (l : List Motion) : List Motion :=
  since (fun x => x = .bottomGrasp) l

/-- Commands other than a grasp are commands since the last grasp. -/
theorem sinceGrasp_append {l₁ l₂ : List Motion} (h : Motion.bottomGrasp ∉ l₂) :
    sinceGrasp (l₁ ++ l₂) = sinceGrasp l₁ ++ l₂ := by
  refine since_append_unmarked fun x hx => decide_eq_false ?_
  rintro rfl
  exact h hx

theorem sinceGrasp_grasp (l : List Motion) : sinceGrasp (l ++ [.bottomGrasp]) = [] :=
  since_concat_mark (by simp)

/-- How often the box that was grasped last has been released. -/
def Phase.released : Phase → Nat
  | .grasped => 0
  | .holding => 0
  | .releasing => 1
  | .free => 1
  | .approaching => 1

/-- Every step but the grasp leaves the box where it is, or gives it back. -/
theorem Phase.Step.hands (h : p.Step o p') :
    (o.motions = [.bottomGrasp] ∧ p.released = 1 ∧ p'.released = 0) ∨
    (Motion.bottomGrasp ∉ o.motions ∧ (p'.hasBox = "yes" → p.hasBox = "yes") ∧
      p'.released = p.released + o.motions.count .release) := by
  cases h with
  | grasp => exact Or.inl ⟨rfl, rfl, rfl⟩
  | start => exact Or.inr ⟨by simp [Motion.ready, Motion.bottomGrasp], by decide, rfl⟩
  | rest => exact Or.inr ⟨by simp, by decide, rfl⟩
  | wait => exact Or.inr ⟨by simp, by decide, rfl⟩
  | abort => exact Or.inr ⟨by simp [Motion.abort, Motion.bottomGrasp], by decide, rfl⟩
  | keep => exact Or.inr ⟨by simp, by decide, rfl⟩
  | putDown => exact Or.inr ⟨by simp, by decide, rfl⟩
  | hold hp => rcases hp with rfl | rfl <;> exact Or.inr ⟨by simp, by decide, rfl⟩
  | release hp =>
      rcases hp with rfl | rfl <;>
        exact Or.inr ⟨by simp [Motion.release, Motion.bottomGrasp], by decide, rfl⟩
  | @respond _ name hname =>
      refine Or.inr ⟨by simp [(response_ne_bottomGrasp name).symm], by decide, ?_⟩
      simp [(response_ne_release hname)]
  | @abortRespond _ name hname =>
      refine Or.inr ⟨?_, by decide, ?_⟩
      · have habort : Motion.bottomGrasp ≠ .abort := by decide
        simp [(response_ne_bottomGrasp name).symm, habort]
      · have habort : Motion.abort ≠ .release := by decide
        simp [response_ne_release hname, habort, Phase.released]

/-- A box that is held has been grasped, and since it was grasped it has been
    released once if it is being given back, and not at all before. -/
theorem hands_run (hrun : Run protocol os p) :
    (p.hasBox = "yes" → Motion.bottomGrasp ∈ commands os) ∧
    (Motion.bottomGrasp ∈ commands os →
      (sinceGrasp (commands os)).count .release = p.released) := by
  refine hrun.history ⟨by decide, by simp⟩ ?_
  rintro os p o p' - ⟨hheld, hcount⟩ hstep
  rw [commands_concat]
  obtain ⟨hgrasp, -, hnone⟩ | ⟨hother, hbox, hsum⟩ := Phase.Step.hands hstep
  · rw [hgrasp, sinceGrasp_grasp, hnone]
    simp
  · rw [sinceGrasp_append hother, List.count_append, hsum]
    refine ⟨fun hyes => List.mem_append_left _ (hheld (hbox hyes)), fun hmem => ?_⟩
    rw [hcount ((List.mem_append.mp hmem).resolve_right hother)]

/-- Between two grasps the box is released exactly once. -/
theorem grasps_run (hrun : Run protocol os p) :
    EachBetween (fun x => x = .bottomGrasp) (fun l => l.count .release = 1) (commands os) := by
  refine hrun.history eachBetween_nil fun os p o p' hpath hgrasps hstep => ?_
  rw [commands_concat]
  obtain ⟨hgrasp, hone, -⟩ | ⟨hother, -, -⟩ := Phase.Step.hands hstep
  · rw [hgrasp]
    refine eachBetween_concat hgrasps fun _ hearlier => ?_
    obtain ⟨x, hx, hmark⟩ := hearlier
    rw [of_decide_eq_true hmark] at hx
    rw [← hone]
    exact (hands_run hpath).2 hx
  · refine eachBetween_append_unmarked hgrasps fun x hx => decide_eq_false ?_
    rintro rfl
    exact hother hx

end ErgoCubBehavior
