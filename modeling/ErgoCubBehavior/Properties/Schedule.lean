/-
  ErgoCubBehavior.Properties.Schedule

  Whom a tick calls, and in which order.

  * `tick_schedule`  — the calls of a tick stand in one of three schedules, so that `Env`
    needs no more answers than it has;
  * `pose_published` — the position of a human is published when they say `come`, where
    they stand in that tick.
-/

import ErgoCubBehavior.Protocol.Refinement

namespace ErgoCubBehavior

open BehaviorTree Transition

variable {env : Env} {a : Activity} {m : Memory} {hasBox : String} {t : TickRecord} {poi : Poi}

-- ============================================================================
-- Calls
-- ============================================================================

/-- A call of a service, without what is asked and answered. -/
inductive ServiceCall where
  | readNavigation | getCenter | getFacePosition | getDistance | isFocused | getAction
  | getHumanPosition | writePose | lookAt | setGain | setEmotion
  | isFinished (client : Node)
  | performJointSpaceAction (client : Node)
deriving DecidableEq, Repr

def Event.call? : Event → Option ServiceCall
  | .readNavigation _ => some .readNavigation
  | .getCenter _ => some .getCenter
  | .getFacePosition _ => some .getFacePosition
  | .getDistance _ => some .getDistance
  | .isFocused _ => some .isFocused
  | .getAction _ => some .getAction
  | .getHumanPosition _ => some .getHumanPosition
  | .writePose _ => some .writePose
  | .lookAt .. => some .lookAt
  | .setGain .. => some .setGain
  | .setEmotion .. => some .setEmotion
  | .isFinished client _ => some (.isFinished client)
  | .performJointSpaceAction client .. => some (.performJointSpaceAction client)
  | _ => none

/-- The calls of a trace, in order. -/
def calls (l : List Event) : List ServiceCall :=
  l.filterMap Event.call?

@[simp] theorem calls_nil : calls [] = [] := rfl

@[simp] theorem calls_cons (e : Event) (l : List Event) :
    calls (e :: l) = e.call?.toList ++ calls l := by
  cases h : e.call? <;> simp [calls, h]

@[simp] theorem calls_append (l₁ l₂ : List Event) : calls (l₁ ++ l₂) = calls l₁ ++ calls l₂ := by
  simp [calls]

-- ============================================================================
-- Schedules
-- ============================================================================

/-- The calls of a tick up to the grasp gate. -/
def perceptionCalls : List ServiceCall :=
  [.readNavigation, .getCenter, .getFacePosition, .setGain, .lookAt, .setEmotion, .getDistance]

/-- An approach that is under way, or just begun. -/
def waitSchedule : List ServiceCall :=
  perceptionCalls ++ [.isFinished .goGrasp, .isFinished .goGrasp]

def graspSchedule : List ServiceCall :=
  perceptionCalls ++ [.isFinished .goGrasp, .performJointSpaceAction .goGrasp]

/-- An approach is given up, and the human is answered. -/
def responseSchedule : List ServiceCall :=
  perceptionCalls ++ [.performJointSpaceAction .goGrasp, .isFocused, .getAction,
    .isFinished .doResponseAction, .getHumanPosition, .writePose,
    .performJointSpaceAction .doResponseAction]

def schedules : List (List ServiceCall) := [waitSchedule, graspSchedule, responseSchedule]

section Parts

variable (env a m hasBox poi)

theorem calls_selectionEvents (b : Option String) :
    (calls (selectionEvents env b)).Sublist [.getCenter, .getFacePosition] := by
  have hface : calls (faceSelectionEvents env) = [.getFacePosition] := by
    unfold faceSelectionEvents
    cases sighting env.getFacePosition <;> rfl
  unfold selectionEvents
  split_ifs
  · cases sighting env.getCenter with
    | absent => simp [Event.call?, hface]
    | _ => simp [Event.call?]
  · simp [Event.call?, hface]

theorem calls_gazeEvents (n : RobotLookAtPOI) :
    (calls (gazeEvents env n poi)).Sublist [.setGain, .lookAt] := by
  have hgain : (calls (n.gainEvents env poi.name)).Sublist [.setGain] := by
    unfold RobotLookAtPOI.gainEvents
    split_ifs <;> simp [Event.call?]
  have hrest : (calls (n.restEvents env)).Sublist [.lookAt] := by
    unfold RobotLookAtPOI.restEvents
    split_ifs <;> simp [Event.call?]
  have hlook : ∀ p : List Binary64.Double,
      (calls [.getInputVector .robotLookAtPOI .thePoiPos (some p), .lookAt p env.lookAt]).Sublist
        [.lookAt] := fun p => List.Sublist.refl _
  rw [gazeEvents, calls_cons, calls_append]
  cases poi with
  | none => exact hgain.append hrest
  | face p => exact hgain.append (hlook p)
  | object p => exact hgain.append (hlook p)

theorem calls_emotionEvents (n : RobotChangeFace) (poi : String) :
    (calls (n.emotionEvents env poi hasBox)).Sublist [.setEmotion] := by
  unfold RobotChangeFace.emotionEvents
  cases n.emotionFor poi hasBox <;> simp [Event.call?]

theorem calls_gateEvents (poi : String) : (calls (gateEvents env poi)).Sublist [.getDistance] := by
  unfold gateEvents
  split_ifs <;> simp [Event.call?]

theorem calls_haltEvents (k : Nat) :
    (calls (a.haltEvents env k)).Sublist [.performJointSpaceAction .goGrasp] := by
  match a with
  | .idle => simp [Activity.haltEvents]
  | .running false => simp [Activity.haltEvents, GoGrasp.haltEvents, Event.call?]
  | .running true => simp [Activity.haltEvents, GoGrasp.haltEvents, Event.call?]

theorem calls_respondEvents (n : DoResponseAction) (human : List Binary64.Double) :
    (calls (respondEvents env a n hasBox human)).Sublist
      [.getHumanPosition, .writePose, .performJointSpaceAction .doResponseAction] := by
  have hcome : (calls (DoResponseAction.comeEvents env env.getAction human)).Sublist
      [.getHumanPosition, .writePose] := by
    unfold DoResponseAction.comeEvents
    split_ifs <;> simp [Event.call?]
  have hconfirm : calls (DoResponseAction.confirmEvents n hasBox .theHasBox) = [] := by
    unfold DoResponseAction.confirmEvents
    split_ifs <;> rfl
  have hsend : ∀ k, (calls (n.sendEvents env env.getAction env.focus hasBox k)).Sublist
      [.performJointSpaceAction .doResponseAction] := by
    intro k
    unfold DoResponseAction.sendEvents
    cases n.command env.getAction env.focus hasBox <;> simp [Event.call?]
  rw [respondEvents, calls_append, calls_append, hconfirm, List.nil_append]
  exact hcome.append (hsend _)

theorem calls_perceptionEvents : (calls (perceptionEvents env m poi hasBox)).Sublist
    [.readNavigation, .getCenter, .getFacePosition, .setGain, .lookAt, .setEmotion] := by
  have hselection := calls_selectionEvents env (some hasBox)
  have hgaze := calls_gazeEvents env poi m.robotLookAtPOI
  have hface := calls_emotionEvents env hasBox m.robotChangeFace poi.name
  rw [perceptionEvents, calls_cons, calls_append, calls_append]
  exact (hselection.append (hgaze.append hface)).cons_cons _

theorem calls_openEvents : (calls (openEvents env m poi hasBox)).Sublist perceptionCalls := by
  have hperception := calls_perceptionEvents env m hasBox poi
  have hgate := calls_gateEvents env poi.name
  rw [openEvents, calls_append, calls_append]
  exact hperception.append (hgate.append (List.nil_sublist []))

/-- Nobody is asked anything of `DoResponseAction` before it is ticked. -/
theorem calls_closedEvents : (calls (closedEvents env a m poi hasBox)).Sublist
    (perceptionCalls ++ [.performJointSpaceAction .goGrasp, .isFocused, .getAction]) := by
  have hperception := calls_perceptionEvents env m hasBox poi
  have hgate := calls_gateEvents env poi.name
  have hhalt := calls_haltEvents env a 0
  rw [closedEvents, calls_append, calls_append, calls_append]
  exact hperception.append (hgate.append (hhalt.append (List.Sublist.refl _)))

variable {l : List Event}

theorem calls_answer {b : Bool} (hl : (calls l).Sublist
      [.getHumanPosition, .writePose, .performJointSpaceAction .doResponseAction]) :
    (calls (closedEvents env a m poi hasBox ++
      (inputEvents env hasBox ++ .isFinished .doResponseAction b :: l))).Sublist
      responseSchedule := by
  have hanswer : (calls (inputEvents env hasBox ++ .isFinished .doResponseAction b :: l)).Sublist
      [.isFinished .doResponseAction, .getHumanPosition, .writePose,
        .performJointSpaceAction .doResponseAction] := by
    rw [calls_append, calls_cons]
    exact hl.cons_cons _
  rw [calls_append]
  exact (calls_closedEvents env a m hasBox poi).append hanswer

theorem calls_navigation {status : Option Int} (hl : (calls l).Sublist responseSchedule.tail) :
    (calls (.readNavigation status :: l)).Sublist responseSchedule := by
  rw [calls_cons]
  exact hl.cons_cons _

theorem calls_grasp {w : List ServiceCall} (hl : (calls l).Sublist w) :
    (calls (openEvents env m poi hasBox ++ l)).Sublist (perceptionCalls ++ w) := by
  rw [calls_append]
  exact (calls_openEvents env m hasBox poi).append hl

end Parts

/-- The calls of a tick stand in one of the schedules. -/
theorem TickCase.scheduled (hcase : TickCase env a m hasBox t) :
    ∃ w ∈ schedules, (calls t.trace).Sublist w := by
  have hresponse : responseSchedule ∈ schedules := by simp [schedules]
  have hgrasp : graspSchedule ∈ schedules := by simp [schedules]
  have hwait : waitSchedule ∈ schedules := by simp [schedules]
  cases hcase with
  | navigating =>
      exact ⟨_, hresponse, calls_navigation ((calls_haltEvents env a 0).trans (by decide))⟩
  | blind =>
      exact ⟨_, hresponse,
        calls_navigation ((calls_selectionEvents env (some hasBox)).trans (by decide))⟩
  | start => exact ⟨_, hgrasp, calls_grasp env m hasBox _ ((List.Sublist.refl _).cons _)⟩
  | grasp => exact ⟨_, hgrasp, calls_grasp env m hasBox _ (List.Sublist.refl _)⟩
  | wait => exact ⟨_, hwait, calls_grasp env m hasBox _ (List.Sublist.refl _)⟩
  | unfinished => exact ⟨_, hresponse, calls_answer env a m hasBox _ (List.nil_sublist _)⟩
  | respond =>
      exact ⟨_, hresponse, calls_answer env a m hasBox _ (calls_respondEvents env a hasBox _ _)⟩
  | comeShort =>
      exact ⟨_, hresponse, calls_answer env a m hasBox _ ((List.nil_sublist _).cons_cons _)⟩

-- ============================================================================
-- What a schedule allows
-- ============================================================================

theorem count_schedule {w : List ServiceCall} (hw : w ∈ schedules) {c : ServiceCall}
    (hc : c ≠ .isFinished .goGrasp) : w.count c ≤ 1 := by
  have honce : ∀ w ∈ schedules, ((w.erase (.isFinished .goGrasp)).erase
      (.isFinished .goGrasp)).Nodup := by
    decide
  have hcount := List.nodup_iff_count_le_one.mp (honce w hw) c
  rwa [List.count_erase_of_ne hc, List.count_erase_of_ne hc] at hcount

def ServiceCall.isFinished? : ServiceCall → Bool
  | .isFinished _ => true
  | _ => false

def ServiceCall.performJointSpaceAction? : ServiceCall → Bool
  | .performJointSpaceAction _ => true
  | _ => false

theorem finishedCalls_calls (l : List Event) :
    finishedCalls l = (calls l).countP ServiceCall.isFinished? := by
  rw [calls, List.countP_filterMap, finishedCalls]
  congr 1
  funext e
  cases e <;> rfl

theorem motionCalls_calls (l : List Event) :
    motionCalls l = (calls l).countP ServiceCall.performJointSpaceAction? := by
  rw [calls, List.countP_filterMap, motionCalls]
  congr 1
  funext e
  cases e <;> rfl

/-- What every tick keeps to, also one that throws. -/
structure Scheduled (t : TickRecord) : Prop where
  /-- the calls come in the order of a schedule -/
  order : ∃ w ∈ schedules, (calls t.trace).Sublist w
  /-- only `GoGrasp` asks twice -/
  once : ∀ c, c ≠ .isFinished .goGrasp → (calls t.trace).count c ≤ 1
  /-- so an answer for each call of the manipulation server, and a second one, are enough -/
  finished : finishedCalls t.trace ≤ 2
  motions : motionCalls t.trace ≤ 2

variable {h : List TickRecord} {s : State}

/-- Whatever the services answer, the ticks of a run call them in the order of a schedule. -/
theorem tick_schedule (hrun : ErgoCubBehavior.Run h s) (env : Env) :
    Scheduled (tickRoot env s) := by
  obtain ⟨p, -, hphase⟩ := ErgoCubBehavior.Run.protocol hrun
  obtain ⟨w, hw, horder⟩ := (hphase.cases env).scheduled
  have hfinished : ∀ w ∈ schedules, w.countP ServiceCall.isFinished? ≤ 2 := by decide
  have hmotions : ∀ w ∈ schedules, w.countP ServiceCall.performJointSpaceAction? ≤ 2 := by decide
  refine ⟨⟨w, hw, horder⟩, fun c hc => ?_, ?_, ?_⟩
  · exact Nat.le_trans (horder.count_le c) (count_schedule hw hc)
  · rw [finishedCalls_calls]
    exact Nat.le_trans horder.countP_le (hfinished w hw)
  · rw [motionCalls_calls]
    exact Nat.le_trans horder.countP_le (hmotions w hw)

/-- An approach is given up for somebody who waves. -/
theorem tick_schedule_abort :
    Scheduled (tickRoot (Env.alone.human "wave") (reached [Env.alone.object])) :=
  tick_schedule (run_history _) _

-- ============================================================================
-- The position of a human
-- ============================================================================

theorem mem_respondEvents {n : DoResponseAction} {point human : List Binary64.Double} :
    .writePose point ∈ respondEvents env a n hasBox human ↔
      env.getAction = "come" ∧ point = human := by
  have hsend : ∀ k, Event.writePose point ∉
      n.sendEvents env env.getAction env.focus hasBox k := by
    intro k
    unfold DoResponseAction.sendEvents
    cases n.command env.getAction env.focus hasBox <;> simp
  have hconfirm : Event.writePose point ∉ n.confirmEvents hasBox .theHasBox := by
    unfold DoResponseAction.confirmEvents
    split_ifs <;> simp
  have hcome : .writePose point ∈ DoResponseAction.comeEvents env env.getAction human ↔
      env.getAction = "come" ∧ point = human := by
    unfold DoResponseAction.comeEvents
    split_ifs with hcome <;> simp [hcome]
  rw [respondEvents, List.mem_append, List.mem_append, hcome]
  exact or_iff_left fun h => h.elim hconfirm (hsend _)

/-- What a tick sees when it answers the human: it selects a point of interest, keeps the
    grasp gate closed, and finds the last motion finished. -/
structure Env.Answers (env : Env) (hasBox : Option String) : Prop where
  closed : ∃ poi, env.selected hasBox = some poi ∧ graspGate env poi.name = false
  finished : env.isFinished 0 = true

theorem Env.Answers.intro {env : Env} {hasBox : Option String} {poi : Poi}
    (hnav : env.navigating = false) (hsel : selectPoi env hasBox = .ok poi)
    (hclosed : graspGate env poi.name = false) (hfin : env.isFinished 0 = true) :
    env.Answers hasBox :=
  ⟨⟨poi, selected_of_ok hnav hsel, hclosed⟩, hfin⟩

/-- An object in reach opens the gate. -/
theorem not_answers_of_open {p : List Binary64.Double}
    (hsel : selectPoi env (some hasBox) = .ok (.object p)) (hgrasp : env.graspable = true) :
    ¬ env.Answers (some hasBox) := by
  rintro ⟨⟨poi, hpoi, hclosed⟩, -⟩
  obtain rfl := Except.ok.inj (hsel.symm.trans (selected_eq_some.mp hpoi).2)
  simp [graspGate, Poi.name, hgrasp] at hclosed

/-- What a tick publishes is decided by its answers. -/
theorem TickCase.published (hcase : TickCase env a m hasBox t) (point : List Binary64.Double) :
    .writePose point ∈ t.trace ↔ env.Answers (some hasBox) ∧ env.getAction = "come" ∧
      position env.getHumanPosition = some point := by
  rw [← mem_eventsOf (n := .doResponseAction) rfl]
  cases hcase with
  | navigating hnav =>
      have hno : ¬ env.Answers (some hasBox) := by
        rintro ⟨⟨poi, hpoi, -⟩, -⟩
        simp [selected_of_navigating hnav] at hpoi
      simp [Event.node, hno]
  | blind _ hsel =>
      have hno : ¬ env.Answers (some hasBox) := by
        rintro ⟨⟨poi, hpoi, -⟩, -⟩
        simp [selected_of_error hsel] at hpoi
      simp [Event.node, hno]
  | start _ hsel hgrasp | grasp _ hsel hgrasp | wait _ hsel hgrasp =>
      simp [Event.node, not_answers_of_open hsel hgrasp]
  | unfinished _ _ _ hfin =>
      have hno : ¬ env.Answers (some hasBox) := by
        rintro ⟨-, hfin'⟩
        simp [hfin] at hfin'
      simp [Event.node, inputEvents, DoResponseAction.inputEvents, hno]
  | @respond poi human hnav hsel hclosed hfin hhuman =>
      have hevents : Event.writePose point ∈ respondEvents env a m.doResponseAction hasBox human ↔
          env.getAction = "come" ∧ position env.getHumanPosition = some point := by
        rw [mem_respondEvents]
        refine and_congr_right fun hcome => ?_
        rw [hhuman hcome, Option.some_inj, eq_comm]
      simp [Event.node, inputEvents, DoResponseAction.inputEvents, hevents,
        Env.Answers.intro hnav hsel hclosed hfin]
  | comeShort _ _ _ _ _ hhuman =>
      simp [Event.node, inputEvents, DoResponseAction.inputEvents, hhuman]

/-- In the ticks of a run, also in one that throws, the position of a human is published
    when the human is answered and says `come`, where they stand in that tick, and whether
    or not they look at the robot. -/
theorem pose_published (hrun : ErgoCubBehavior.Run h s) (env : Env)
    (point : List Binary64.Double) :
    .writePose point ∈ (tickRoot env s).trace ↔
      env.Answers s.memory.blackboard.theHasBox ∧ env.getAction = "come" ∧
        position env.getHumanPosition = some point := by
  obtain ⟨p, -, hphase⟩ := ErgoCubBehavior.Run.protocol hrun
  rw [hphase.hasBox]
  exact (hphase.cases env).published point

/-- Somebody who turns away calls the robot. -/
theorem pose_published_averted :
    .writePose [Binary64.Double.one, Binary64.Double.one, Binary64.Double.one] ∈
      (tickRoot { Env.alone with getAction := "come" } initialState).trace :=
  (pose_published (h := []) .nil { Env.alone with getAction := "come" } _).mpr
    ⟨⟨⟨.none, by decide +kernel, by decide +kernel⟩, rfl⟩, rfl, by decide +kernel⟩

end ErgoCubBehavior
