/-
  ErgoCubBehavior.Alone.Gaze

  `RobotLookAtPOI` on its own, over every history of points of interest.

  * `gaze_inv`          — what a tick that returns has read and done;
  * `NodeRun.gazeState` — `none_counter` is the length of the trailing run of `none`,
    `last_poi` says what the tick before has read, and the gain set last fits it;
  * `gaze_of_history`   — gaze and gain as functions of the history.
-/

import ErgoCubBehavior.Robot.NodeLoop
import ErgoCubBehavior.Tick.Nodes

namespace ErgoCubBehavior

open BehaviorTree Binary64 Transition

variable {env : Env} {m m' : Memory} {h : List NodeRecord} {t : NodeRecord}
  {poiEntry : StringEntry} {posEntry : VectorEntry} {poi : String}

-- ============================================================================
-- One tick
-- ============================================================================

theorem gaze_none (hpoi : m.blackboard.get poiEntry = some "none") :
    tickNode (.robotLookAtPOI poiEntry posEntry) env m =
      { before := m, env
        trace := .getInput .robotLookAtPOI poiEntry (some "none") ::
          (RobotLookAtPOI.gainEvents env m.robotLookAtPOI "none" ++
            RobotLookAtPOI.restEvents env m.robotLookAtPOI)
        result := .ok .success
        after := { m with robotLookAtPOI := m.robotLookAtPOI.next "none" } } :=
  tickNode_ok (RobotLookAtPOI.tick_none hpoi)

theorem gaze_poi {v p : List Double} (hpoi : m.blackboard.get poiEntry = some poi)
    (hne : poi ≠ "none") (hpos : m.blackboard.getVector posEntry = some v)
    (hp : position v = some p) :
    tickNode (.robotLookAtPOI poiEntry posEntry) env m =
      { before := m, env
        trace := .getInput .robotLookAtPOI poiEntry (some poi) ::
          (RobotLookAtPOI.gainEvents env m.robotLookAtPOI poi ++
            [.getInputVector .robotLookAtPOI posEntry (some v), .lookAt p env.lookAt])
        result := .ok .success
        after := { m with robotLookAtPOI := m.robotLookAtPOI.next poi } } :=
  tickNode_ok (RobotLookAtPOI.tick_poi hpoi hne hpos hp)

theorem gaze_missing (hpoi : m.blackboard.get poiEntry = none) :
    tickNode (.robotLookAtPOI poiEntry posEntry) env m =
      { before := m, env
        trace := [.getInput .robotLookAtPOI poiEntry none]
        result := .error (.missingRequiredInput "poi")
        after := m } :=
  tickNode_error (RobotLookAtPOI.tick_missing hpoi)

/-- A tick that throws for want of a position has set the gain and the fields. -/
theorem gaze_short (hpoi : m.blackboard.get poiEntry = some poi) (hne : poi ≠ "none")
    (hpos : (m.blackboard.getVector posEntry).bind position = none) :
    tickNode (.robotLookAtPOI poiEntry posEntry) env m =
      { before := m, env
        trace := .getInput .robotLookAtPOI poiEntry (some poi) ::
          (RobotLookAtPOI.gainEvents env m.robotLookAtPOI poi ++
            [.getInputVector .robotLookAtPOI posEntry (m.blackboard.getVector posEntry)])
        result := .error (if (m.blackboard.getVector posEntry).isSome then .outOfBounds
          else .missingRequiredInput "poi_pos")
        after := { m with robotLookAtPOI := m.robotLookAtPOI.next poi } } :=
  tickNode_error (RobotLookAtPOI.tick_short hpoi hne hpos)

/-- A tick that returns has read a point of interest, and a position when it is not
    `none`. -/
theorem gaze_inv {r : TickStatus}
    (hr : (tickNode (.robotLookAtPOI poiEntry posEntry) env m).result = .ok r) :
    ∃ poi, m.blackboard.get poiEntry = some poi ∧
      (poi ≠ "none" → ∃ v p, m.blackboard.getVector posEntry = some v ∧ position v = some p) := by
  cases hpoi : m.blackboard.get poiEntry with
  | none =>
      rw [gaze_missing hpoi] at hr
      cases hr
  | some poi =>
      refine ⟨poi, rfl, fun hne => ?_⟩
      cases hpos : (m.blackboard.getVector posEntry).bind position with
      | none =>
          rw [gaze_short hpoi hne hpos] at hr
          cases hr
      | some p =>
          obtain ⟨v, hv, hp⟩ := Option.bind_eq_some_iff.mp hpos
          exact ⟨v, p, hv, hp⟩

/-- What `last_poi` says after a tick. -/
def tagOf (poi : Option String) : String :=
  if poi = some "none" then "none" else "not none"

/-- The gain that goes with a point of interest. -/
def gainOf (poi : Option String) : Double :=
  if poi = some "none" then RobotLookAtPOI.noneGain else RobotLookAtPOI.poiGain

theorem next_lastPoi (n : RobotLookAtPOI) (poi : String) :
    (n.next poi).lastPoi = tagOf (some poi) := by
  unfold RobotLookAtPOI.next tagOf
  by_cases hnone : poi = "none" <;> simp [hnone]

/-- The gain is set when the tag changes. -/
theorem gains_gainEvents (n : RobotLookAtPOI) (poi : String) :
    gains (n.gainEvents env poi) =
      if n.lastPoi = tagOf (some poi) then [] else [gainOf (some poi)] := by
  unfold RobotLookAtPOI.gainEvents tagOf gainOf
  by_cases hnone : poi = "none"
  · by_cases hlast : n.lastPoi = "none" <;> simp [hnone, hlast, gains]
  · by_cases hlast : n.lastPoi = "not none" <;> simp [hnone, hlast, gains]

theorem setpoints_gainEvents (n : RobotLookAtPOI) :
    setpoints (n.gainEvents env poi) = [] := by
  unfold RobotLookAtPOI.gainEvents
  split_ifs <;> rfl

theorem gains_restEvents (n : RobotLookAtPOI) : gains (n.restEvents env) = [] := by
  unfold RobotLookAtPOI.restEvents
  split_ifs <;> rfl

/-- The fields and the gain after a tick that returns. -/
theorem gaze_step {r : TickStatus}
    (hr : (tickNode (.robotLookAtPOI poiEntry posEntry) env m).result = .ok r) :
    ∃ poi, m.blackboard.get poiEntry = some poi ∧
      (tickNode (.robotLookAtPOI poiEntry posEntry) env m).after.robotLookAtPOI =
        m.robotLookAtPOI.next poi ∧
      gains (tickNode (.robotLookAtPOI poiEntry posEntry) env m).trace =
        gains (m.robotLookAtPOI.gainEvents env poi) := by
  obtain ⟨poi, hpoi, hpos⟩ := gaze_inv hr
  refine ⟨poi, hpoi, ?_⟩
  by_cases hne : poi = "none"
  · subst hne
    rw [gaze_none hpoi]
    refine ⟨rfl, ?_⟩
    show gains (_ ++ _) = _
    rw [gains_append, gains_restEvents, List.append_nil]
  · obtain ⟨v, p, hv, hp⟩ := hpos hne
    rw [gaze_poi hpoi hne hv hp]
    refine ⟨rfl, ?_⟩
    show gains (_ ++ _) = _
    rw [gains_append]
    exact List.append_nil _

-- ============================================================================
-- Histories
-- ============================================================================

/-- The points of interest of a history. -/
def pois (poiEntry : StringEntry) (h : List NodeRecord) : List (Option String) :=
  h.map (NodeRecord.read poiEntry)

/-- Every gain set: by the constructor, then by the ticks. -/
def gainsSet (h : List NodeRecord) : List Double :=
  RobotLookAtPOI.poiGain :: h.flatMap fun t => gains t.trace

/-- The number of ticks since the last point of interest that was not `none`. -/
def nones (ps : List (Option String)) : Nat :=
  (since (fun p => p ≠ some "none") ps).length

@[simp] theorem pois_concat (h : List NodeRecord) (t : NodeRecord) :
    pois poiEntry (h ++ [t]) = pois poiEntry h ++ [t.read poiEntry] := by
  simp [pois]

theorem gainsSet_concat (h : List NodeRecord) (t : NodeRecord) :
    gainsSet (h ++ [t]) = gainsSet h ++ gains t.trace := by
  simp [gainsSet]

theorem nones_none (ps : List (Option String)) : nones (ps ++ [some "none"]) = nones ps + 1 := by
  rw [nones, since_concat_other (by simp), List.length_append]
  rfl

theorem nones_poi {p : Option String} (ps : List (Option String)) (hp : p ≠ some "none") :
    nones (ps ++ [p]) = 0 := by
  rw [nones, since_concat_mark (by simpa using hp)]
  rfl

/-- What the fields of the node say about the history. -/
structure GazeState (poiEntry : StringEntry) (h : List NodeRecord) (n : RobotLookAtPOI) :
    Prop where
  /-- `none_counter` counts, as long as it does not overflow -/
  counter : nones (pois poiEntry h) < 2147483648 → n.noneCounter = nones (pois poiEntry h)
  tag : n.lastPoi = ((pois poiEntry h).getLast?.map tagOf).getD ""
  gain : ∀ p, (pois poiEntry h).getLast? = some p → (gainsSet h).getLast? = some (gainOf p)

/-- Below its bound the counter is incremented like a natural number. -/
theorem increment_nat {k : Nat} (hk : k + 1 < 2147483648) :
    RobotLookAtPOI.increment k = (k + 1 : Nat) := by
  unfold RobotLookAtPOI.increment
  rw [BitVec.toInt_ofInt_eq_self (by decide) (by simp; omega) (by simp; omega)]
  rfl

theorem GazeState.start : GazeState poiEntry [] RobotLookAtPOI.init where
  counter _ := rfl
  tag := rfl
  gain p hp := by simp [pois] at hp

theorem tagOf_ne_empty (p : Option String) : tagOf p ≠ "" := by
  unfold tagOf
  split_ifs <;> decide

/-- Two points of interest have the same tag when both are `none` or neither is. -/
theorem tagOf_eq_iff {p q : Option String} :
    tagOf p = tagOf q ↔ (p = some "none" ↔ q = some "none") := by
  unfold tagOf
  by_cases hp : p = some "none" <;> by_cases hq : q = some "none" <;> simp [hp, hq]

theorem gainOf_congr {p q : Option String} (htag : tagOf p = tagOf q) : gainOf p = gainOf q := by
  unfold gainOf
  simp only [tagOf_eq_iff.mp htag]

namespace GazeState

variable {n : RobotLookAtPOI} (hs : GazeState poiEntry h n)
include hs

/-- The gain is set on the first tick, and then when `none` comes or goes. -/
theorem sets_iff (q : Option String) :
    n.lastPoi ≠ tagOf q ↔
      h = [] ∨ ∃ p, (pois poiEntry h).getLast? = some p ∧
        ¬ (p = some "none" ↔ q = some "none") := by
  rw [hs.tag]
  rcases List.eq_nil_or_concat h with rfl | ⟨h', t, rfl⟩
  · have hne : "" ≠ tagOf q := (tagOf_ne_empty q).symm
    simpa [pois] using hne
  · rw [List.concat_eq_append, pois_concat]
    simp [tagOf_eq_iff]

/-- Once a tick has set the gain, where it has to, the gain fits what it has read. -/
theorem last_gain (poi : String) :
    (gainsSet h ++ gains (n.gainEvents env poi)).getLast? = some (gainOf (some poi)) := by
  rw [gains_gainEvents]
  by_cases hlast : n.lastPoi = tagOf (some poi)
  · rw [if_pos hlast, List.append_nil]
    rw [hs.tag] at hlast
    cases hp : (pois poiEntry h).getLast? with
    | none =>
        rw [hp] at hlast
        exact absurd hlast.symm (tagOf_ne_empty _)
    | some p =>
        rw [hp] at hlast
        rw [hs.gain p hp, gainOf_congr hlast]
  · rw [if_neg hlast, List.getLast?_append]
    rfl

/-- The counter after one more tick. -/
theorem next_counter (poi : String) (hcount : nones (pois poiEntry h ++ [some poi]) < 2147483648) :
    (n.next poi).noneCounter = nones (pois poiEntry h ++ [some poi]) := by
  by_cases hne : poi = "none"
  · subst hne
    rw [nones_none] at hcount ⊢
    have hprev : n.noneCounter = nones (pois poiEntry h) := hs.counter (by omega)
    show RobotLookAtPOI.increment n.noneCounter = _
    rw [hprev, increment_nat hcount]
  · rw [nones_poi _ (by simpa using hne), RobotLookAtPOI.next, if_neg hne]
    rfl

/-- The rest point is looked at from the 13th `none` in a row on. -/
theorem rests_iff (hcount : nones (pois poiEntry h ++ [some "none"]) < 2147483648) :
    RobotLookAtPOI.increment n.noneCounter > 12 ↔
      List.replicate 13 (some "none") <:+ pois poiEntry h ++ [some "none"] := by
  have hcounter : RobotLookAtPOI.increment n.noneCounter =
      nones (pois poiEntry h ++ [some "none"]) := hs.next_counter "none" hcount
  rw [hcounter, replicate_suffix_iff]
  unfold nones at *
  omega

end GazeState

/-- What the fields of the node say is kept by every tick that returns. -/
theorem NodeRun.gazeState (hrun : NodeRun (.robotLookAtPOI poiEntry posEntry) h m) :
    GazeState poiEntry h m.robotLookAtPOI := by
  refine Run.history (motive := fun h m => GazeState poiEntry h m.robotLookAtPOI) hrun
    GazeState.start ?_
  rintro h m t m' - hs ⟨⟨env, board, rfl⟩, ⟨r, hr⟩, rfl⟩
  obtain ⟨poi, hpoi, hafter, hgains⟩ := gaze_step hr
  have hread : (tickNode (.robotLookAtPOI poiEntry posEntry) env
      { m with blackboard := board }).read poiEntry = some poi := by
    rw [NodeRecord.read, tickNode_before]
    exact hpoi
  rw [hafter]
  constructor
  · rw [pois_concat, hread]
    exact hs.next_counter poi
  · rw [pois_concat, hread, List.getLast?_concat]
    exact next_lastPoi _ poi
  · intro p hp
    rw [pois_concat, hread, List.getLast?_concat] at hp
    rw [gainsSet_concat, hgains, ← Option.some.inj hp]
    exact hs.last_gain poi

-- ============================================================================
-- Gaze and gain as functions of the history
-- ============================================================================

theorem mem_gains {l : List Event} :
    (∃ gain answer, .setGain gain answer ∈ l) ↔ gains l ≠ [] := by
  constructor
  · rintro ⟨gain, answer, hmem⟩ hnone
    have hgain : gain ∈ gains l := List.mem_filterMap.mpr ⟨_, hmem, rfl⟩
    rw [hnone] at hgain
    cases hgain
  · intro hsome
    obtain ⟨gain, hgain⟩ := List.exists_mem_of_ne_nil _ hsome
    obtain ⟨e, he, heq⟩ := List.mem_filterMap.mp hgain
    cases e with
    | setGain g answer => exact ⟨g, answer, he⟩
    | _ => cases heq

/-- Where every gain is set before the first look, all of them come before any look. -/
theorem gains_before_look {l₁ l₂ k₁ k₂ : List Event} {point : List Double} {answer : Bool}
    (hl : k₁ ++ k₂ = l₁ ++ .lookAt point answer :: l₂)
    (hlooks : setpoints k₁ = []) (hgains : gains k₂ = []) : gains l₁ = gains k₁ := by
  rcases List.append_eq_append_iff.mp hl with ⟨c, rfl, hk₂⟩ | ⟨c, rfl, hc⟩
  · have hnone : gains c ++ gains (.lookAt point answer :: l₂) = [] := by
      rw [gains, gains, ← List.filterMap_append, ← hk₂]
      exact hgains
    rw [gains, List.filterMap_append, ← gains, ← gains, List.append_eq_nil_iff.mp hnone |>.1,
      List.append_nil]
  · cases c with
    | nil => rw [List.append_nil]
    | cons e c =>
        -- the look would stand among the events of `k₁`
        obtain ⟨rfl, -⟩ := List.cons.inj hc
        rw [setpoints_append] at hlooks
        cases (List.append_eq_nil_iff.mp hlooks).2

/-- What a tick does after the ticks `h`. -/
structure GazeTick (poiEntry : StringEntry) (posEntry : VectorEntry) (h : List NodeRecord)
    (t : NodeRecord) : Prop where
  returns : t.result = .ok .success
  /-- a point of interest is looked at -/
  looks : t.read poiEntry ≠ some "none" →
    setpoints t.trace = (t.before.blackboard.getVector posEntry).toList
  /-- so is the rest point, from the 13th `none` in a row on -/
  rests : t.read poiEntry = some "none" →
    List.replicate 13 (some "none") <:+ pois poiEntry (h ++ [t]) →
    setpoints t.trace = [RobotLookAtPOI.restPoint]
  waits : t.read poiEntry = some "none" →
    ¬ List.replicate 13 (some "none") <:+ pois poiEntry (h ++ [t]) → setpoints t.trace = []
  /-- the gain set last is right whenever the robot is told to look somewhere -/
  gain : ∀ l₁ point answer l₂, t.trace = l₁ ++ .lookAt point answer :: l₂ →
    (gainsSet h ++ gains l₁).getLast? = some (gainOf (t.read poiEntry))
  /-- it is set on the first tick, and then when `none` comes or goes -/
  sets : (∃ gain answer, .setGain gain answer ∈ t.trace) ↔
    h = [] ∨ ∃ p, (pois poiEntry h).getLast? = some p ∧
      ¬ (p = some "none" ↔ t.read poiEntry = some "none")

section Split

variable {n : RobotLookAtPOI} {looks : List Event} (hs : GazeState poiEntry h n)
  (htrace : t.trace =
    (.getInput .robotLookAtPOI poiEntry (some poi) :: n.gainEvents env poi) ++ looks)
  (hlooks : gains looks = [])
include hs htrace hlooks

theorem GazeState.gain_before_look {l₁ l₂ : List Event} {point : List Double} {answer : Bool}
    (hl : t.trace = l₁ ++ .lookAt point answer :: l₂) :
    (gainsSet h ++ gains l₁).getLast? = some (gainOf (some poi)) := by
  rw [htrace] at hl
  rw [gains_before_look hl (setpoints_gainEvents n) hlooks]
  exact hs.last_gain poi

theorem GazeState.sets_gain_iff :
    (∃ gain answer, .setGain gain answer ∈ t.trace) ↔
      h = [] ∨ ∃ p, (pois poiEntry h).getLast? = some p ∧
        ¬ (p = some "none" ↔ some poi = some "none") := by
  have hgains : gains t.trace = gains (n.gainEvents env poi) := by
    rw [htrace, gains_append, hlooks, List.append_nil]
    rfl
  rw [mem_gains, hgains, gains_gainEvents, ← hs.sets_iff (some poi)]
  by_cases hlast : n.lastPoi = tagOf (some poi) <;> simp [hlast]

end Split

/-- A tick with nothing in sight. -/
theorem GazeTick.of_none {n : RobotLookAtPOI} (hs : GazeState poiEntry h n)
    (hcount : nones (pois poiEntry h ++ [some "none"]) < 2147483648)
    (hread : t.read poiEntry = some "none") (hresult : t.result = .ok .success)
    (htrace : t.trace = (.getInput .robotLookAtPOI poiEntry (some "none") ::
      n.gainEvents env "none") ++ n.restEvents env) : GazeTick poiEntry posEntry h t := by
  have hlooks : setpoints t.trace =
      if List.replicate 13 (some "none") <:+ pois poiEntry (h ++ [t]) then
        [RobotLookAtPOI.restPoint] else [] := by
    have hset : setpoints t.trace = setpoints (n.restEvents env) := by
      rw [htrace, setpoints_append]
      show setpoints (n.gainEvents env "none") ++ _ = _
      rw [setpoints_gainEvents, List.nil_append]
    rw [hset, pois_concat, hread]
    unfold RobotLookAtPOI.restEvents
    simp only [hs.rests_iff hcount]
    split_ifs <;> rfl
  constructor
  · exact hresult
  · intro hne
    exact absurd hread hne
  · intro _ hrest
    rw [hlooks, if_pos hrest]
  · intro _ hrest
    rw [hlooks, if_neg hrest]
  · intro l₁ point answer l₂ hl
    rw [hread]
    exact hs.gain_before_look htrace (gains_restEvents n) hl
  · rw [hread]
    exact hs.sets_gain_iff htrace (gains_restEvents n)

/-- A tick with something in sight. -/
theorem GazeTick.of_poi {n : RobotLookAtPOI} {v p : List Double} (hs : GazeState poiEntry h n)
    (hne : poi ≠ "none") (hread : t.read poiEntry = some poi)
    (hpos : t.before.blackboard.getVector posEntry = some p) (hresult : t.result = .ok .success)
    (htrace : t.trace = (.getInput .robotLookAtPOI poiEntry (some poi) :: n.gainEvents env poi) ++
      [.getInputVector .robotLookAtPOI posEntry (some v), .lookAt p env.lookAt]) :
    GazeTick poiEntry posEntry h t := by
  have hnot : t.read poiEntry ≠ some "none" := by
    rw [hread]
    simpa using hne
  constructor
  · exact hresult
  · intro _
    rw [htrace, setpoints_append, hpos]
    show setpoints (n.gainEvents env poi) ++ [p] = [p]
    rw [setpoints_gainEvents, List.nil_append]
  · intro hnone
    exact absurd hnone hnot
  · intro hnone
    exact absurd hnone hnot
  · intro l₁ point answer l₂ hl
    rw [hread]
    exact hs.gain_before_look htrace rfl hl
  · rw [hread]
    exact hs.sets_gain_iff htrace rfl

/-- Gaze and gain as functions of the points of interest read so far. -/
theorem gaze_of_history (hrun : NodeRun (.robotLookAtPOI poiEntry posEntry) h m) (env : Env)
    (board : Blackboard) (hpoi : board.get poiEntry = some poi)
    (hpos : poi ≠ "none" → ∃ v, board.getVector posEntry = some v ∧ v.length = 3)
    (hcount : nones (pois poiEntry h ++ [some poi]) < 2147483648) :
    GazeTick poiEntry posEntry h
      (tickNode (.robotLookAtPOI poiEntry posEntry) env { m with blackboard := board }) := by
  have hs : GazeState poiEntry h m.robotLookAtPOI := hrun.gazeState
  by_cases hne : poi = "none"
  · subst hne
    rw [gaze_none (m := { m with blackboard := board }) hpoi]
    exact .of_none hs hcount hpoi rfl rfl
  · obtain ⟨v, hv, hlength⟩ := hpos hne
    have hp : position v = some v := by
      match v, hlength with
      | [x, y, z], _ => rfl
    rw [gaze_poi (m := { m with blackboard := board }) hpoi hne hv hp]
    exact .of_poi hs hne hpoi hv rfl rfl

/-- Twelve times nothing in sight, and the robot still holds its gaze; then it rests. -/
theorem gaze_of_history_rest :
    GazeTick .thePoi .thePoiPos
        (playNode (.robotLookAtPOI .thePoi .thePoiPos) initialState.memory
          (List.replicate 12 (Env.alone, initialBlackboard))).1
        (tickNode (.robotLookAtPOI .thePoi .thePoiPos) Env.alone
          { (playNode (.robotLookAtPOI .thePoi .thePoiPos) initialState.memory
            (List.replicate 12 (Env.alone, initialBlackboard))).2 with
            blackboard := initialBlackboard }) :=
  gaze_of_history (playNode_path _ _ _) _ _ rfl (fun hne => absurd rfl hne) (by decide +kernel)

end ErgoCubBehavior
