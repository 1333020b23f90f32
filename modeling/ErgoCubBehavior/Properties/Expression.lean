/-
  ErgoCubBehavior.Properties.Expression

  What the face shows, over every run of the tree.

  * `Shows`           — the tag that `RobotChangeFace` remembers for an emotion;
  * `emotionFor_eq`   — on the inputs the tree can give it, `RobotChangeFace` compares
    one tag and sends one emotion;
  * `Run.shows`       — the tag it remembers is that of the last emotion sent;
  * `face_matches`    — the last emotion sent fits the situation, and none is sent
    twice in a row.
-/

import ErgoCubBehavior.Properties.Perception

namespace ErgoCubBehavior

open BehaviorTree Binary64 Transition

variable {h : List TickRecord} {s : State} {env : Env} {a : Activity} {m : Memory}
  {hasBox poi : String} {t : TickRecord}

-- ============================================================================
-- Emotions
-- ============================================================================

/-- Every emotion sent in the ticks of a history. -/
def shown (h : List TickRecord) : List String :=
  h.flatMap fun t => emotions t.trace

theorem shown_concat (h : List TickRecord) (t : TickRecord) :
    shown (h ++ [t]) = shown h ++ emotions t.trace := by
  simp [shown]

/-- The emotion that fits a situation. -/
def faceFor (hasBox poi : String) : String :=
  if hasBox = "yes" then "shy"
  else if poi = "none" then "neutral"
  else if poi = "face" then "happy"
  else "alert"

/-- The tag under which it is remembered. -/
def tagFor (hasBox poi : String) : String :=
  if hasBox = "yes" then "has_box" else poi

/-- What `last_sent_emotion` says about the last emotion sent. -/
def Shows (tag : String) (last : Option String) : Prop :=
  (tag, last) ∈ [("", none), ("has_box", some "shy"), ("none", some "neutral"),
    ("face", some "happy"), ("object", some "alert")]

instance (tag : String) (last : Option String) : Decidable (Shows tag last) :=
  inferInstanceAs (Decidable (_ ∈ _))

def boxNames : List String := ["no", "yes"]

def poiNames : List String := ["none", "face", "object"]

section Inputs

variable {n : RobotChangeFace} (hbox : hasBox ∈ boxNames) (hpoi : poi ∈ poiNames)
include hbox hpoi

/-- On these inputs the cascade of the node is one comparison. -/
theorem emotionFor_eq : n.emotionFor poi hasBox =
    if n.lastSentEmotion = tagFor hasBox poi then none
    else some (faceFor hasBox poi, tagFor hasBox poi) := by
  simp only [boxNames, poiNames, List.mem_cons, List.not_mem_nil, or_false] at hbox hpoi
  rcases hbox with rfl | rfl <;> rcases hpoi with rfl | rfl | rfl <;>
    simp [RobotChangeFace.emotionFor, tagFor, faceFor]

theorem shows_tagFor : Shows (tagFor hasBox poi) (some (faceFor hasBox poi)) := by
  simp only [boxNames, poiNames, List.mem_cons, List.not_mem_nil, or_false] at hbox hpoi
  rcases hbox with rfl | rfl <;> rcases hpoi with rfl | rfl | rfl <;> decide

/-- Tags and emotions say the same. -/
theorem Shows.tag_iff {tag : String} {last : Option String} (hshows : Shows tag last) :
    tag = tagFor hasBox poi ↔ last = some (faceFor hasBox poi) := by
  simp only [Shows, boxNames, poiNames, List.mem_cons, List.not_mem_nil, or_false,
    Prod.mk.injEq] at hshows hbox hpoi
  rcases hbox with rfl | rfl <;> rcases hpoi with rfl | rfl | rfl <;>
    rcases hshows with ⟨rfl, rfl⟩ | ⟨rfl, rfl⟩ | ⟨rfl, rfl⟩ | ⟨rfl, rfl⟩ | ⟨rfl, rfl⟩ <;> decide

/-- The node sends the emotion that fits, unless it was the last one sent. -/
theorem Shows.sends {last : Option String} (hshows : Shows n.lastSentEmotion last) :
    emotions (n.emotionEvents env poi hasBox) =
      if last = some (faceFor hasBox poi) then [] else [faceFor hasBox poi] := by
  rw [RobotChangeFace.emotionEvents, emotionFor_eq hbox hpoi]
  simp only [hshows.tag_iff hbox hpoi]
  split_ifs <;> rfl

theorem next_tagFor : (n.next poi hasBox).lastSentEmotion = tagFor hasBox poi := by
  rw [RobotChangeFace.next, emotionFor_eq hbox hpoi]
  split_ifs with htag
  · exact htag
  · rfl

end Inputs

-- ============================================================================
-- Ticks
-- ============================================================================

theorem emotions_eventsOf (l : List Event) : emotions (eventsOf .robotChangeFace l) = emotions l := by
  rw [emotions, eventsOf, List.filterMap_filter, emotions]
  congr 1
  funext e
  cases e <;> simp [Event.node]

/-- The part of a tick that comes from `RobotChangeFace`. -/
def faceEvents (env : Env) (n : RobotChangeFace) (poi hasBox : String) : List Event :=
  .getInput .robotChangeFace .thePoi (some poi) ::
    .getInput .robotChangeFace .theHasBox (some hasBox) :: n.emotionEvents env poi hasBox

theorem eventsOf_perceptionEvents_face {poi : Poi} :
    eventsOf .robotChangeFace (perceptionEvents env m poi hasBox) =
      faceEvents env m.robotChangeFace poi.name hasBox := by
  simp [perceptionEvents, faceEvents, Event.node]

/-- The two nodes behind the selection act on what was selected, if anything was, and are
    not heard of again in the tick. -/
theorem TickCase.perceived {n : Node} (hn : n = .robotLookAtPOI ∨ n = .robotChangeFace)
    (hcase : TickCase env a m hasBox t) :
    (env.selected (some hasBox) = none ∧ eventsOf n t.trace = [] ∧
      t.after.memory.robotLookAtPOI = m.robotLookAtPOI ∧
      t.after.memory.robotChangeFace = m.robotChangeFace) ∨
    ∃ poi, env.selected (some hasBox) = some poi ∧
      eventsOf n t.trace = eventsOf n (perceptionEvents env m poi hasBox) ∧
      t.after.memory.robotLookAtPOI = m.robotLookAtPOI.next poi.name ∧
      t.after.memory.robotChangeFace = m.robotChangeFace.next poi.name hasBox := by
  have hopen : ∀ poi, eventsOf n (openEvents env m poi hasBox) =
      eventsOf n (perceptionEvents env m poi hasBox) := by
    intro poi
    rw [openEvents, eventsOf_append]
    rcases hn with rfl | rfl <;> simp [Event.node]
  have hclosed : ∀ poi, eventsOf n (closedEvents env a m poi hasBox) =
      eventsOf n (perceptionEvents env m poi hasBox) := by
    intro poi
    rw [closedEvents, eventsOf_append]
    rcases hn with rfl | rfl <;> simp
  cases hcase with
  | navigating hnav =>
      refine Or.inl ⟨selected_of_navigating hnav, ?_, rfl, rfl⟩
      rcases hn with rfl | rfl <;> simp [Event.node]
  | blind _ hsel =>
      refine Or.inl ⟨selected_of_error hsel, ?_, rfl, rfl⟩
      rcases hn with rfl | rfl <;> simp [Event.node]
  | start hnav hsel | grasp hnav hsel | wait hnav hsel =>
      refine Or.inr ⟨_, selected_of_ok hnav hsel, ?_, rfl, rfl⟩
      rw [eventsOf_append, hopen]
      rcases hn with rfl | rfl <;> simp [Event.node]
  | unfinished hnav hsel | respond hnav hsel | comeShort hnav hsel =>
      refine Or.inr ⟨_, selected_of_ok hnav hsel, ?_, rfl, rfl⟩
      rw [eventsOf_append, hclosed]
      rcases hn with rfl | rfl <;> simp [Event.node]

/-- A tick reaches `RobotChangeFace` with the point of interest it has selected, or
    selects none and leaves it alone. -/
theorem TickCase.face (hcase : TickCase env a m hasBox t) :
    (env.selected (some hasBox) = none ∧ eventsOf .robotChangeFace t.trace = [] ∧
      t.after.memory.robotChangeFace = m.robotChangeFace) ∨
    ∃ poi, env.selected (some hasBox) = some poi ∧
      eventsOf .robotChangeFace t.trace = faceEvents env m.robotChangeFace poi.name hasBox ∧
      t.after.memory.robotChangeFace = m.robotChangeFace.next poi.name hasBox := by
  rcases hcase.perceived (.inr rfl) with ⟨hsel, hnone, -, hkeep⟩ | ⟨poi, hsel, hevents, -, hnext⟩
  · exact Or.inl ⟨hsel, hnone, hkeep⟩
  · exact Or.inr ⟨poi, hsel, hevents.trans eventsOf_perceptionEvents_face, hnext⟩

theorem Poi.name_mem (poi : Poi) : poi.name ∈ poiNames := by
  cases poi <;> simp [Poi.name, poiNames]

theorem Phase.hasBox_mem (p : Phase) : p.hasBox ∈ boxNames := by
  cases p <;> decide

/-- After the node the last emotion sent is the one that fits. -/
theorem Shows.last {n : RobotChangeFace} {l : List String} {poi : Poi} {p : Phase}
    (hshows : Shows n.lastSentEmotion l.getLast?) :
    (l ++ emotions (faceEvents env n poi.name p.hasBox)).getLast? =
      some (faceFor p.hasBox poi.name) := by
  have hsent : emotions (faceEvents env n poi.name p.hasBox) = _ :=
    hshows.sends p.hasBox_mem poi.name_mem
  rw [hsent]
  split_ifs with hlast
  · rw [List.append_nil, hlast]
  · exact List.getLast?_concat

/-- `last_sent_emotion` is the tag of the last emotion sent. -/
theorem Run.shows (hrun : Run h s) :
    Shows s.memory.robotChangeFace.lastSentEmotion (shown h).getLast? := by
  refine hrun.history (by decide) ?_
  rintro h s t s' hrun hshows ⟨⟨env, rfl⟩, -, rfl⟩
  obtain ⟨p, -, hphase⟩ := ErgoCubBehavior.Run.protocol hrun
  rw [shown_concat, ← emotions_eventsOf]
  rcases (hphase.cases env).face with ⟨-, hnone, hkeep⟩ | ⟨poi, -, hface, hnext⟩
  · rw [hnone, hkeep]
    simpa [emotions] using hshows
  · rw [hface, hnext, next_tagFor p.hasBox_mem poi.name_mem, hshows.last]
    exact shows_tagFor p.hasBox_mem poi.name_mem

/-- What holds of the face after the ticks `h` and then `t`. -/
structure FaceMatches (h : List TickRecord) (t : TickRecord) : Prop where
  /-- a tick that selects a point of interest reaches `RobotChangeFace`, and no other does -/
  reached : eventsOf .robotChangeFace t.trace ≠ [] ↔
    (t.env.selected t.before.memory.blackboard.theHasBox).isSome
  /-- a tick that reaches `RobotChangeFace` leaves the face that fits the situation -/
  fits : eventsOf .robotChangeFace t.trace ≠ [] → ∃ hasBox,
    t.before.memory.blackboard.theHasBox = some hasBox ∧
      (shown (h ++ [t])).getLast? = some (faceFor hasBox t.referencePoi)
  once : (emotions t.trace).length ≤ 1
  /-- the face is never told to show what it shows -/
  change : ∀ x ∈ emotions t.trace, (shown h).getLast? ≠ some x

/-- The face always fits the situation, and is told so only when the situation
    changes. -/
theorem face_matches (hrun : Run h s) (env : Env) : FaceMatches h (tickRoot env s) := by
  obtain ⟨p, -, hphase⟩ := hrun.protocol
  have hshows := hrun.shows
  have hface := (hphase.cases env).face
  -- an emotion is sent only where the last one does not fit
  have hsent : emotions (tickRoot env s).trace = [] ∨
      ∃ x, emotions (tickRoot env s).trace = [x] ∧ (shown h).getLast? ≠ some x := by
    rw [← emotions_eventsOf]
    rcases hface with ⟨-, hnone, -⟩ | ⟨poi, -, hface, -⟩
    · rw [hnone]
      exact Or.inl rfl
    · have hsends : emotions (faceEvents env _ poi.name p.hasBox) = _ :=
        hshows.sends p.hasBox_mem poi.name_mem
      rw [hface, hsends]
      split_ifs with hlast
      · exact Or.inl rfl
      · exact Or.inr ⟨_, rfl, hlast⟩
  refine ⟨?_, fun hreached => ⟨p.hasBox, hphase.before_theHasBox env, ?_⟩, ?_, ?_⟩
  · rw [hphase.before_theHasBox, tickRoot_env]
    rcases hface with ⟨hsel, hnone, -⟩ | ⟨poi, hsel, hface, -⟩
    · simp [hsel, hnone]
    · simp [hsel, hface, faceEvents]
  · rw [shown_concat, ← emotions_eventsOf]
    rcases hface with ⟨-, hnone, -⟩ | ⟨poi, hsel, hface, -⟩
    · exact absurd hnone hreached
    · have hname : (tickRoot env s).referencePoi = poi.name := by
        rw [TickRecord.referencePoi, hphase.before_theHasBox, tickRoot_env,
          selectPoi_name (selected_eq_some.mp hsel).2]
      rw [hname, hface, hshows.last]
  · rcases hsent with hnone | ⟨x, hone, -⟩
    · rw [hnone]
      exact Nat.zero_le 1
    · rw [hone]
      exact Nat.le_refl 1
  · rcases hsent with hnone | ⟨x, hone, hlast⟩
    · simp [hnone]
    · simpa [hone] using hlast

/-- Somebody waves, and an object is offered and grasped: with the box in its hands the
    robot is shy, even of a face it was happy to see. -/
theorem face_matches_shy :
    shown (history [Env.alone, Env.alone.human "wave", Env.alone.object, Env.alone.object,
        Env.alone.human "wave"]) = ["neutral", "happy", "alert", "shy"] ∧
      FaceMatches
        (history [Env.alone, Env.alone.human "wave", Env.alone.object, Env.alone.object])
        (tickRoot (Env.alone.human "wave")
          (reached [Env.alone, Env.alone.human "wave", Env.alone.object, Env.alone.object])) :=
  ⟨by decide +kernel, face_matches (run_history _) _⟩

end ErgoCubBehavior
