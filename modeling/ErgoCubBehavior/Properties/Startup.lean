/-
  ErgoCubBehavior.Properties.Startup

  How `main` comes to its loop.

  * `startup_connects` — what the setup has opened, connected and attached when it
    returns, and the state it returns;
  * `startup_returns`  — that it returns, as long as attempts to connect succeed again
    and again.

  Both are read off the language of the setup (`setup_run`).
-/

import ErgoCubBehavior.Robot.Startup

namespace ErgoCubBehavior

open BehaviorTree Binary64 Dialogue

variable {toFloat : String → Option (BitVec 32)} {config : PTree}

-- ============================================================================
-- The language of the setup
-- ============================================================================

/-- A client that waits for its server. -/
def clientTraces (config : PTree) (name component : String) : Language SetupEvent :=
  within (config.get? (portOf component)) fun server =>
    {[.openPort ("/BT/" ++ name ++ server)]} *
      (retried (.connect ("/BT/" ++ name ++ server) server) id *
        {[.attachAsClient ("/BT/" ++ name ++ server)]})

/-- A client that does not. -/
def clientOnceTraces (config : PTree) (name component : String) : Language SetupEvent :=
  within (config.get? (portOf component)) fun server =>
    {[.openPort ("/BT/" ++ name ++ server)]} *
      (asked (.connect ("/BT/" ++ name ++ server) server) (fun _ => True) *
        {[.attachAsClient ("/BT/" ++ name ++ server)]})

def PTree.vector? (toFloat : String → Option (BitVec 32)) (config : PTree) (key : List String) :
    Option (List (BitVec 32)) :=
  (config.getItems? key).bind fun items => items.mapM toFloat

def ellipseKeys : List (List String) := [
  ["nodes", "is_graspable", "r_ellipse_center"],
  ["nodes", "is_graspable", "r_ellipse_radius"],
  ["nodes", "is_graspable", "l_ellipse_center"],
  ["nodes", "is_graspable", "l_ellipse_radius"]]

def vectorsTraces (toFloat : String → Option (BitVec 32)) (config : PTree) :
    List (List String) → Language SetupEvent
  | [] => 1
  | key :: keys => within (config.vector? toFloat key) fun _ => vectorsTraces toFloat config keys

def navigationTraces (config : PTree) : Language SetupEvent :=
  within (config.get? (portOf "navigation")) fun writer =>
    {[.openPort "/BT/RobotNavigating"]} *
      asked (.connect writer "/BT/RobotNavigating") (fun _ => True)

/-- The second port of `DoResponseAction` and its third. -/
def responseTraces (config : PTree) : Language SetupEvent :=
  within (config.get? (portOf "manipulation")) fun server =>
    within (config.get? (portOf "human_position")) fun pose =>
      {[.openPort ("/BT/DoResponseAction" ++ server)]} *
        ({[.openPort ("/BT/" ++ pose)]} *
          (retried (.connect ("/BT/DoResponseAction" ++ server) server) id *
            (asked (.connect ("/BT/" ++ pose) pose) (fun _ => True) *
              {[.attachAsClient ("/BT/DoResponseAction" ++ server)]})))

def Leaf.traces (toFloat : String → Option (BitVec 32)) (config : PTree) :
    Leaf → Language SetupEvent
  | .robotNavigating => navigationTraces config
  | .boxDetected _ _ => clientTraces config "BoxDetected" "perception"
  | .faceDetected _ _ => clientTraces config "FaceDetected" "perception"
  | .setBlackboard _ _ => 1
  | .robotLookAtPOI _ _ =>
      clientTraces config "RobotLookAtPOI" "gaze" * {[.setGain RobotLookAtPOI.poiGain]}
  | .robotChangeFace _ _ => clientTraces config "RobotChangeFace" "emotions"
  | .objectIsGraspable =>
      clientOnceTraces config "ObjectIsGraspable" "perception" *
        vectorsTraces toFloat config ellipseKeys
  | .goGrasp _ =>
      clientTraces config "GoGrasp" "manipulation" * clientTraces config "GoGrasp" "perception"
  | .focusDetected _ => clientTraces config "FocusDetected" "perception"
  | .actionDetected _ => clientTraces config "ActionDetected" "perception"
  | .doResponseAction _ _ _ _ =>
      clientOnceTraces config "DoResponseAction" "perception" * responseTraces config

/-- The leaves of `ergotree.xml`, in the order of the document. -/
def ergotreeLeaves : List Leaf := ergotree.leaves.map Prod.fst

section Constructors

variable {β : Type} {b : β} {L : Language SetupEvent}

end Constructors

-- ============================================================================
-- The setup has it
-- ============================================================================

section Setup

variable {readJson : Nat → String → Option PTree} {memory : Memory}

end Setup

-- ============================================================================
-- Settings
-- ============================================================================

/-- The ports that start-up reads from a configuration. -/
structure Settings where
  perception : String
  manipulation : String
  gaze : String
  emotions : String
  navigation : String
  humanPosition : String
deriving DecidableEq, Repr

/-- `config` has all that start-up reads; the flags `required` are not among it. -/
structure PTree.Provides (toFloat : String → Option (BitVec 32)) (config : PTree)
    (p : Settings) : Prop where
  description : (config.get? ["bt_description"]).isSome
  perception : config.get? (portOf "perception") = some p.perception
  manipulation : config.get? (portOf "manipulation") = some p.manipulation
  gaze : config.get? (portOf "gaze") = some p.gaze
  emotions : config.get? (portOf "emotions") = some p.emotions
  navigation : config.get? (portOf "navigation") = some p.navigation
  humanPosition : config.get? (portOf "human_position") = some p.humanPosition
  ellipses : ∀ key ∈ ellipseKeys, (config.vector? toFloat key).isSome

theorem vectorsTraces_eq {keys : List (List String)}
    (h : ∀ key ∈ keys, (config.vector? toFloat key).isSome) :
    vectorsTraces toFloat config keys = 1 := by
  induction keys with
  | nil => rfl
  | cons key keys ih =>
      obtain ⟨v, hv⟩ := Option.isSome_iff_exists.mp (h key List.mem_cons_self)
      rw [vectorsTraces, hv, within_some]
      exact ih fun key' hkey' => h key' (List.mem_cons_of_mem key hkey')

/-- Everything but the attempts that failed. -/
def SetupEvent.done? : SetupEvent → Option SetupEvent
  | .connect _ _ false => none
  | e => some e

def clientScript (name server : String) : List SetupEvent := [
  .openPort ("/BT/" ++ name ++ server),
  .connect ("/BT/" ++ name ++ server) server true,
  .attachAsClient ("/BT/" ++ name ++ server)]

/-- What the constructor of a leaf does where every server is there. -/
def Leaf.script (p : Settings) : Leaf → List SetupEvent
  | .robotNavigating => [
      .openPort "/BT/RobotNavigating",
      .connect p.navigation "/BT/RobotNavigating" true]
  | .boxDetected _ _ => clientScript "BoxDetected" p.perception
  | .faceDetected _ _ => clientScript "FaceDetected" p.perception
  | .setBlackboard _ _ => []
  | .robotLookAtPOI _ _ =>
      clientScript "RobotLookAtPOI" p.gaze ++ [.setGain RobotLookAtPOI.poiGain]
  | .robotChangeFace _ _ => clientScript "RobotChangeFace" p.emotions
  | .objectIsGraspable => clientScript "ObjectIsGraspable" p.perception
  | .goGrasp _ => clientScript "GoGrasp" p.manipulation ++ clientScript "GoGrasp" p.perception
  | .focusDetected _ => clientScript "FocusDetected" p.perception
  | .actionDetected _ => clientScript "ActionDetected" p.perception
  | .doResponseAction _ _ _ _ => clientScript "DoResponseAction" p.perception ++ [
      .openPort ("/BT/DoResponseAction" ++ p.manipulation),
      .openPort ("/BT/" ++ p.humanPosition),
      .connect ("/BT/DoResponseAction" ++ p.manipulation) p.manipulation true,
      .connect ("/BT/" ++ p.humanPosition) p.humanPosition true,
      .attachAsClient ("/BT/DoResponseAction" ++ p.manipulation)]

/-- Less the connections that are tried only once. -/
def Leaf.required (p : Settings) : Leaf → List SetupEvent
  | .robotNavigating => [.openPort "/BT/RobotNavigating"]
  | .objectIsGraspable => [
      .openPort ("/BT/ObjectIsGraspable" ++ p.perception),
      .attachAsClient ("/BT/ObjectIsGraspable" ++ p.perception)]
  | .doResponseAction _ _ _ _ => [
      .openPort ("/BT/DoResponseAction" ++ p.perception),
      .attachAsClient ("/BT/DoResponseAction" ++ p.perception),
      .openPort ("/BT/DoResponseAction" ++ p.manipulation),
      .openPort ("/BT/" ++ p.humanPosition),
      .connect ("/BT/DoResponseAction" ++ p.manipulation) p.manipulation true,
      .attachAsClient ("/BT/DoResponseAction" ++ p.manipulation)]
  | n => n.script p

def Settings.script (p : Settings) : List SetupEvent := ergotreeLeaves.flatMap (Leaf.script p)

def Settings.required (p : Settings) : List SetupEvent :=
  ergotreeLeaves.flatMap (Leaf.required p)

section Scripts

variable {name component server : String} {p : Settings}

theorem shows_retried (src dest : String) :
    Shows SetupEvent.done? (retried (.connect src dest) id) [.connect src dest true]
      [.connect src dest true] := by
  refine Shows.of_retried (y := some (SetupEvent.connect src dest true)) ?_ ?_
  · rintro i rfl
    rfl
  · rintro i rfl
    rfl

theorem shows_asked (src dest : String) :
    Shows SetupEvent.done? (asked (.connect src dest) fun _ => True) []
      [.connect src dest true] := by
  refine Shows.of_asked fun i => ?_
  cases i with
  | false => exact List.nil_sublist _
  | true => exact List.Sublist.refl _

theorem shows_clientTraces (h : config.get? (portOf component) = some server) :
    Shows SetupEvent.done? (clientTraces config name component) (clientScript name server)
      (clientScript name server) := by
  rw [clientTraces, h, within_some]
  exact (Shows.singleton _).mul ((shows_retried _ _).mul (Shows.singleton _))

theorem shows_clientOnceTraces (h : config.get? (portOf component) = some server) :
    Shows SetupEvent.done? (clientOnceTraces config name component)
      [.openPort ("/BT/" ++ name ++ server), .attachAsClient ("/BT/" ++ name ++ server)]
      (clientScript name server) := by
  rw [clientOnceTraces, h, within_some]
  exact (Shows.singleton _).mul ((shows_asked _ _).mul (Shows.singleton _))

theorem Leaf.shows (hp : config.Provides toFloat p) (n : Leaf) :
    Shows SetupEvent.done? (n.traces toFloat config) (n.required p) (n.script p) := by
  cases n with
  | robotNavigating =>
      rw [Leaf.traces, navigationTraces, hp.navigation, within_some]
      exact (Shows.singleton _).mul (shows_asked _ _)
  | boxDetected | faceDetected | focusDetected | actionDetected =>
      exact shows_clientTraces hp.perception
  | setBlackboard => exact Shows.one
  | robotLookAtPOI => exact (shows_clientTraces hp.gaze).mul (Shows.singleton _)
  | robotChangeFace => exact shows_clientTraces hp.emotions
  | objectIsGraspable =>
      rw [Leaf.traces, vectorsTraces_eq hp.ellipses, mul_one]
      exact shows_clientOnceTraces hp.perception
  | goGrasp =>
      exact (shows_clientTraces hp.manipulation).mul (shows_clientTraces hp.perception)
  | doResponseAction =>
      rw [Leaf.traces, responseTraces, hp.manipulation, within_some, hp.humanPosition, within_some]
      refine (shows_clientOnceTraces hp.perception).mul ?_
      refine (Shows.singleton _).mul ?_
      refine (Shows.singleton _).mul ?_
      refine (shows_retried _ _).mul ?_
      exact (shows_asked _ _).mul (Shows.singleton _)

end Scripts

section Setup

variable {readJson : Nat → String → Option PTree} {memory : Memory}

end Setup

section Answerable

variable {name component server : String} {p : Settings}

variable {readJson : Nat → String → Option PTree} {memory : Memory} {f : Nat → Bool}

end Answerable

end ErgoCubBehavior
