/-
  ErgoCubBehavior.Robot.Startup

  What `main` does before its loop.  It reads a configuration and builds the nodes of
  the tree, in the order of the document; each constructor opens its ports and connects
  them to the servers that the configuration names.

  Whether an attempt to connect succeeds is up to the network, and each attempt gets one
  answer.  How long the constructors sleep between two attempts is left out.
-/

import ErgoCubBehavior.Lib.Dialogue
import ErgoCubBehavior.Robot.Ergotree

namespace ErgoCubBehavior

open BehaviorTree Binary64 Dialogue

-- ============================================================================
-- Property trees
-- ============================================================================

/-- What the constructors look up in a `boost::property_tree::ptree`.  How a path is
    found is the library's business, which of several equal keys it takes as well. -/
structure PTree where
  /-- `get<std::string>`, down a path of keys -/
  get? : List String → Option String
  /-- the texts of the children of what `get_child` finds -/
  getItems? : List String → Option (List String)

-- ============================================================================
-- Setting up
-- ============================================================================

inductive SetupEvent where
  | openPort (name : String)
  | connect (src dest : String) (connected : Bool)
  | attachAsClient (port : String)
  | setGain (gain : Double)
deriving DecidableEq, Repr

def SetupEvent.answer? : SetupEvent → Option Bool
  | .connect _ _ connected => some connected
  | _ => none

/-- What keeps `main` from its loop. -/
inductive Stop where
  /-- an attempt to connect is under way -/
  | connecting (src dest : String)
  | exit (code : Int)
  /-- `json_parser_error`, which nobody catches -/
  | jsonParserError (file : String)
  /-- `ptree_bad_path` -/
  | badPath (path : List String)
  /-- `ptree_bad_data` -/
  | badData
deriving DecidableEq, Repr

abbrev SetupM := DialogueM Stop Bool SetupEvent

/-- The path of the port of a component. -/
def portOf (component : String) : List String := ["components", component, "port"]

/-- `yarp.connect` -/
def connect (src dest : String) : SetupM Bool :=
  ask (.connecting src dest) (.connect src dest)

section Constructors

-- `toFloat` is the translator of property trees, to the bit patterns of `float`s.
variable (toFloat : String → Option (BitVec 32)) (config : PTree) (name : String)

end Constructors

-- ============================================================================
-- main
-- ============================================================================

section Main

-- `readJson` is what `read_json` makes of a file, at each of its three places in `main`.
variable (readJson : Nat → String → Option PTree) (toFloat : String → Option (BitVec 32))

end Main

-- ============================================================================
-- config.json
-- ============================================================================

/-- A document that `read_json` has read: a text, and children under their keys. -/
inductive Json where
  | node (data : String) (children : List (String × Json))

namespace Json

def data : Json → String
  | node data _ => data

def children : Json → List (String × Json)
  | node _ children => children

def text (data : String) : Json := .node data []

def component (port required : String) : Json :=
  .node "" [("port", text port), ("required", text required)]

end Json

end ErgoCubBehavior
