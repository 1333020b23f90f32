/-
  ErgoCubBehavior.Rpc.Service

  The server side of an interface: the generated `read`, which finds out from the
  words of a message what function it calls, and `help`.  The three interfaces
  share this code; they differ in the functions they offer and in `max_tag_len`.

  The words are read one at a time, and after each the tag so far is compared with
  the tag of every function.  What the code relies on without saying so is a field
  of `Interface`: no tag with an underscore behind it begins another tag.

  The state of a server is of an arbitrary type; `Session.calls` logs the functions
  of the server that have been called.
-/

import ErgoCubBehavior.Rpc.Helper

namespace ErgoCubBehavior

open Wire

-- ============================================================================
-- Interfaces
-- ============================================================================

/-- `s_tag` of what the dispatcher answers itself. -/
def helpTag : String := "help"

/-- The word a message may begin with. -/
def directTag : String := "__direct__"

/-- The functions of an interface, in the order of the source. -/
structure Interface where
  maxTagLen : Nat
  helpers : List Helper
  tagLen_le : ∀ h ∈ helpers, h.tagLen ≤ maxTagLen := by decide
  nodup : (helpTag :: helpers.map Helper.tag).Nodup := by decide
  prefixFree : ∀ h ∈ helpers, ∀ tag ∈ helpTag :: helpers.map Helper.tag,
    ¬ (tag ++ "_").toList <+: h.tag.toList := by decide
  not_direct : ∀ h ∈ helpers, ¬ directTag.toList <+: h.tag.toList := by decide

/-- A function of a server over states of type `σ`. -/
structure Method (σ : Type) where
  helper : Helper
  call : Args helper.args → σ → helper.ret.Value × σ

/-- A server: the functions of its interface. -/
structure Service (I : Interface) (σ : Type) where
  methods : List (Method σ)
  helpers_eq : methods.map Method.helper = I.helpers

-- ============================================================================
-- help
-- ============================================================================

/-- The prototype and, where there is one, the text of the function. -/
def Helper.helpStrings (h : Helper) : List String :=
  if h.help = "" then [h.prototype] else [h.prototype, h.help]

/-- What `help` says about itself. -/
def helpHelpStrings : List String := [
  "std::vector<std::string> help(const std::string& functionName = \"--all\")",
  "Return list of available commands, or help message for a specific function",
  "@param functionName name of command for which to get a detailed description. " ++
    "If none or '--all' is provided, print list of available commands",
  "@return list of strings (one string per line)"]

def Interface.help (I : Interface) (functionName : String) : List String :=
  let helpString :=
    if functionName = "--all" then
      "*** Available commands:" :: I.helpers.map Helper.tag ++ [helpTag]
    else
      (I.helpers.flatMap fun h => if functionName = h.tag then h.helpStrings else []) ++
        (if functionName = helpTag then helpHelpStrings else [])
  if helpString = [] then ["Command not found"] else helpString

-- ============================================================================
-- read
-- ============================================================================

/-- A call as a server gets it. -/
structure Call where
  helper : Helper
  args : Args helper.args

/-- A message while it is served. -/
structure Session (F : Format Matrix) (σ : Type) where
  reader : F.Reader
  object : σ
  calls : List Call
  reply : Option F.Writer

variable (F : Format Matrix) {σ : Type} {I : Interface}

/-- Code of the server; where the source returns `false`, it throws. -/
abbrev ServeM (σ : Type) := EStateM Unit (Session F σ)

/-- Code that reads the message. -/
def reading {α : Type} (x : ReadM F α) : ServeM F σ α := fun s =>
  match x.run s.reader with
  | .ok a r => .ok a { s with reader := r }
  | .error e r => .error e { s with reader := r }

/-- Code that writes the answer, on the writer of the connection. -/
def replying (x : WriteM F Unit) : ServeM F σ Unit := fun s =>
  match x.run (F.replyWriter s.reader) with
  | .ok _ w => .ok () { s with reply := some w }
  | .error e w => .error e { s with reply := some w }

/-- `helper.call(this)` -/
def Method.run (m : Method σ) (args : Args m.helper.args) : ServeM F σ m.helper.ret.Value :=
  fun s =>
    let (ret, object) := m.call args s.object
    .ok ret { s with object, calls := s.calls ++ [⟨m.helper, args⟩] }

/-- What follows when the tag is that of a function. -/
def Method.serve (m : Method σ) : ServeM F σ Unit := do
  let args ← reading F (readArgs F m.helper.args)
  let ret ← m.run F args
  replying F (Reply.write F m.helper ret)
  reading F (modify F.accept)

def writeHelpStrings : List String → WriteM F Unit
  | [] => return ()
  | s :: ss => do
      attempt F (F.writeString s)
      writeHelpStrings ss

/-- What follows when the tag is `help`. -/
def Interface.serveHelp (I : Interface) : ServeM F σ Unit := do
  let functionName ← reading F (modifyGet F.readString)
  let helpStrings := I.help (functionName.getD "--all")
  replying F do
    if !F.isNull (← get) then
      attempt F (F.writeListHeader 2)
      attempt F (F.writeTag "many" true 0)
      attempt F (F.writeListBegin 0 helpStrings.length)
      writeHelpStrings F helpStrings
      attempt F F.writeListEnd
  reading F (modify F.accept)

/-- The `while` loop.  Every round that goes on makes the tag longer by an
    underscore, so `fuel` that exceeds `maxTagLen` is never used up: see
    `Service.loop_fuel`. -/
def Service.loop (S : Service I σ) : Nat → Nat → String → ServeM F σ Unit
  | 0, _, _ => throw ()
  | fuel + 1, tagLen, tag => do
      if tagLen ≤ I.maxTagLen then
        if ← reading F (isError F) then
          throw ()
        else
          match S.methods.find? fun m => m.helper.tag = tag with
          | some m => m.serve F
          | none =>
              if tag = helpTag then
                I.serveHelp F
              else if ← reading F (noMore F) then
                reading F (failed F)
              else
                let nextTag ← reading F (modifyGet (F.readTag 1))
                if nextTag = "" then
                  throw ()
                else
                  let tag := tag ++ "_" ++ nextTag
                  S.loop fuel (underscores tag + 1) tag
      else
        throw ()

def Service.read (S : Service I σ) : ServeM F σ Unit := do
  reading F (modify F.expectAccept)
  if ← reading F (modifyGet F.readListHeader) then
    let tag ← reading F (modifyGet (F.readTag 1))
    if tag = directTag then
      let tag ← reading F (modifyGet (F.readTag 1))
      S.loop F (I.maxTagLen + 1) 1 tag
    else
      S.loop F (I.maxTagLen + 1) 1 tag
  else
    reading F (failed F)

/-- What is left of a message that has been served: what `read` returned, the state of
    the server, the functions called and the answer written. -/
structure Served (F : Format Matrix) (σ : Type) where
  ok : Bool
  object : σ
  calls : List Call
  reply : Option F.Writer

def Service.serve (S : Service I σ) (r : F.Reader) (object : σ) : Served F σ :=
  match (S.read F).run { reader := r, object, calls := [], reply := none } with
  | .ok _ s => { ok := true, object := s.object, calls := s.calls, reply := s.reply }
  | .error _ s => { ok := false, object := s.object, calls := s.calls, reply := s.reply }

end ErgoCubBehavior
