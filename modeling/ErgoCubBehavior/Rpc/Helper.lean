/-
  ErgoCubBehavior.Rpc.Helper

  The helper classes of the generated interfaces (`src/interfaces/*/src`).  The
  generator writes one class for each function of an interface, and the classes
  differ in their constants and in the types of the arguments and of the answer
  only; `Helper` holds what differs, and the members of the class are functions of
  it.

  A member that writes or reads runs on one end of a connection.  Where the source
  returns `false`, the computation throws; what has been read by then stays read.

  * `Command.write`, `Command.read` — the call as it goes out and comes in;
  * `Reply.write`, `Reply.read` — the answer;
  * `Command.read_run`, `Reply.read_run` — what has arrived is read.
-/

import ErgoCubBehavior.Lib.Wire

namespace ErgoCubBehavior

open Wire Binary64

-- ============================================================================
-- Signatures
-- ============================================================================

/-- The types of the arguments. -/
inductive ArgType where
  | string | float64 | listFloat64 | nested
deriving DecidableEq, Repr

/-- The types of the answers. -/
inductive RetType where
  | void | bool | listString
deriving DecidableEq, Repr

/-- `yarp::sig::Matrix` as far as the interfaces hand it on: its rows. -/
structure Matrix where
  rows : List (List Double)
deriving DecidableEq, Repr

def ArgType.Value : ArgType → Type
  | .string => String
  | .float64 => Double
  | .listFloat64 => List Double
  | .nested => Matrix

/-- The arguments of a call, in the order of the signature. -/
def Args : List ArgType → Type
  | [] => Unit
  | t :: ts => t.Value × Args ts

def RetType.Value : RetType → Type
  | .void => Unit
  | .bool => Bool
  | .listString => List String

/-- The answer of a call that failed: `bool{}`, `std::vector<std::string>{}`. -/
def RetType.default : (t : RetType) → t.Value
  | .void => ()
  | .bool => false
  | .listString => []

/-- The items an answer takes in its message. -/
def RetType.length : RetType → Nat
  | .void => 0
  | .bool => 1
  | .listString => 1

/-- The constants of a helper class and its signature.  The lengths the source states
    beside the tag are those of the tag and of the signature. -/
structure Helper where
  tag : String
  tagLen : Nat
  cmdLen : Nat
  replyLen : Nat
  prototype : String
  help : String
  args : List ArgType
  ret : RetType
  tagLen_eq : tagLen = (words tag).length := by decide
  cmdLen_eq : cmdLen = tagLen + args.length := by decide
  replyLen_eq : replyLen = ret.length := by decide
  word_ne : ∀ w ∈ words tag, w ≠ "" := by decide

-- ============================================================================
-- Reading and writing
-- ============================================================================

variable (F : Format Matrix)

/-- Code that reads a message. -/
abbrev ReadM := EStateM Unit F.Reader

/-- Code that writes a message. -/
abbrev WriteM := EStateM Unit F.Writer

/-- `if (!writer.op(..)) { return false; }` -/
def attempt (op : F.Writer → Bool × F.Writer) : WriteM F Unit := do
  if !(← modifyGet op) then
    throw ()

/-- `reader.fail(); return false;` -/
def failed {α : Type} : ReadM F α := do
  modify F.fail
  throw ()

/-- `if (!reader.op(x)) { reader.fail(); return false; }` -/
def expect {α : Type} (op : F.Reader → Option α × F.Reader) : ReadM F α := do
  match ← modifyGet op with
  | some x => return x
  | none => failed F

def noMore : ReadM F Bool := do
  return F.noMore (← get)

def isError : ReadM F Bool := do
  return F.isError (← get)

/-- The element type a list is checked against: the reader takes the mark of a list
    off. -/
def expectedTag (elementType : BitVec 32) : BitVec 32 :=
  elementType &&& ~~~F.tagList

/-- The header of a list; a list with elements of another type is refused, and the
    reader does not learn of it. -/
def readListBegin (elementType : BitVec 32) : ReadM F Nat := do
  let (etype, csize) ← modifyGet F.readListBegin
  if expectedTag F elementType ≠ 0 ∧ csize ≠ 0 ∧ etype ≠ expectedTag F elementType then
    throw ()
  return csize

-- ============================================================================
-- Arguments
-- ============================================================================

def writeDoubles (xs : List Double) : WriteM F Unit := do
  attempt F (F.writeListBegin F.tagFloat64 xs.length)
  attempt F (F.writeBlock xs)
  attempt F F.writeListEnd

def writeArg : (t : ArgType) → t.Value → WriteM F Unit
  | .string, x => attempt F (F.writeString x)
  | .float64, x => attempt F (F.writeFloat64 x)
  | .listFloat64, x => writeDoubles F x
  | .nested, x => attempt F (F.writeNested x)

def writeArgs : (ts : List ArgType) → Args ts → WriteM F Unit
  | [], _ => return ()
  | t :: ts, (x, xs) => do
      writeArg F t x
      writeArgs ts xs

/-- A block of doubles; a list without elements has no block. -/
def readDoubles : ReadM F (List Double) := do
  let csize ← readListBegin F F.tagFloat64
  if csize = 0 then
    modify F.readListEnd
    return []
  match ← modifyGet (F.readBlock csize) with
  | none => throw ()
  | some xs =>
      modify F.readListEnd
      return xs

def readValue : (t : ArgType) → ReadM F t.Value
  | .string => expect F F.readString
  | .float64 => expect F F.readFloat64
  | .listFloat64 => readDoubles F
  | .nested => expect F F.readNested

def readArg (t : ArgType) : ReadM F t.Value := do
  if ← noMore F then
    failed F
  readValue F t

/-- The arguments and nothing else. -/
def readArgs : (ts : List ArgType) → ReadM F (Args ts)
  | [] => do
      if !(← noMore F) then
        failed F
      return ()
  | t :: ts => do
      let x ← readArg F t
      let xs ← readArgs ts
      return (x, xs)

-- ============================================================================
-- Commands
-- ============================================================================

namespace Command

def writeTag (h : Helper) : WriteM F Unit :=
  attempt F (F.writeTag h.tag true h.tagLen)

def write (h : Helper) (args : Args h.args) : WriteM F Unit := do
  attempt F (F.writeListHeader h.cmdLen)
  writeTag F h
  writeArgs F h.args args

def readTag (h : Helper) : ReadM F Unit := do
  let tag ← modifyGet (F.readTag h.tagLen)
  if ← isError F then
    throw ()
  if tag ≠ h.tag then
    failed F

def read (h : Helper) : ReadM F (Args h.args) := do
  if !(← modifyGet F.readListHeader) then
    failed F
  readTag F h
  readArgs F h.args

end Command

-- ============================================================================
-- Replies
-- ============================================================================

def writeStringItems : List String → WriteM F Unit
  | [] => return ()
  | s :: ss => do
      attempt F (F.writeStringItem s)
      writeStringItems ss

def writeStrings (ss : List String) : WriteM F Unit := do
  attempt F (F.writeListBegin F.tagString ss.length)
  writeStringItems F ss
  attempt F F.writeListEnd

def writeRet : (t : RetType) → t.Value → WriteM F Unit
  | .void, _ => return ()
  | .bool, b => attempt F (F.writeBool b)
  | .listString, ss => writeStrings F ss

/-- So many strings, one after the other. -/
def readStringItems : Nat → ReadM F (List String)
  | 0 => return []
  | n + 1 => do
      if ← noMore F then
        failed F
      let s ← expect F F.readString
      let ss ← readStringItems n
      return s :: ss

def readStrings : ReadM F (List String) := do
  let csize ← readListBegin F F.tagString
  let ss ← readStringItems F csize
  modify F.readListEnd
  return ss

def readRet : (t : RetType) → ReadM F t.Value
  | .void => return ()
  | .bool => do
      if ← noMore F then
        failed F
      expect F F.readBool
  | .listString => do
      if ← noMore F then
        failed F
      readStrings F

namespace Reply

/-- A connection that wants no answer has a null writer. -/
def write (h : Helper) (ret : h.ret.Value) : WriteM F Unit := do
  if !F.isNull (← get) then
    attempt F (F.writeListHeader h.replyLen)
    writeRet F h.ret ret

def read (h : Helper) : ReadM F h.ret.Value := do
  if !(← modifyGet F.readListReturn) then
    throw ()
  readRet F h.ret

end Reply

-- ============================================================================
-- What one operation does
-- ============================================================================

section Operations

variable {F}
variable {r r' : F.Reader} {w w' : F.Writer}

theorem attempt_run {op : F.Writer → Bool × F.Writer} (h : op w = (true, w')) :
    (attempt F op).run w = .ok () w' := by
  show EStateM.run (modifyGet op >>= _) w = _
  rw [EStateM.run_bind]
  simp [h]

theorem expect_run {α : Type} {op : F.Reader → Option α × F.Reader} {x : α}
    (h : op r = (some x, r')) : (expect F op).run r = .ok x r' := by
  show EStateM.run (modifyGet op >>= _) r = _
  rw [EStateM.run_bind]
  simp [h]

@[simp] theorem noMore_run : (noMore F).run r = .ok (F.noMore r) r := rfl

@[simp] theorem isError_run : (isError F).run r = .ok (F.isError r) r := rfl

theorem readListBegin_run {t code : BitVec 32} {n : Nat}
    (h : F.readListBegin r = ((code, n), r')) (hcode : n ≠ 0 → code = expectedTag F t) :
    (readListBegin F t).run r = .ok n r' := by
  have hno : ¬ (¬expectedTag F t = 0#32 ∧ ¬n = 0 ∧ ¬code = expectedTag F t) :=
    fun ⟨_, hn, hne⟩ => hne (hcode hn)
  show EStateM.run (modifyGet F.readListBegin >>= _) r = _
  rw [EStateM.run_bind]
  simp [h, hno]

end Operations

-- ============================================================================
-- Items of arguments and answers
-- ============================================================================

def ArgType.item : (t : ArgType) → t.Value → Item Matrix
  | .string, x => .string x
  | .float64, x => .float64 x
  | .listFloat64, x => .listFloat64 x
  | .nested, x => .nested x

/-- The items of the arguments, one for each. -/
def Args.items : (ts : List ArgType) → Args ts → List (Item Matrix)
  | [], _ => []
  | t :: ts, (x, xs) => t.item x :: Args.items ts xs

/-- The items of the message of a call. -/
def Helper.items (h : Helper) (args : Args h.args) : List (Item Matrix) :=
  (words h.tag).map .word ++ Args.items h.args args

def RetType.items : (t : RetType) → t.Value → List (Item Matrix)
  | .void, _ => []
  | .bool, b => [.bool b]
  | .listString, ss => [.listString ss]

@[simp] theorem Args.length_items (ts : List ArgType) (xs : Args ts) :
    (Args.items ts xs).length = ts.length := by
  induction ts with
  | nil => rfl
  | cons t ts ih =>
      obtain ⟨x, xs⟩ := xs
      simp [Args.items, ih]

@[simp] theorem RetType.length_items (t : RetType) (x : t.Value) :
    (t.items x).length = t.length := by
  cases t <;> rfl

/-- The header of a command announces what follows it. -/
theorem Helper.length_items (h : Helper) (args : Args h.args) :
    (h.items args).length = h.cmdLen := by
  rw [Helper.items, List.length_append, List.length_map, Args.length_items, h.cmdLen_eq,
    h.tagLen_eq]

-- ============================================================================
-- Writing
-- ============================================================================

section Writing

variable {F} (L : F.Lawful) {w : F.Writer} {n k : Nat} {is : List (Item Matrix)}

theorem writeDoubles_run (xs : List Double) (hw : L.Written w n is) :
    ∃ w', (writeDoubles F xs).run w = .ok () w' ∧
      L.Written w' n (is ++ [.listFloat64 xs]) := by
  obtain ⟨w₁, w₂, w', h₁, h₂, h₃, hw'⟩ := L.writeDoubles w n is xs hw
  refine ⟨w', ?_, hw'⟩
  simp only [writeDoubles, EStateM.run_bind, attempt_run h₁, attempt_run h₂]
  exact attempt_run h₃

theorem writeArg_run (t : ArgType) (x : t.Value) (hw : L.Written w n is) :
    ∃ w', (writeArg F t x).run w = .ok () w' ∧ L.Written w' n (is ++ [t.item x]) := by
  cases t with
  | string =>
      obtain ⟨w', h, hw'⟩ := L.writeString w n is x hw
      exact ⟨w', attempt_run h, hw'⟩
  | float64 =>
      obtain ⟨w', h, hw'⟩ := L.writeFloat64 w n is x hw
      exact ⟨w', attempt_run h, hw'⟩
  | listFloat64 => exact writeDoubles_run L x hw
  | nested =>
      obtain ⟨w', h, hw'⟩ := L.writeNested w n is x hw
      exact ⟨w', attempt_run h, hw'⟩

theorem writeArgs_run (ts : List ArgType) (xs : Args ts) (hw : L.Written w n is) :
    ∃ w', (writeArgs F ts xs).run w = .ok () w' ∧
      L.Written w' n (is ++ Args.items ts xs) := by
  induction ts generalizing w is with
  | nil => exact ⟨w, rfl, by simpa [Args.items] using hw⟩
  | cons t ts ih =>
      obtain ⟨x, xs⟩ := xs
      obtain ⟨w₁, h₁, hw₁⟩ := writeArg_run L t x hw
      obtain ⟨w', h', hw'⟩ := ih xs hw₁
      refine ⟨w', ?_, by simpa [Args.items] using hw'⟩
      rw [writeArgs, EStateM.run_bind, h₁]
      exact h'

theorem writeStringItems_run (ss ts : List String) (hw : L.WrittenStrings w n is k ts) :
    ∃ w', (writeStringItems F ss).run w = .ok () w' ∧
      L.WrittenStrings w' n is k (ts ++ ss) := by
  induction ss generalizing w ts with
  | nil => exact ⟨w, rfl, by simpa using hw⟩
  | cons s ss ih =>
      obtain ⟨w₁, h₁, hw₁⟩ := L.writeStringItem w n is k ts s hw
      obtain ⟨w', h', hw'⟩ := ih (ts ++ [s]) hw₁
      refine ⟨w', ?_, by simpa using hw'⟩
      rw [writeStringItems, EStateM.run_bind, attempt_run h₁]
      exact h'

theorem writeStrings_run (ss : List String) (hw : L.Written w n is) :
    ∃ w', (writeStrings F ss).run w = .ok () w' ∧ L.Written w' n (is ++ [.listString ss]) := by
  obtain ⟨w₁, h₁, hw₁⟩ := L.writeListBegin_string w n is ss.length hw
  obtain ⟨w₂, h₂, hw₂⟩ := writeStringItems_run L ss [] hw₁
  rw [List.nil_append] at hw₂
  obtain ⟨w', h', hw'⟩ := L.writeListEnd_string w₂ n is ss hw₂
  refine ⟨w', ?_, hw'⟩
  simp only [writeStrings, EStateM.run_bind, attempt_run h₁, h₂]
  exact attempt_run h'

theorem writeRet_run (t : RetType) (x : t.Value) (hw : L.Written w n is) :
    ∃ w', (writeRet F t x).run w = .ok () w' ∧ L.Written w' n (is ++ t.items x) := by
  cases t with
  | void => exact ⟨w, rfl, by simpa [RetType.items] using hw⟩
  | bool =>
      obtain ⟨w', h, hw'⟩ := L.writeBool w n is x hw
      exact ⟨w', attempt_run h, hw'⟩
  | listString => exact writeStrings_run L x hw

/-- A command is written whole. -/
theorem Command.write_run (h : Helper) (args : Args h.args) (hw : L.Fresh w) :
    ∃ w', (Command.write F h args).run w = .ok () w' ∧
      L.Written w' (h.items args).length (h.items args) := by
  obtain ⟨w₁, h₁, hw₁⟩ := L.writeListHeader w h.cmdLen hw
  obtain ⟨w₂, h₂, hw₂⟩ := L.writeTag w₁ h.cmdLen [] h.tag hw₁
  rw [← h.tagLen_eq] at h₂
  obtain ⟨w', h', hw'⟩ := writeArgs_run L h.args args hw₂
  refine ⟨w', ?_, ?_⟩
  · simp only [Command.write, Command.writeTag, EStateM.run_bind, attempt_run h₁,
      attempt_run h₂]
    exact h'
  · rw [h.length_items]
    simpa [Helper.items] using hw'

/-- So is an answer. -/
theorem Reply.write_run (h : Helper) (ret : h.ret.Value) (hw : L.Fresh w)
    (hnull : F.isNull w = false) :
    ∃ w', (Reply.write F h ret).run w = .ok () w' ∧
      L.Written w' (h.ret.items ret).length (h.ret.items ret) := by
  obtain ⟨w₁, h₁, hw₁⟩ := L.writeListHeader w h.replyLen hw
  obtain ⟨w', h', hw'⟩ := writeRet_run L h.ret ret hw₁
  refine ⟨w', ?_, ?_⟩
  · show EStateM.run (get >>= _) w = _
    simp only [EStateM.run_bind, EStateM.run_get, hnull, Bool.not_false, if_true,
      attempt_run h₁]
    exact h'
  · rw [RetType.length_items, ← h.replyLen_eq]
    simpa using hw'

end Writing

-- ============================================================================
-- Reading
-- ============================================================================

section Reading

variable {F} (L : F.Lawful) {r : F.Reader} {is : List (Item Matrix)}

theorem readDoubles_run (xs : List Double) (hr : L.Pending r (.listFloat64 xs :: is)) :
    ∃ r', (readDoubles F).run r = .ok xs r' ∧ L.Pending r' is := by
  obtain ⟨code, r₁, hbegin, hcode, hrest⟩ := L.readDoubles r xs is hr
  have hlist : (readListBegin F F.tagFloat64).run r = .ok xs.length r₁ :=
    readListBegin_run hbegin fun hn => hcode fun hxs => hn (by rw [hxs]; rfl)
  by_cases hxs : xs = []
  · rw [if_pos hxs] at hrest
    refine ⟨F.readListEnd r₁, ?_, hrest⟩
    rw [readDoubles, EStateM.run_bind, hlist, hxs]
    rfl
  · rw [if_neg hxs] at hrest
    obtain ⟨r₂, hblock, hend⟩ := hrest
    refine ⟨F.readListEnd r₂, ?_, hend⟩
    have hlen : xs.length ≠ 0 := fun h => hxs (List.length_eq_zero_iff.mp h)
    rw [readDoubles, EStateM.run_bind, hlist]
    simp only [hlen, if_false, EStateM.run_bind, EStateM.run_modifyGet, hblock]
    rfl

theorem readArg_run (t : ArgType) (x : t.Value) (hr : L.Pending r (t.item x :: is)) :
    ∃ r', (readArg F t).run r = .ok x r' ∧ L.Pending r' is := by
  have hmore : F.noMore r = false := L.noMore_cons r _ is hr
  have hvalue : ∃ r', (readValue F t).run r = .ok x r' ∧ L.Pending r' is := by
    cases t with
    | string =>
        obtain ⟨r', h, hr'⟩ := L.readString r x is hr
        exact ⟨r', expect_run h, hr'⟩
    | float64 =>
        obtain ⟨r', h, hr'⟩ := L.readFloat64 r x is hr
        exact ⟨r', expect_run h, hr'⟩
    | listFloat64 => exact readDoubles_run L x hr
    | nested =>
        obtain ⟨r', h, hr'⟩ := L.readNested r x is hr
        exact ⟨r', expect_run h, hr'⟩
  obtain ⟨r', h, hr'⟩ := hvalue
  refine ⟨r', ?_, hr'⟩
  rw [readArg, EStateM.run_bind, noMore_run, hmore]
  exact h

theorem readArgs_run (ts : List ArgType) (xs : Args ts) (hr : L.Pending r (Args.items ts xs)) :
    ∃ r', (readArgs F ts).run r = .ok xs r' ∧ L.Pending r' [] := by
  induction ts generalizing r with
  | nil =>
      refine ⟨r, ?_, hr⟩
      rw [readArgs, EStateM.run_bind, noMore_run, L.noMore_nil r hr]
      rfl
  | cons t ts ih =>
      obtain ⟨x, xs⟩ := xs
      obtain ⟨r₁, h₁, hr₁⟩ := readArg_run L t x hr
      obtain ⟨r', h', hr'⟩ := ih xs hr₁
      refine ⟨r', ?_, hr'⟩
      show EStateM.run (readArg F t >>= fun x => readArgs F ts >>= fun xs => pure (x, xs)) r = _
      rw [EStateM.run_bind, h₁]
      show EStateM.run (readArgs F ts >>= _) r₁ = _
      rw [EStateM.run_bind, h']
      rfl

theorem readStringItems_run (ss : List String) (hr : L.PendingStrings r ss is) :
    ∃ r', (readStringItems F ss.length).run r = .ok ss r' ∧ L.PendingStrings r' [] is := by
  induction ss generalizing r with
  | nil => exact ⟨r, rfl, hr⟩
  | cons s ss ih =>
      obtain ⟨r₁, h₁, hr₁⟩ := L.readString_item r s ss is hr
      obtain ⟨r', h', hr'⟩ := ih hr₁
      refine ⟨r', ?_, hr'⟩
      rw [List.length_cons, readStringItems, EStateM.run_bind, noMore_run,
        L.noMore_string r s ss is hr]
      show EStateM.run (expect F F.readString >>= _) r = _
      rw [EStateM.run_bind, expect_run h₁]
      show EStateM.run (readStringItems F ss.length >>= _) r₁ = _
      rw [EStateM.run_bind, h']
      rfl

theorem readStrings_run (ss : List String) (hr : L.Pending r (.listString ss :: is)) :
    ∃ r', (readStrings F).run r = .ok ss r' ∧ L.Pending r' is := by
  obtain ⟨code, r₁, hbegin, hcode, hr₁⟩ := L.readListBegin_string r ss is hr
  have hlist : (readListBegin F F.tagString).run r = .ok ss.length r₁ :=
    readListBegin_run hbegin fun hn => hcode fun hss => hn (by rw [hss]; rfl)
  obtain ⟨r₂, h₂, hr₂⟩ := readStringItems_run L ss hr₁
  refine ⟨F.readListEnd r₂, ?_, L.readListEnd_string r₂ is hr₂⟩
  simp only [readStrings, EStateM.run_bind, hlist, h₂]
  rfl

theorem readRet_run (t : RetType) (x : t.Value) (hr : L.Pending r (t.items x)) :
    ∃ r', (readRet F t).run r = .ok x r' ∧ L.Pending r' [] := by
  cases t with
  | void => exact ⟨r, rfl, hr⟩
  | bool =>
      obtain ⟨r', h, hr'⟩ := L.readBool r x [] hr
      refine ⟨r', ?_, hr'⟩
      rw [readRet, EStateM.run_bind, noMore_run, L.noMore_cons r _ [] hr]
      exact expect_run h
  | listString =>
      obtain ⟨r', h, hr'⟩ := readStrings_run L x hr
      refine ⟨r', ?_, hr'⟩
      rw [readRet, EStateM.run_bind, noMore_run, L.noMore_cons r _ [] hr]
      exact h

theorem Command.readTag_run (h : Helper) (hr : L.Pending r ((words h.tag).map .word ++ is)) :
    ∃ r', (Command.readTag F h).run r = .ok () r' ∧ L.Pending r' is := by
  obtain ⟨r', htag, hr'⟩ := L.readTag r (words h.tag) is (words_ne_nil h.tag) hr
  rw [← h.tagLen_eq, joinWords_words] at htag
  refine ⟨r', ?_, hr'⟩
  show EStateM.run (modifyGet (F.readTag h.tagLen) >>= _) r = _
  rw [EStateM.run_bind]
  simp [htag, L.isError r' is hr']

/-- A command that has arrived is read with the arguments it was sent with. -/
theorem Command.read_run (h : Helper) (args : Args h.args) (hr : L.Arrived r (h.items args)) :
    ∃ r', (Command.read F h).run r = .ok args r' ∧ L.Pending r' [] := by
  obtain ⟨r₁, h₁, hr₁⟩ := L.readListHeader r _ hr
  obtain ⟨r₂, h₂, hr₂⟩ := Command.readTag_run L h hr₁
  obtain ⟨r', h', hr'⟩ := readArgs_run L h.args args hr₂
  refine ⟨r', ?_, hr'⟩
  show EStateM.run (modifyGet F.readListHeader >>= _) r = _
  rw [EStateM.run_bind]
  simp [h₁, h₂, h']

theorem Reply.read_run (h : Helper) (ret : h.ret.Value)
    (hr : L.Arrived r (h.ret.items ret)) :
    ∃ r', (Reply.read F h).run r = .ok ret r' ∧ L.Pending r' [] := by
  obtain ⟨r₁, h₁, hr₁⟩ := L.readListReturn r _ hr
  obtain ⟨r', h', hr'⟩ := readRet_run L h.ret ret hr₁
  refine ⟨r', ?_, hr'⟩
  show EStateM.run (modifyGet F.readListReturn >>= _) r = _
  rw [EStateM.run_bind]
  simp [h₁, h']

end Reading

end ErgoCubBehavior
