/-
  ErgoCubBehavior.Lib.Wire

  Remote calls over a connection of typed values.

  A message is a list header and that many items.  The first items spell the tag
  of the call, one word for each piece between underscores; the arguments follow.
  The answer is a message again.

  * `words`, `joinWords` — a tag taken apart and put together;
  * `Format` — the operations on the reader and the writer of a connection, with
    nothing said about what they do;
  * `Format.Lawful` — what a reader is promised about a message that was written
    with the same format, in terms of the items of the message;
  * `bottle` — a format that keeps the items as they are, and its laws.
-/

import ErgoCubBehavior.Lib.Binary64
import Mathlib.Data.List.Induction

namespace Wire

open Binary64

-- ============================================================================
-- Tags and their words
-- ============================================================================

/-- The pieces of a tag between its underscores. -/
def words (tag : String) : List String :=
  (tag.toList.splitOn '_').map String.ofList

/-- Words put together again. -/
def joinWords (ws : List String) : String :=
  "_".intercalate ws

/-- How often a tag has an underscore. -/
def underscores (tag : String) : Nat :=
  tag.toList.count '_'

@[simp] theorem joinWords_singleton (w : String) : joinWords [w] = w :=
  String.intercalate_singleton

theorem joinWords_words (tag : String) : joinWords (words tag) = tag := by
  apply String.ext
  have hid : String.toList ∘ String.ofList = id := funext fun _ => String.toList_ofList
  rw [joinWords, String.toList_intercalate, words, List.map_map, hid, List.map_id]
  exact List.intercalate_splitOn '_'

theorem words_ne_nil (tag : String) : words tag ≠ [] := by
  intro h
  rw [words, List.map_eq_nil_iff] at h
  exact List.splitOn_ne_nil _ _ h

theorem underscores_append (s t : String) :
    underscores (s ++ t) = underscores s + underscores t := by
  simp [underscores]

@[simp] theorem underscores_underscore : underscores "_" = 1 := by
  decide

/-- Each word of a tag but the first comes behind an underscore. -/
theorem length_words (tag : String) : (words tag).length = underscores tag + 1 := by
  have h : ∀ l : List Char, (l.splitOn '_').length = l.count '_' + 1 := by
    intro l
    induction l with
    | nil => rfl
    | cons c l ih =>
        rw [List.splitOn_cons_eq_if_modifyHead]
        by_cases hc : c = '_'
        · simp [hc, ih]
        · simp [hc, ih]
  rw [words, List.length_map, h, underscores]

/-- The first word with the underscore behind it is a prefix of the tag. -/
theorem joinWords_prefix (w : String) {ws : List String} (hws : ws ≠ []) :
    (w ++ "_").toList <+: (joinWords (w :: ws)).toList := by
  rw [joinWords, String.intercalate_cons_of_ne_nil hws, String.toList_append (t := "_".intercalate ws)]
  exact List.prefix_append _ _

/-- The first two words may be taken as one. -/
theorem joinWords_cons_cons (w v : String) (ws : List String) :
    joinWords (w :: v :: ws) = joinWords ((w ++ "_" ++ v) :: ws) := by
  cases ws with
  | nil => simp [joinWords]
  | cons u us => simp [joinWords, String.append_assoc]

theorem underscores_joinWords (w : String) (ws : List String) :
    underscores w + ws.length ≤ underscores (joinWords (w :: ws)) := by
  induction ws generalizing w with
  | nil => simp
  | cons v vs ih =>
      have hstep := ih (w ++ "_" ++ v)
      rw [underscores_append, underscores_append, underscores_underscore] at hstep
      rw [joinWords_cons_cons, List.length_cons]
      omega

-- ============================================================================
-- Formats
-- ============================================================================

/-- The operations on the two ends of a connection.  An operation that may fail
    answers `false` or `none`; nothing is said about what it leaves behind.
    `Nested` are the objects that know how to read and write themselves. -/
structure Format (Nested : Type) where
  Reader : Type
  Writer : Type
  -- element types of a list, as they stand in its header
  tagFloat64 : BitVec 32
  tagString : BitVec 32
  tagList : BitVec 32
  -- the reader
  expectAccept : Reader → Reader
  accept : Reader → Reader
  fail : Reader → Reader
  isError : Reader → Bool
  noMore : Reader → Bool
  readListHeader : Reader → Bool × Reader
  readListReturn : Reader → Bool × Reader
  readTag : Nat → Reader → String × Reader
  readString : Reader → Option String × Reader
  readFloat64 : Reader → Option Double × Reader
  readBool : Reader → Option Bool × Reader
  readNested : Reader → Option Nested × Reader
  /-- the element type and the length of the list that begins -/
  readListBegin : Reader → (BitVec 32 × Nat) × Reader
  readBlock : Nat → Reader → Option (List Double) × Reader
  readListEnd : Reader → Reader
  -- the writer
  isNull : Writer → Bool
  writeListHeader : Nat → Writer → Bool × Writer
  /-- the tag, whether it is split into words, and into how many -/
  writeTag : String → Bool → Nat → Writer → Bool × Writer
  writeString : String → Writer → Bool × Writer
  /-- a string that is an element of a list -/
  writeStringItem : String → Writer → Bool × Writer
  writeFloat64 : Double → Writer → Bool × Writer
  writeBool : Bool → Writer → Bool × Writer
  writeNested : Nested → Writer → Bool × Writer
  writeListBegin : BitVec 32 → Nat → Writer → Bool × Writer
  writeBlock : List Double → Writer → Bool × Writer
  writeListEnd : Writer → Bool × Writer
  -- the connection
  /-- a writer on which nothing has been written -/
  newWriter : Writer
  /-- the writer for the answer to the message of a reader -/
  replyWriter : Reader → Writer
  /-- the reader that the other end gets -/
  deliver : Writer → Reader

/-- One item of a message. -/
inductive Item (Nested : Type) where
  | word (w : String)
  | string (s : String)
  | float64 (x : Double)
  | bool (b : Bool)
  | listFloat64 (xs : List Double)
  | listString (xs : List String)
  | nested (m : Nested)

/-- What the two ends promise each other, in terms of the items of a message.
    Nothing is promised to a reader that asks for the wrong kind of item. -/
structure Format.Lawful {Nested : Type} (F : Format Nested) where
  /-- a header that announces `n` items and then these items have been written -/
  Written : F.Writer → Nat → List (Item Nested) → Prop
  /-- the same, and a list of `k` strings has begun, of which these are there -/
  WrittenStrings : F.Writer → Nat → List (Item Nested) → Nat → List String → Prop
  /-- nothing has been written -/
  Fresh : F.Writer → Prop
  /-- a message of these items has arrived, and its header has not been read -/
  Arrived : F.Reader → List (Item Nested) → Prop
  /-- these items are still to be read, and no error has occurred -/
  Pending : F.Reader → List (Item Nested) → Prop
  /-- these elements of a list of strings are still to be read, and then these items -/
  PendingStrings : F.Reader → List String → List (Item Nested) → Prop
  -- writing
  fresh_newWriter : Fresh F.newWriter
  fresh_replyWriter : ∀ r, Pending r [] →
    Fresh (F.replyWriter r) ∧ F.isNull (F.replyWriter r) = false
  writeListHeader : ∀ w n, Fresh w →
    ∃ w', F.writeListHeader n w = (true, w') ∧ Written w' n []
  writeTag : ∀ w n is tag, Written w n is →
    ∃ w', F.writeTag tag true (words tag).length w = (true, w') ∧
      Written w' n (is ++ (words tag).map .word)
  writeString : ∀ w n is s, Written w n is →
    ∃ w', F.writeString s w = (true, w') ∧ Written w' n (is ++ [.string s])
  writeFloat64 : ∀ w n is x, Written w n is →
    ∃ w', F.writeFloat64 x w = (true, w') ∧ Written w' n (is ++ [.float64 x])
  writeBool : ∀ w n is b, Written w n is →
    ∃ w', F.writeBool b w = (true, w') ∧ Written w' n (is ++ [.bool b])
  writeNested : ∀ w n is m, Written w n is →
    ∃ w', F.writeNested m w = (true, w') ∧ Written w' n (is ++ [.nested m])
  writeDoubles : ∀ w n is xs, Written w n is →
    ∃ w₁ w₂ w', F.writeListBegin F.tagFloat64 xs.length w = (true, w₁) ∧
      F.writeBlock xs w₁ = (true, w₂) ∧ F.writeListEnd w₂ = (true, w') ∧
      Written w' n (is ++ [.listFloat64 xs])
  writeListBegin_string : ∀ w n is k, Written w n is →
    ∃ w', F.writeListBegin F.tagString k w = (true, w') ∧ WrittenStrings w' n is k []
  writeStringItem : ∀ w n is k ss s, WrittenStrings w n is k ss →
    ∃ w', F.writeStringItem s w = (true, w') ∧ WrittenStrings w' n is k (ss ++ [s])
  writeListEnd_string : ∀ w n is ss, WrittenStrings w n is ss.length ss →
    ∃ w', F.writeListEnd w = (true, w') ∧ Written w' n (is ++ [.listString ss])
  -- a header that announces as many items as follow is understood
  deliver : ∀ w is, Written w is.length is → Arrived (F.deliver w) is
  -- reading
  expectAccept : ∀ r is, Arrived r is → Arrived (F.expectAccept r) is
  readListHeader : ∀ r is, Arrived r is →
    ∃ r', F.readListHeader r = (true, r') ∧ Pending r' is
  readListReturn : ∀ r is, Arrived r is →
    ∃ r', F.readListReturn r = (true, r') ∧ Pending r' is
  isError : ∀ r is, Pending r is → F.isError r = false
  noMore_nil : ∀ r, Pending r [] → F.noMore r = true
  noMore_cons : ∀ r i is, Pending r (i :: is) → F.noMore r = false
  readTag : ∀ r ws is, ws ≠ [] → Pending r (ws.map .word ++ is) →
    ∃ r', F.readTag ws.length r = (joinWords ws, r') ∧ Pending r' is
  readString : ∀ r s is, Pending r (.string s :: is) →
    ∃ r', F.readString r = (some s, r') ∧ Pending r' is
  readFloat64 : ∀ r x is, Pending r (.float64 x :: is) →
    ∃ r', F.readFloat64 r = (some x, r') ∧ Pending r' is
  readBool : ∀ r b is, Pending r (.bool b :: is) →
    ∃ r', F.readBool r = (some b, r') ∧ Pending r' is
  readNested : ∀ r m is, Pending r (.nested m :: is) →
    ∃ r', F.readNested r = (some m, r') ∧ Pending r' is
  /-- the reader takes the mark of a list off the element type; an empty block need
      not be read -/
  readDoubles : ∀ r xs is, Pending r (.listFloat64 xs :: is) →
    ∃ code r₁, F.readListBegin r = ((code, xs.length), r₁) ∧
      (xs ≠ [] → code = F.tagFloat64 &&& ~~~F.tagList) ∧
      if xs = [] then Pending (F.readListEnd r₁) is
      else ∃ r₂, F.readBlock xs.length r₁ = (some xs, r₂) ∧ Pending (F.readListEnd r₂) is
  readListBegin_string : ∀ r ss is, Pending r (.listString ss :: is) →
    ∃ code r', F.readListBegin r = ((code, ss.length), r') ∧
      (ss ≠ [] → code = F.tagString &&& ~~~F.tagList) ∧ PendingStrings r' ss is
  noMore_string : ∀ r s ss is, PendingStrings r (s :: ss) is → F.noMore r = false
  readString_item : ∀ r s ss is, PendingStrings r (s :: ss) is →
    ∃ r', F.readString r = (some s, r') ∧ PendingStrings r' ss is
  readListEnd_string : ∀ r is, PendingStrings r [] is → Pending (F.readListEnd r) is

-- ============================================================================
-- A format that keeps the items
-- ============================================================================

section Bottle

variable {Nested : Type}

/-- The items written so far, behind a header that announced some number of them;
    the list that is being written, if there is one. -/
structure BottleWriter (Nested : Type) where
  announced : Nat
  items : List (Item Nested)
  listType : BitVec 32
  strings : List String
  doubles : List Double

/-- The items still to be read; the list of strings that is being read, if there is
    one; what the header announced. -/
structure BottleReader (Nested : Type) where
  announced : Nat
  items : List (Item Nested)
  strings : Option (List String)
  error : Bool

namespace BottleWriter

def empty : BottleWriter Nested :=
  { announced := 0, items := [], listType := 0, strings := [], doubles := [] }

def append (w : BottleWriter Nested) (is : List (Item Nested)) : BottleWriter Nested :=
  { w with items := w.items ++ is }

/-- The list that has been written becomes an item. -/
def listEnd (w : BottleWriter Nested) : BottleWriter Nested :=
  if w.listType = 10 then w.append [.listFloat64 w.doubles]
  else w.append [.listString w.strings]

end BottleWriter

namespace BottleReader

def headerOk (r : BottleReader Nested) : Bool :=
  r.announced == r.items.length

/-- The first `n` words. -/
def readTag : Nat → BottleReader Nested → List String → List String × BottleReader Nested
  | 0, r, ws => (ws, r)
  | n + 1, r, ws =>
      match r.items with
      | .word w :: is => readTag n { r with items := is } (ws ++ [w])
      | _ => (ws, { r with error := true })

def readString (r : BottleReader Nested) : Option String × BottleReader Nested :=
  match r.strings, r.items with
  | some (s :: ss), _ => (some s, { r with strings := some ss })
  | none, .string s :: is => (some s, { r with items := is })
  | _, _ => (none, r)

def readFloat64 (r : BottleReader Nested) : Option Double × BottleReader Nested :=
  match r.items with
  | .float64 x :: is => (some x, { r with items := is })
  | _ => (none, r)

def readBool (r : BottleReader Nested) : Option Bool × BottleReader Nested :=
  match r.items with
  | .bool b :: is => (some b, { r with items := is })
  | _ => (none, r)

def readNested (r : BottleReader Nested) : Option Nested × BottleReader Nested :=
  match r.items with
  | .nested m :: is => (some m, { r with items := is })
  | _ => (none, r)

def readListBegin (r : BottleReader Nested) : (BitVec 32 × Nat) × BottleReader Nested :=
  match r.items with
  | .listFloat64 xs :: _ => ((10, xs.length), r)
  | .listString ss :: is => ((5, ss.length), { r with items := is, strings := some ss })
  | _ => ((0, 0), r)

def readBlock (n : Nat) (r : BottleReader Nested) :
    Option (List Double) × BottleReader Nested :=
  match r.items with
  | .listFloat64 xs :: _ => (if xs.length = n then some xs else none, r)
  | _ => (none, r)

def readListEnd (r : BottleReader Nested) : BottleReader Nested :=
  match r.strings, r.items with
  | some _, _ => { r with strings := none }
  | none, .listFloat64 _ :: is => { r with items := is }
  | none, _ => r

end BottleReader

/-- A connection over which items travel as they are. -/
def bottle (Nested : Type) : Format Nested where
  Reader := BottleReader Nested
  Writer := BottleWriter Nested
  tagFloat64 := 10
  tagString := 5
  tagList := 256
  expectAccept r := r
  accept r := r
  fail r := { r with error := true }
  isError r := r.error
  noMore r := match r.strings with
    | some ss => ss.isEmpty
    | none => r.items.isEmpty
  readListHeader r := (r.headerOk, r)
  readListReturn r := (r.headerOk, r)
  readTag n r := (joinWords (r.readTag n []).1, (r.readTag n []).2)
  readString r := r.readString
  readFloat64 r := r.readFloat64
  readBool r := r.readBool
  readNested r := r.readNested
  readListBegin r := r.readListBegin
  readBlock n r := r.readBlock n
  readListEnd r := r.readListEnd
  isNull _ := false
  writeListHeader n w := (true, { w with announced := n })
  writeTag tag split _ w :=
    (true, w.append (if split then (words tag).map .word else [.word tag]))
  writeString s w := (true, w.append [.string s])
  writeStringItem s w := (true, { w with strings := w.strings ++ [s] })
  writeFloat64 x w := (true, w.append [.float64 x])
  writeBool b w := (true, w.append [.bool b])
  writeNested m w := (true, w.append [.nested m])
  writeListBegin t _ w := (true, { w with listType := t, strings := [], doubles := [] })
  writeBlock xs w := (true, { w with doubles := xs })
  writeListEnd w := (true, w.listEnd)
  newWriter := BottleWriter.empty
  replyWriter _ := BottleWriter.empty
  deliver w := { announced := w.announced, items := w.items, strings := none, error := false }

/-- Reading as many words as there are in front. -/
theorem BottleReader.readTag_words (ws : List String) (is : List (Item Nested))
    (r : BottleReader Nested) (vs : List String) (hr : r.items = ws.map .word ++ is) :
    r.readTag ws.length vs = (vs ++ ws, { r with items := is }) := by
  induction ws generalizing r vs with
  | nil =>
      simp only [List.map_nil, List.nil_append] at hr
      subst hr
      simp [BottleReader.readTag]
  | cons w ws ih =>
      simp only [List.map_cons, List.cons_append] at hr
      rw [List.length_cons, BottleReader.readTag, hr]
      simp only
      rw [ih]
      · simp
      · rfl

/-- The laws hold of `bottle`. -/
def bottle_lawful (Nested : Type) : (bottle Nested).Lawful where
  Written w n is := w.announced = n ∧ w.items = is
  WrittenStrings w n is _ ss := w.announced = n ∧ w.items = is ∧ w.listType = 5 ∧ w.strings = ss
  Fresh w := w.items = []
  Arrived r is := r.announced = is.length ∧ r.items = is ∧ r.strings = none ∧ r.error = false
  Pending r is := r.items = is ∧ r.strings = none ∧ r.error = false
  PendingStrings r ss is := r.items = is ∧ r.strings = some ss ∧ r.error = false
  fresh_newWriter := rfl
  fresh_replyWriter _ _ := ⟨rfl, rfl⟩
  writeListHeader w n hw := ⟨_, rfl, rfl, hw⟩
  writeTag w n is tag hw := ⟨_, rfl, hw.1, by simp [BottleWriter.append, hw.2]⟩
  writeString w n is s hw := ⟨_, rfl, hw.1, by simp [BottleWriter.append, hw.2]⟩
  writeFloat64 w n is x hw := ⟨_, rfl, hw.1, by simp [BottleWriter.append, hw.2]⟩
  writeBool w n is b hw := ⟨_, rfl, hw.1, by simp [BottleWriter.append, hw.2]⟩
  writeNested w n is m hw := ⟨_, rfl, hw.1, by simp [BottleWriter.append, hw.2]⟩
  writeDoubles w n is xs hw := by
    refine ⟨_, _, _, rfl, rfl, rfl, ?_, ?_⟩
    · simpa [bottle, BottleWriter.listEnd, BottleWriter.append] using hw.1
    · simp [bottle, BottleWriter.listEnd, BottleWriter.append, hw.2]
  writeListBegin_string w n is k hw := ⟨_, rfl, hw.1, hw.2, rfl, rfl⟩
  writeStringItem w n is k ss s hw := ⟨_, rfl, hw.1, hw.2.1, hw.2.2.1, by simp [hw.2.2.2]⟩
  writeListEnd_string w n is ss hw := by
    obtain ⟨hn, his, ht, hss⟩ := hw
    refine ⟨_, rfl, ?_, ?_⟩
    · simpa [BottleWriter.listEnd, BottleWriter.append, ht] using hn
    · simp [BottleWriter.listEnd, BottleWriter.append, ht, his, hss]
  deliver w is hw := ⟨hw.1, hw.2, rfl, rfl⟩
  expectAccept r is hr := hr
  readListHeader r is hr := by
    obtain ⟨hn, his, hss, herr⟩ := hr
    exact ⟨r, by simp [bottle, BottleReader.headerOk, hn, his], his, hss, herr⟩
  readListReturn r is hr := by
    obtain ⟨hn, his, hss, herr⟩ := hr
    exact ⟨r, by simp [bottle, BottleReader.headerOk, hn, his], his, hss, herr⟩
  isError r is hr := hr.2.2
  noMore_nil r hr := by simp [bottle, hr.1, hr.2.1]
  noMore_cons r i is hr := by simp [bottle, hr.1, hr.2.1]
  readTag r ws is _ hr := by
    obtain ⟨his, hss, herr⟩ := hr
    refine ⟨{ r with items := is }, ?_, rfl, hss, herr⟩
    simp only [bottle, BottleReader.readTag_words ws is r [] his, List.nil_append]
  readString r s is hr := by
    obtain ⟨his, hss, herr⟩ := hr
    exact ⟨{ r with items := is }, by simp [bottle, BottleReader.readString, his, hss],
      rfl, hss, herr⟩
  readFloat64 r x is hr := by
    obtain ⟨his, hss, herr⟩ := hr
    exact ⟨{ r with items := is }, by simp [bottle, BottleReader.readFloat64, his],
      rfl, hss, herr⟩
  readBool r b is hr := by
    obtain ⟨his, hss, herr⟩ := hr
    exact ⟨{ r with items := is }, by simp [bottle, BottleReader.readBool, his],
      rfl, hss, herr⟩
  readNested r m is hr := by
    obtain ⟨his, hss, herr⟩ := hr
    exact ⟨{ r with items := is }, by simp [bottle, BottleReader.readNested, his],
      rfl, hss, herr⟩
  readDoubles r xs is hr := by
    obtain ⟨his, hss, herr⟩ := hr
    have hend : (bottle Nested).readListEnd r = { r with items := is } := by
      simp [bottle, BottleReader.readListEnd, his, hss]
    refine ⟨10, r, by simp [bottle, BottleReader.readListBegin, his],
      fun _ => by simp [bottle], ?_⟩
    split
    · rw [hend]
      exact ⟨rfl, hss, herr⟩
    · refine ⟨r, by simp [bottle, BottleReader.readBlock, his], ?_⟩
      rw [hend]
      exact ⟨rfl, hss, herr⟩
  readListBegin_string r ss is hr := by
    obtain ⟨his, hss, herr⟩ := hr
    exact ⟨5, { r with items := is, strings := some ss },
      by simp [bottle, BottleReader.readListBegin, his], fun _ => by simp [bottle],
      rfl, rfl, herr⟩
  noMore_string r s ss is hr := by simp [bottle, hr.2.1]
  readString_item r s ss is hr := by
    obtain ⟨his, hss, herr⟩ := hr
    exact ⟨{ r with strings := some ss }, by simp [bottle, BottleReader.readString, hss],
      his, rfl, herr⟩
  readListEnd_string r is hr := by
    obtain ⟨his, hss, herr⟩ := hr
    have hend : (bottle Nested).readListEnd r = { r with strings := none } := by
      simp [bottle, BottleReader.readListEnd, hss]
    rw [hend]
    exact ⟨his, rfl, herr⟩

end Bottle

end Wire
