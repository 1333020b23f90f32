/-
  ErgoCubBehavior.Rpc.Dispatch

  What the generated `read` makes of a message, whatever the connection does: one
  lemma for each way a round of the loop can go, and from them what the whole loop
  does.

  * `Spelled`, `Spelling` — the words the reader hands out, one after the other;
  * `Service.loop_cases`, `Service.read_cases` — the message is refused, or its words
    spell the tag of a function or `help`;
  * `Service.read_dispatch` — a message that spells a function is served by it.
-/

import ErgoCubBehavior.Rpc.Service
import Mathlib.Data.List.Nodup

namespace ErgoCubBehavior

open Wire

variable {F : Format Matrix} {σ : Type} {I : Interface} {S : Service I σ}
  {s : Session F σ} {r r' : F.Reader} {fuel tagLen : Nat} {tag : String}

-- ============================================================================
-- Sessions
-- ============================================================================

theorem reading_ok {α : Type} {x : ReadM F α} {a : α} (h : x.run s.reader = .ok a r) :
    (reading F x).run s = .ok a { s with reader := r } := by
  show reading F x s = _
  simp only [reading, h]

theorem reading_error {α : Type} {x : ReadM F α} (h : x.run s.reader = .error () r) :
    (reading F x).run s = .error () { s with reader := r } := by
  show reading F x s = _
  simp only [reading, h]

-- ============================================================================
-- One round
-- ============================================================================

/-- The loop ends where its condition fails. -/
theorem Service.loop_stop (h : I.maxTagLen < tagLen ∨ F.isError s.reader = true) :
    (S.loop F (fuel + 1) tagLen tag).run s = .error () s := by
  unfold Service.loop
  by_cases hlen : tagLen ≤ I.maxTagLen
  · have herr : F.isError s.reader = true := h.resolve_left (by omega)
    rw [if_pos hlen, EStateM.run_bind, reading_ok isError_run, herr]
    rfl
  · rw [if_neg hlen]
    rfl

section Round

variable (hlen : tagLen ≤ I.maxTagLen) (herr : F.isError s.reader = false)

include hlen herr

theorem Service.loop_serve {m : Method σ}
    (hm : (S.methods.find? fun m => m.helper.tag = tag) = some m) :
    (S.loop F (fuel + 1) tagLen tag).run s = (m.serve F).run s := by
  unfold Service.loop
  rw [if_pos hlen, EStateM.run_bind, reading_ok isError_run, herr]
  simp only [hm, Bool.false_eq_true, if_false]

theorem Service.loop_help (hm : (S.methods.find? fun m => m.helper.tag = tag) = none)
    (htag : tag = helpTag) :
    (S.loop F (fuel + 1) tagLen tag).run s = (I.serveHelp F).run s := by
  unfold Service.loop
  rw [if_pos hlen, EStateM.run_bind, reading_ok isError_run, herr]
  simp only [hm, Bool.false_eq_true, if_false, if_pos htag]

section Unknown

variable (hm : (S.methods.find? fun m => m.helper.tag = tag) = none) (htag : tag ≠ helpTag)

include hm htag

theorem Service.loop_unknown :
    (S.loop F (fuel + 1) tagLen tag).run s =
      (do
        if ← reading F (noMore F) then
          reading F (failed F)
        else
          let nextTag ← reading F (modifyGet (F.readTag 1))
          if nextTag = "" then
            throw ()
          else
            S.loop F fuel (underscores (tag ++ "_" ++ nextTag) + 1) (tag ++ "_" ++ nextTag)
        : ServeM F σ Unit).run s := by
  conv_lhs => unfold Service.loop
  rw [if_pos hlen, EStateM.run_bind, reading_ok isError_run, herr]
  simp only [hm, htag, Bool.false_eq_true, if_false]

/-- A message that ends before its tag does is refused. -/
theorem Service.loop_noMore (hmore : F.noMore s.reader = true) :
    (S.loop F (fuel + 1) tagLen tag).run s =
      .error () { s with reader := F.fail s.reader } := by
  rw [Service.loop_unknown hlen herr hm htag, EStateM.run_bind, reading_ok noMore_run, hmore]
  rfl

theorem Service.loop_empty (hmore : F.noMore s.reader = false)
    (hread : F.readTag 1 s.reader = ("", r)) :
    (S.loop F (fuel + 1) tagLen tag).run s = .error () { s with reader := r } := by
  have hnext : (modifyGet (F.readTag 1) : ReadM F String).run s.reader = .ok "" r := by
    simp [hread]
  rw [Service.loop_unknown hlen herr hm htag, EStateM.run_bind, reading_ok noMore_run, hmore]
  simp only [Bool.false_eq_true, if_false, EStateM.run_bind, reading_ok hnext, if_true]
  rfl

theorem Service.loop_next {word : String} (hmore : F.noMore s.reader = false)
    (hread : F.readTag 1 s.reader = (word, r)) (hword : word ≠ "") :
    (S.loop F (fuel + 1) tagLen tag).run s =
      (S.loop F fuel (underscores (tag ++ "_" ++ word) + 1) (tag ++ "_" ++ word)).run
        { s with reader := r } := by
  have hnext : (modifyGet (F.readTag 1) : ReadM F String).run s.reader = .ok word r := by
    simp [hread]
  rw [Service.loop_unknown hlen herr hm htag, EStateM.run_bind, reading_ok noMore_run, hmore]
  simp only [Bool.false_eq_true, if_false, EStateM.run_bind, reading_ok hnext, hword]

end Unknown

end Round

-- ============================================================================
-- Finding a function
-- ============================================================================

theorem Service.mem_helpers {m : Method σ} (hm : m ∈ S.methods) : m.helper ∈ I.helpers := by
  rw [← S.helpers_eq]
  exact List.mem_map_of_mem hm

theorem Service.nodup_tags (S : Service I σ) :
    (S.methods.map fun m => m.helper.tag).Nodup := by
  have h := (List.nodup_cons.mp I.nodup).2
  rw [← S.helpers_eq, List.map_map] at h
  exact h

/-- The function with a tag is found by it. -/
theorem Service.find_tag {m : Method σ} (hm : m ∈ S.methods) :
    (S.methods.find? fun m' => m'.helper.tag = m.helper.tag) = some m := by
  cases hfind : S.methods.find? fun m' => m'.helper.tag = m.helper.tag with
  | none =>
      have h := List.find?_eq_none.mp hfind m hm
      simp at h
  | some m' =>
      have htag : m'.helper.tag = m.helper.tag := by
        simpa using List.find?_some hfind
      have hmem : m' ∈ S.methods := List.mem_of_find?_eq_some hfind
      rw [List.inj_on_of_nodup_map S.nodup_tags hmem hm htag]

/-- No tag is begun by a tag and an underscore. -/
theorem Service.find_prefix {m : Method σ} (hm : m ∈ S.methods)
    (h : (tag ++ "_").toList <+: m.helper.tag.toList) :
    (S.methods.find? fun m' => m'.helper.tag = tag) = none ∧ tag ≠ helpTag := by
  have hno := I.prefixFree m.helper (S.mem_helpers hm)
  constructor
  · rw [List.find?_eq_none]
    intro m' hm' htag
    have htag : m'.helper.tag = tag := by simpa using htag
    refine hno tag (List.mem_cons_of_mem _ ?_) h
    rw [← htag]
    exact List.mem_map_of_mem (S.mem_helpers hm')
  · intro htag
    exact hno tag (by rw [htag]; exact List.mem_cons_self) h

-- ============================================================================
-- The words of a message
-- ============================================================================

/-- The reader hands out these words one after the other, none of them empty. -/
inductive Spelled (F : Format Matrix) : F.Reader → List String → F.Reader → Prop where
  | nil {r : F.Reader} : Spelled F r [] r
  | cons {r r₁ r' : F.Reader} {w : String} {ws : List String} :
      F.isError r = false → F.noMore r = false → F.readTag 1 r = (w, r₁) → w ≠ "" →
      Spelled F r₁ ws r' → Spelled F r (w :: ws) r'

/-- What the rest of a tag adds to its underscores. -/
theorem Helper.underscores_lt {m : Method σ} (hm : m ∈ S.methods) {ws : List String}
    (htag : joinWords (tag :: ws) = m.helper.tag) :
    underscores tag + 1 ≤ I.maxTagLen := by
  have hle := I.tagLen_le m.helper (S.mem_helpers hm)
  have hcount := underscores_joinWords tag ws
  rw [m.helper.tagLen_eq, length_words, ← htag] at hle
  omega

/-- A message of which words have been read that spell the tag of a function is
    served by this function. -/
theorem Service.loop_dispatch {m : Method σ} (hm : m ∈ S.methods) {ws : List String}
    (hws : Spelled F s.reader ws r') (herr : F.isError r' = false)
    (htag : joinWords (tag :: ws) = m.helper.tag) (hlen : tagLen ≤ underscores tag + 1)
    (hfuel : I.maxTagLen < fuel + tagLen) :
    (S.loop F fuel tagLen tag).run s = (m.serve F).run { s with reader := r' } := by
  generalize hr : s.reader = r at hws
  induction hws generalizing s tag tagLen fuel with
  | nil =>
      have hmax := Helper.underscores_lt hm htag
      obtain ⟨fuel, rfl⟩ : ∃ n, fuel = n + 1 := ⟨fuel - 1, by omega⟩
      rw [joinWords_singleton] at htag
      subst hr
      exact Service.loop_serve (by omega) herr (by rw [htag]; exact S.find_tag hm)
  | @cons r r₁ r' w ws herr₀ hmore hread hw _ ih =>
      have hmax := Helper.underscores_lt hm htag
      obtain ⟨fuel, rfl⟩ : ∃ n, fuel = n + 1 := ⟨fuel - 1, by omega⟩
      have hfront := joinWords_prefix tag (List.cons_ne_nil w ws)
      rw [htag] at hfront
      obtain ⟨hfind, hhelp⟩ := S.find_prefix hm hfront
      have hnext : tagLen + 1 ≤ underscores (tag ++ "_" ++ w) + 1 := by
        rw [underscores_append, underscores_append, underscores_underscore]
        omega
      subst hr
      rw [Service.loop_next (by omega) herr₀ hfind hhelp hmore hread hw]
      rw [joinWords_cons_cons] at htag
      exact ih herr htag (Nat.le_refl _) (by omega) rfl

/-- Every way the loop can end: the message is refused, or a function or `help`
    serves it, whose tag the words have spelled. -/
theorem Service.loop_cases (S : Service I σ) (fuel tagLen : Nat) (tag : String)
    (s : Session F σ) :
    (∃ r', (S.loop F fuel tagLen tag).run s = .error () { s with reader := r' }) ∨
    (∃ m ∈ S.methods, ∃ ws r', Spelled F s.reader ws r' ∧ F.isError r' = false ∧
      joinWords (tag :: ws) = m.helper.tag ∧
      (S.loop F fuel tagLen tag).run s = (m.serve F).run { s with reader := r' }) ∨
    (∃ ws r', Spelled F s.reader ws r' ∧ F.isError r' = false ∧
      joinWords (tag :: ws) = helpTag ∧
      (S.loop F fuel tagLen tag).run s = (I.serveHelp F).run { s with reader := r' }) := by
  induction fuel generalizing tagLen tag s with
  | zero => exact Or.inl ⟨s.reader, rfl⟩
  | succ fuel ih =>
      by_cases hstop : I.maxTagLen < tagLen ∨ F.isError s.reader = true
      · exact Or.inl ⟨s.reader, S.loop_stop hstop⟩
      have hlen : tagLen ≤ I.maxTagLen := by
        by_contra h
        exact hstop (Or.inl (by omega))
      have herr : F.isError s.reader = false := by
        by_contra h
        exact hstop (Or.inr (by simpa using h))
      cases hfind : S.methods.find? fun m => m.helper.tag = tag with
      | some m =>
          have htag : m.helper.tag = tag := by simpa using List.find?_some hfind
          refine Or.inr (Or.inl ⟨m, List.mem_of_find?_eq_some hfind, [], s.reader, .nil, herr,
            ?_, S.loop_serve hlen herr hfind⟩)
          rw [joinWords_singleton, htag]
      | none =>
          by_cases hhelp : tag = helpTag
          · refine Or.inr (Or.inr ⟨[], s.reader, .nil, herr, ?_,
              S.loop_help hlen herr hfind hhelp⟩)
            rw [joinWords_singleton, hhelp]
          cases hmore : F.noMore s.reader with
          | true => exact Or.inl ⟨_, S.loop_noMore hlen herr hfind hhelp hmore⟩
          | false =>
              cases hread : F.readTag 1 s.reader with
              | mk w r₁ =>
                  by_cases hw : w = ""
                  · subst hw
                    exact Or.inl ⟨r₁, S.loop_empty hlen herr hfind hhelp hmore hread⟩
                  rw [S.loop_next hlen herr hfind hhelp hmore hread hw]
                  have hcons : ∀ {ws r'}, Spelled F r₁ ws r' → Spelled F s.reader (w :: ws) r' :=
                    fun h => .cons herr hmore hread hw h
                  rcases ih _ _ { s with reader := r₁ } with
                    hquiet | ⟨m, hm, ws, r', hws, herr', htag, hrun⟩ |
                    ⟨ws, r', hws, herr', htag, hrun⟩
                  · exact Or.inl hquiet
                  · rw [← joinWords_cons_cons] at htag
                    exact Or.inr (Or.inl ⟨m, hm, w :: ws, r', hcons hws, herr', htag, hrun⟩)
                  · rw [← joinWords_cons_cons] at htag
                    exact Or.inr (Or.inr ⟨w :: ws, r', hcons hws, herr', htag, hrun⟩)

/-- The fuel is not used up: more of it changes nothing. -/
theorem Service.loop_fuel (S : Service I σ) (s : Session F σ) (k : Nat)
    (hlen : tagLen ≤ underscores tag + 1) (hfuel : I.maxTagLen < fuel + tagLen) :
    (S.loop F (fuel + k) tagLen tag).run s = (S.loop F fuel tagLen tag).run s := by
  induction fuel generalizing tagLen tag s with
  | zero =>
      cases k with
      | zero => rfl
      | succ k =>
          rw [Nat.zero_add, S.loop_stop (Or.inl (by omega))]
          rfl
  | succ fuel ih =>
      rw [Nat.add_right_comm]
      by_cases hstop : I.maxTagLen < tagLen ∨ F.isError s.reader = true
      · rw [S.loop_stop hstop, S.loop_stop hstop]
      have hle : tagLen ≤ I.maxTagLen := by
        by_contra h
        exact hstop (Or.inl (by omega))
      have herr : F.isError s.reader = false := by
        by_contra h
        exact hstop (Or.inr (by simpa using h))
      cases hfind : S.methods.find? fun m => m.helper.tag = tag with
      | some m => rw [S.loop_serve hle herr hfind, S.loop_serve hle herr hfind]
      | none =>
          by_cases hhelp : tag = helpTag
          · rw [S.loop_help hle herr hfind hhelp, S.loop_help hle herr hfind hhelp]
          cases hmore : F.noMore s.reader with
          | true =>
              rw [S.loop_noMore hle herr hfind hhelp hmore,
                S.loop_noMore hle herr hfind hhelp hmore]
          | false =>
              cases hread : F.readTag 1 s.reader with
              | mk w r₁ =>
                  by_cases hw : w = ""
                  · subst hw
                    rw [S.loop_empty hle herr hfind hhelp hmore hread,
                      S.loop_empty hle herr hfind hhelp hmore hread]
                  · have hnext : tagLen + 1 ≤ underscores (tag ++ "_" ++ w) + 1 := by
                      rw [underscores_append, underscores_append, underscores_underscore]
                      omega
                    rw [S.loop_next hle herr hfind hhelp hmore hread hw,
                      S.loop_next hle herr hfind hhelp hmore hread hw]
                    exact ih _ (Nat.le_refl _) (by omega)

-- ============================================================================
-- The message
-- ============================================================================

/-- The first word, behind the mark of a direct call if there is one. -/
def FirstWord (F : Format Matrix) (r : F.Reader) (w : String) (r' : F.Reader) : Prop :=
  (F.readTag 1 r = (w, r') ∧ w ≠ directTag) ∨
    ∃ r₁, F.readTag 1 r = (directTag, r₁) ∧ F.readTag 1 r₁ = (w, r')

/-- The reader hands out these words from the begin of a message on, with no error. -/
def Spelling (F : Format Matrix) (r : F.Reader) (ws : List String) (r' : F.Reader) : Prop :=
  ∃ r₀ r₁ w vs, F.readListHeader (F.expectAccept r) = (true, r₀) ∧ FirstWord F r₀ w r₁ ∧
    Spelled F r₁ vs r' ∧ F.isError r' = false ∧ ws = w :: vs

theorem Service.read_header {r₀ : F.Reader}
    (h : F.readListHeader (F.expectAccept s.reader) = (true, r₀)) :
    (S.read F).run s =
      (do
        let tag ← reading F (modifyGet (F.readTag 1))
        if tag = directTag then
          let tag ← reading F (modifyGet (F.readTag 1))
          S.loop F (I.maxTagLen + 1) 1 tag
        else
          S.loop F (I.maxTagLen + 1) 1 tag : ServeM F σ Unit).run { s with reader := r₀ } := by
  have hheader : (modifyGet F.readListHeader : ReadM F Bool).run (F.expectAccept s.reader) =
      .ok true r₀ := by
    simp [h]
  have hexpect : (modify F.expectAccept : ReadM F Unit).run s.reader =
      .ok () (F.expectAccept s.reader) := rfl
  unfold Service.read
  rw [EStateM.run_bind, reading_ok hexpect]
  show EStateM.run (reading F (modifyGet F.readListHeader) >>= _) _ = _
  rw [EStateM.run_bind, reading_ok hheader]
  rfl

/-- The loop begins with the first word. -/
theorem Service.read_firstWord {r₀ r₁ : F.Reader} {w : String}
    (h : F.readListHeader (F.expectAccept s.reader) = (true, r₀)) (hw : FirstWord F r₀ w r₁) :
    (S.read F).run s =
      (S.loop F (I.maxTagLen + 1) 1 w).run { s with reader := r₁ } := by
  rw [S.read_header h, EStateM.run_bind]
  rcases hw with ⟨hread, hdirect⟩ | ⟨r₂, hread, hread'⟩
  · have hword : (modifyGet (F.readTag 1) : ReadM F String).run r₀ = .ok w r₁ := by
      simp [hread]
    rw [reading_ok hword]
    simp only [if_neg hdirect]
  · have hword : (modifyGet (F.readTag 1) : ReadM F String).run r₀ = .ok directTag r₂ := by
      simp [hread]
    have hword' : (modifyGet (F.readTag 1) : ReadM F String).run r₂ = .ok w r₁ := by
      simp [hread']
    rw [reading_ok hword]
    simp only [if_true, EStateM.run_bind]
    rw [reading_ok hword']

theorem Service.read_noHeader {r₀ : F.Reader}
    (h : F.readListHeader (F.expectAccept s.reader) = (false, r₀)) :
    (S.read F).run s = .error () { s with reader := F.fail r₀ } := by
  have hheader : (modifyGet F.readListHeader : ReadM F Bool).run (F.expectAccept s.reader) =
      .ok false r₀ := by
    simp [h]
  have hexpect : (modify F.expectAccept : ReadM F Unit).run s.reader =
      .ok () (F.expectAccept s.reader) := rfl
  unfold Service.read
  rw [EStateM.run_bind, reading_ok hexpect]
  show EStateM.run (reading F (modifyGet F.readListHeader) >>= _) _ = _
  rw [EStateM.run_bind, reading_ok hheader]
  rfl

/-- A message that spells the tag of a function is served by this function. -/
theorem Service.read_dispatch {m : Method σ} (hm : m ∈ S.methods) {ws : List String}
    (hws : Spelling F s.reader ws r') (htag : joinWords ws = m.helper.tag) :
    (S.read F).run s = (m.serve F).run { s with reader := r' } := by
  obtain ⟨r₀, r₁, w, vs, hheader, hfirst, hspelled, herr, rfl⟩ := hws
  rw [S.read_firstWord hheader hfirst]
  exact S.loop_dispatch hm hspelled herr htag (by omega) (by omega)

/-- Every way `read` can go. -/
theorem Service.read_cases (S : Service I σ) (s : Session F σ) :
    (∃ r', (S.read F).run s = .error () { s with reader := r' }) ∨
    (∃ m ∈ S.methods, ∃ ws r', Spelling F s.reader ws r' ∧ joinWords ws = m.helper.tag ∧
      (S.read F).run s = (m.serve F).run { s with reader := r' }) ∨
    (∃ ws r', Spelling F s.reader ws r' ∧ joinWords ws = helpTag ∧
      (S.read F).run s = (I.serveHelp F).run { s with reader := r' }) := by
  cases hheader : F.readListHeader (F.expectAccept s.reader) with
  | mk header r₀ =>
      cases header with
      | false => exact Or.inl ⟨_, S.read_noHeader hheader⟩
      | true =>
          obtain ⟨w, r₁, hfirst⟩ : ∃ w r₁, FirstWord F r₀ w r₁ := by
            by_cases hdirect : (F.readTag 1 r₀).1 = directTag
            · exact ⟨_, _, Or.inr ⟨_, Prod.ext hdirect rfl, rfl⟩⟩
            · exact ⟨_, _, Or.inl ⟨rfl, hdirect⟩⟩
          rw [S.read_firstWord hheader hfirst]
          rcases S.loop_cases (I.maxTagLen + 1) 1 w { s with reader := r₁ } with
            hquiet | ⟨m, hm, ws, r', hws, herr, htag, hrun⟩ | ⟨ws, r', hws, herr, htag, hrun⟩
          · exact Or.inl hquiet
          · exact Or.inr (Or.inl ⟨m, hm, w :: ws, r',
              ⟨r₀, r₁, w, ws, hheader, hfirst, hws, herr, rfl⟩, htag, hrun⟩)
          · exact Or.inr (Or.inr ⟨w :: ws, r',
              ⟨r₀, r₁, w, ws, hheader, hfirst, hws, herr, rfl⟩, htag, hrun⟩)

-- ============================================================================
-- Serving
-- ============================================================================

/-- Arguments that cannot be read call nothing. -/
theorem Method.serve_error {m : Method σ}
    (h : (readArgs F m.helper.args).run s.reader = .error () r') :
    (m.serve F).run s = .error () { s with reader := r' } := by
  unfold Method.serve
  rw [EStateM.run_bind, reading_error h]

/-- The answer is written and the message accepted, or neither. -/
theorem replying_accept (x : WriteM F Unit) (s : Session F σ) :
    (replying F x >>= fun _ => reading F (modify F.accept)).run s =
      match x.run (F.replyWriter s.reader) with
      | .ok _ w => .ok () { s with reader := F.accept s.reader, reply := some w }
      | .error _ w => .error () { s with reply := some w } := by
  rw [EStateM.run_bind]
  cases hx : x.run (F.replyWriter s.reader) with
  | ok u w =>
      have hreply : (replying F x).run s = .ok () { s with reply := some w } := by
        show replying F x s = _
        simp only [replying, hx]
      rw [hreply]
      rfl
  | error e w =>
      have hreply : (replying F x).run s = .error () { s with reply := some w } := by
        show replying F x s = _
        simp only [replying, hx]
      rw [hreply]

/-- Arguments that can be read call the function once, and its answer is written. -/
theorem Method.serve_run {m : Method σ} {args : Args m.helper.args}
    (h : (readArgs F m.helper.args).run s.reader = .ok args r') :
    (m.serve F).run s =
      match (Reply.write F m.helper (m.call args s.object).1).run (F.replyWriter r') with
      | .ok _ w => .ok () {
          reader := F.accept r'
          object := (m.call args s.object).2
          calls := s.calls ++ [⟨m.helper, args⟩]
          reply := some w }
      | .error _ w => .error () {
          reader := r'
          object := (m.call args s.object).2
          calls := s.calls ++ [⟨m.helper, args⟩]
          reply := some w } := by
  unfold Method.serve
  rw [EStateM.run_bind, reading_ok h]
  exact replying_accept (Reply.write F m.helper (m.call args s.object).1)
    { reader := r', object := (m.call args s.object).2,
      calls := s.calls ++ [⟨m.helper, args⟩], reply := s.reply }

/-- `help` calls no function. -/
theorem Interface.serveHelp_run (I : Interface) (s : Session F σ) :
    ∃ s', ((I.serveHelp F).run s = .ok () s' ∨ (I.serveHelp F).run s = .error () s') ∧
      s'.object = s.object ∧ s'.calls = s.calls := by
  have hname : (modifyGet F.readString : ReadM F (Option String)).run s.reader =
      .ok (F.readString s.reader).1 (F.readString s.reader).2 := rfl
  unfold Interface.serveHelp
  rw [EStateM.run_bind, reading_ok hname]
  simp only [replying_accept]
  split
  · exact ⟨_, Or.inl rfl, rfl, rfl⟩
  · exact ⟨_, Or.inr rfl, rfl, rfl⟩

-- ============================================================================
-- What a message does
-- ============================================================================

/-- A message calls a function with these arguments: its words spell the tag, and the
    arguments and nothing else follow. -/
def Addressed (F : Format Matrix) (r : F.Reader) (h : Helper) (args : Args h.args) : Prop :=
  ∃ ws r₁ r₂, Spelling F r ws r₁ ∧ joinWords ws = h.tag ∧
    (readArgs F h.args).run r₁ = .ok args r₂

/-- A message that calls a function makes the server call it, once. -/
theorem Service.serve_addressed {m : Method σ} (hm : m ∈ S.methods) {args : Args m.helper.args}
    (h : Addressed F r m.helper args) (o : σ) :
    (S.serve F r o).calls = [⟨m.helper, args⟩] ∧
      (S.serve F r o).object = (m.call args o).2 := by
  obtain ⟨ws, r₁, r₂, hws, htag, hargs⟩ := h
  have hrun := S.read_dispatch (s := { reader := r, object := o, calls := [], reply := none })
    hm hws htag
  rw [Method.serve_run hargs] at hrun
  unfold Service.serve
  rw [hrun]
  cases (Reply.write F m.helper (m.call args o).1).run (F.replyWriter r₂) with
  | ok u w => exact ⟨rfl, rfl⟩
  | error e w => exact ⟨rfl, rfl⟩

/-- A message does nothing to a server, or calls one function of it, once. -/
theorem Service.serve_atMostOnce (S : Service I σ) (r : F.Reader) (o : σ) :
    ((S.serve F r o).calls = [] ∧ (S.serve F r o).object = o) ∨
      ∃ m ∈ S.methods, ∃ args, Addressed F r m.helper args ∧
        (S.serve F r o).calls = [⟨m.helper, args⟩] ∧
        (S.serve F r o).object = (m.call args o).2 := by
  rcases S.read_cases { reader := r, object := o, calls := [], reply := none } with
    ⟨r', hrun⟩ | ⟨m, hm, ws, r', hws, htag, hrun⟩ | ⟨ws, r', hws, htag, hrun⟩
  · unfold Service.serve
    rw [hrun]
    exact Or.inl ⟨rfl, rfl⟩
  · cases hargs : (readArgs F m.helper.args).run r' with
    | ok args r₂ =>
        have haddressed : Addressed F r m.helper args := ⟨ws, r', r₂, hws, htag, hargs⟩
        exact Or.inr ⟨m, hm, args, haddressed, S.serve_addressed hm haddressed o⟩
    | error e r₂ =>
        rw [Method.serve_error hargs] at hrun
        unfold Service.serve
        rw [hrun]
        exact Or.inl ⟨rfl, rfl⟩
  · obtain ⟨s', hend, hobject, hcalls⟩ := I.serveHelp_run
      (F := F) { reader := r', object := o, calls := [], reply := none }
    unfold Service.serve
    rcases hend with hend | hend
    · rw [hrun, hend]
      exact Or.inl ⟨hcalls, hobject⟩
    · rw [hrun, hend]
      exact Or.inl ⟨hcalls, hobject⟩

end ErgoCubBehavior
