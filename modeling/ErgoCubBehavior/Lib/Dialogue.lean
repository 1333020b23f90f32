/-
  ErgoCubBehavior.Lib.Dialogue

  Programs that ask questions and log what they do, and the languages of what they
  log.

  A program works off a list of answers; an event of its log may show one of them.
  `Traces x a L` says all about the runs of `x` that return: they return `a`, what they
  log are the words of `L`, and the answers they use up are those that the word shows.
  Programs one after the other have the product of their languages, a program that
  asks until it likes the answer has a star, and a program that cannot return has `0`.

  * `Traces.foldlM` — a loop over a list;
  * `Shows`         — what all words of a language show alike;
  * `Answerable`    — the languages in which every stream of answers leads to a word, as
    long as good answers keep coming.
-/

import Mathlib.Computability.Language

namespace Dialogue

open scoped Computability

variable {ε Answer Event α β : Type}

-- ============================================================================
-- Programs
-- ============================================================================

/-- The answers that are left, and what has been done. -/
structure Tape (Answer Event : Type) where
  answers : List Answer
  log : List Event

abbrev DialogueM (ε Answer Event : Type) := EStateM ε (Tape Answer Event)

/-- Something is done that gets no answer. -/
def emit (e : Event) : DialogueM ε Answer Event Unit :=
  modify fun s => { s with log := s.log ++ [e] }

/-- A question, logged with its answer.  Without an answer nothing goes on. -/
def ask (stop : ε) (event : Answer → Event) : DialogueM ε Answer Event Answer := fun s =>
  match s.answers with
  | [] => .error stop s
  | i :: answers => .ok i ⟨answers, s.log ++ [event i]⟩

/-- A question that is asked until the answer is good. -/
def askUntil (stop : ε) (event : Answer → Event) (good : Answer → Bool) :
    DialogueM ε Answer Event Unit := fun s =>
  go s.answers s.log
where
  go : List Answer → List Event → EStateM.Result ε (Tape Answer Event) Unit
  | [], log => .error stop ⟨[], log⟩
  | i :: answers, log =>
      if good i then .ok () ⟨answers, log ++ [event i]⟩ else go answers (log ++ [event i])

variable {stop : ε} {event : Answer → Event} {good : Answer → Bool}

theorem askUntil_nil (log : List Event) :
    (askUntil stop event good).run ⟨[], log⟩ = .error stop ⟨[], log⟩ := rfl

theorem askUntil_cons (i : Answer) (answers : List Answer) (log : List Event) :
    (askUntil stop event good).run ⟨i :: answers, log⟩ =
      if good i then .ok () ⟨answers, log ++ [event i]⟩
      else (askUntil stop event good).run ⟨answers, log ++ [event i]⟩ := rfl

-- ============================================================================
-- Languages
-- ============================================================================

/-- The events of a question with the answers in `p`. -/
def asked (event : Answer → Event) (p : Answer → Prop) : Language Event :=
  {l | ∃ i, p i ∧ l = [event i]}

/-- Bad answers, and a good one. -/
def retried (event : Answer → Event) (good : Answer → Bool) : Language Event :=
  (asked event fun i => good i = false)∗ * asked event fun i => good i = true

theorem mem_asked {p : Answer → Prop} {l : List Event} :
    l ∈ asked event p ↔ ∃ i, p i ∧ l = [event i] := Iff.rfl

theorem retried_eq : retried event good =
    (asked event fun i => good i = true) + (asked event fun i => good i = false) *
      retried event good := by
  have hstar := Language.one_add_self_mul_kstar_eq_kstar (asked event fun i => good i = false)
  calc retried event good
      = (1 + (asked event fun i => good i = false) * (asked event fun i => good i = false)∗) *
          asked event fun i => good i = true := by rw [hstar, retried]
    _ = _ := by rw [add_mul, one_mul, mul_assoc, retried]

theorem mem_retried {l : List Event} : l ∈ retried event good ↔
    (∃ i, good i = true ∧ l = [event i]) ∨
      ∃ i l', good i = false ∧ l' ∈ retried event good ∧ l = event i :: l' := by
  have hunroll : l ∈ retried event good ↔
      l ∈ (asked event fun i => good i = true) + (asked event fun i => good i = false) *
        retried event good := by
    rw [← retried_eq]
  rw [hunroll, Language.mem_add, mem_asked, Language.mem_mul]
  refine or_congr_right ?_
  constructor
  · rintro ⟨a, ⟨i, hi, rfl⟩, l', hl', rfl⟩
    exact ⟨i, l', hi, hl', rfl⟩
  · rintro ⟨i, l', hi, hl', rfl⟩
    exact ⟨[event i], ⟨i, hi, rfl⟩, l', hl', rfl⟩

/-- `L` of what is there, and nothing otherwise. -/
def within (x : Option α) (L : α → Language Event) : Language Event :=
  x.elim 0 L

@[simp] theorem within_none (L : α → Language Event) : within none L = 0 := rfl

@[simp] theorem within_some (a : α) (L : α → Language Event) : within (some a) L = L a := rfl

section Traces

variable (answer? : Event → Option Answer)

/-- `x` returns only `a`, after a word of `L` with the answers that were next, and it does
    so for every word of `L`. -/
def Traces (x : DialogueM ε Answer Event α) (a : α) (L : Language Event) : Prop :=
  ∀ s b s', x.run s = .ok b s' ↔
    b = a ∧ ∃ l ∈ L, s.answers = l.filterMap answer? ++ s'.answers ∧ s'.log = s.log ++ l

variable {answer?} {x : DialogueM ε Answer Event α} {f : α → DialogueM ε Answer Event β}
  {a : α} {b : β} {L M : Language Event}

theorem Traces.pure (a : α) : Traces answer? (pure a : DialogueM ε Answer Event α) a 1 := by
  rintro ⟨answers, log⟩ c ⟨answers', log'⟩
  rw [EStateM.run_pure]
  constructor
  · intro h
    cases h
    exact ⟨rfl, [], rfl, by simp⟩
  · rintro ⟨rfl, l, hl, hanswers, hlog⟩
    obtain rfl := (Language.mem_one l).mp hl
    simp only [List.filterMap_nil, List.nil_append, List.append_nil] at hanswers hlog
    rw [hanswers, hlog]

theorem Traces.throw (e : ε) (a : α) :
    Traces answer? (throw e : DialogueM ε Answer Event α) a 0 := by
  intro s c s'
  constructor
  · intro h
    cases h
  · rintro ⟨-, l, hl, -⟩
    exact absurd hl (Language.notMem_zero l)

theorem Traces.emit {e : Event} (he : answer? e = none) :
    Traces answer? (emit e : DialogueM ε Answer Event Unit) () {[e]} := by
  rintro ⟨answers, log⟩ c ⟨answers', log'⟩
  constructor
  · intro h
    cases h
    exact ⟨rfl, [e], rfl, by simp [he]⟩
  · rintro ⟨-, l, hl, hanswers, hlog⟩
    obtain rfl : l = [e] := hl
    simp only [List.filterMap_cons, he, List.filterMap_nil, List.nil_append] at hanswers hlog
    rw [hanswers, hlog]
    rfl

/-- One after the other. -/
theorem Traces.bind (hx : Traces answer? x a L) (hf : Traces answer? (f a) b M) :
    Traces answer? (x >>= f) b (L * M) := by
  intro s c s'
  rw [EStateM.run_bind]
  constructor
  · intro h
    cases hr : x.run s with
    | error e t =>
        rw [hr] at h
        cases h
    | ok a' t =>
        rw [hr] at h
        obtain ⟨rfl, l, hl, hanswers, hlog⟩ := (hx s a' t).mp hr
        obtain ⟨rfl, m, hm, hanswers', hlog'⟩ := (hf t c s').mp h
        refine ⟨rfl, l ++ m, Language.append_mem_mul hl hm, ?_, ?_⟩
        · rw [hanswers, hanswers', List.filterMap_append, List.append_assoc]
        · rw [hlog', hlog, List.append_assoc]
  · rintro ⟨rfl, w, hw, hanswers, hlog⟩
    obtain ⟨l, hl, m, hm, rfl⟩ := Language.mem_mul.mp hw
    rw [List.filterMap_append, List.append_assoc] at hanswers
    rw [(hx s a ⟨m.filterMap answer? ++ s'.answers, s.log ++ l⟩).mpr ⟨rfl, l, hl, hanswers, rfl⟩]
    exact (hf _ c s').mpr ⟨rfl, m, hm, rfl, by rw [hlog, List.append_assoc]⟩

theorem Traces.askUntil (hevent : ∀ i, answer? (event i) = some i) :
    Traces answer? (askUntil stop event good) () (retried event good) := by
  rintro ⟨answers, log⟩ c s'
  refine ⟨fun h => ⟨rfl, ?_⟩, ?_⟩
  · induction answers generalizing log with
    | nil =>
        rw [askUntil_nil] at h
        cases h
    | cons i answers ih =>
        rw [askUntil_cons] at h
        by_cases hi : good i = true
        · rw [if_pos hi] at h
          cases h
          exact ⟨[event i], mem_retried.mpr (Or.inl ⟨i, hi, rfl⟩), by simp [hevent], rfl⟩
        · rw [if_neg hi] at h
          obtain ⟨l, hl, hanswers, hlog⟩ := ih _ h
          refine ⟨event i :: l, mem_retried.mpr (Or.inr ⟨i, l, by simpa using hi, hl, rfl⟩), ?_, ?_⟩
          · rw [List.filterMap_cons, hevent]
            exact congrArg (i :: ·) hanswers
          · rw [hlog, List.append_assoc]
            rfl
  · rintro ⟨-, l, hl, hanswers, hlog⟩
    induction answers generalizing log l with
    | nil =>
        rcases mem_retried.mp hl with ⟨i, hi, rfl⟩ | ⟨i, l', hi, hl', rfl⟩ <;>
          simp [hevent] at hanswers
    | cons i answers ih =>
        rw [askUntil_cons]
        rcases mem_retried.mp hl with ⟨j, hj, rfl⟩ | ⟨j, l', hj, hl', rfl⟩
        · simp only [List.filterMap_cons, hevent, List.filterMap_nil, List.singleton_append,
            List.cons.injEq] at hanswers
          obtain ⟨rfl, rfl⟩ := hanswers
          rw [if_pos hj, ← show s'.log = log ++ [event i] from hlog]
        · simp only [List.filterMap_cons, hevent, List.cons_append, List.cons.injEq] at hanswers
          obtain ⟨rfl, hanswers⟩ := hanswers
          rw [if_neg (by simp [hj])]
          exact ih _ l' hl' hanswers (by rw [hlog, List.append_assoc]; rfl)

end Traces

-- ============================================================================
-- What the words of a language show
-- ============================================================================

section Shows

variable {γ δ : Type} {f : Event → Option γ} {L M : Language Event} {v v' w w' : List γ}

/-- What the words of `L` show through `f`: `v` at least and `w` at most. -/
def Shows (f : Event → Option γ) (L : Language Event) (v w : List γ) : Prop :=
  ∀ l ∈ L, v.Sublist (l.filterMap f) ∧ (l.filterMap f).Sublist w

theorem Shows.mul (hL : Shows f L v w) (hM : Shows f M v' w') :
    Shows f (L * M) (v ++ v') (w ++ w') := by
  intro k hk
  obtain ⟨l, hl, m, hm, rfl⟩ := Language.mem_mul.mp hk
  rw [List.filterMap_append]
  exact ⟨(hL l hl).1.append (hM m hm).1, (hL l hl).2.append (hM m hm).2⟩

theorem Shows.one : Shows f 1 [] [] := by
  intro l hl
  rw [(Language.mem_one l).mp hl]
  exact ⟨List.Sublist.slnil, List.Sublist.slnil⟩

theorem Shows.prod {L : δ → Language Event} {v w : δ → List γ} {cs : List δ}
    (h : ∀ c ∈ cs, Shows f (L c) (v c) (w c)) :
    Shows f (cs.map L).prod (cs.flatMap v) (cs.flatMap w) := by
  induction cs with
  | nil => exact .one
  | cons c cs ih =>
      rw [List.map_cons, List.prod_cons, List.flatMap_cons, List.flatMap_cons]
      exact (h c List.mem_cons_self).mul (ih fun d hd => h d (List.mem_cons_of_mem c hd))

theorem Shows.singleton (e : Event) : Shows f {[e]} (f e).toList (f e).toList := by
  intro l hl
  obtain rfl : l = [e] := hl
  cases h : f e <;> simp [h]

theorem Shows.of_asked {p : Answer → Prop} (h : ∀ i, (f (event i)).toList.Sublist w) :
    Shows f (asked event p) [] w := by
  rintro l ⟨i, -, rfl⟩
  refine ⟨List.nil_sublist _, ?_⟩
  have hi := h i
  cases he : f (event i) <;> simp_all

theorem Shows.of_retried {y : Option γ} (hbad : ∀ i, good i = false → f (event i) = none)
    (hgood : ∀ i, good i = true → f (event i) = y) :
    Shows f (retried event good) y.toList y.toList := by
  have heq : ∀ n, ∀ l ∈ retried event good, l.length = n → l.filterMap f = y.toList := by
    intro n
    induction n with
    | zero =>
        intro l hl hlength
        rcases mem_retried.mp hl with ⟨i, -, rfl⟩ | ⟨i, l', -, -, rfl⟩ <;> simp at hlength
    | succ n ih =>
        intro l hl hlength
        rcases mem_retried.mp hl with ⟨i, hi, rfl⟩ | ⟨i, l', hi, hl', rfl⟩
        · cases hy : y <;> simp [hgood i hi, hy]
        · rw [List.filterMap_cons_none (hbad i hi)]
          exact ih l' hl' (by simpa using hlength)
  intro l hl
  rw [heq _ l hl rfl]
  exact ⟨List.Sublist.refl _, List.Sublist.refl _⟩

end Shows

-- ============================================================================
-- Languages for streams of answers
-- ============================================================================

section Answerable

variable {answer? : Event → Option Answer} {L M : Language Event}

/-- The first `n` answers of a stream. -/
def firstAnswers (f : Nat → Answer) (n : Nat) : List Answer :=
  (List.range n).map f

/-- Good answers keep coming. -/
def Recurring (good : Answer → Bool) (f : Nat → Answer) : Prop :=
  ∀ n, ∃ m, n ≤ m ∧ good (f m) = true

/-- Every stream in which good answers keep coming begins with the answers of a word. -/
def Answerable (answer? : Event → Option Answer) (good : Answer → Bool) (L : Language Event) :
    Prop :=
  ∀ f, Recurring good f → ∃ n, ∃ l ∈ L, l.filterMap answer? = firstAnswers f n

theorem Recurring.drop {f : Nat → Answer} (h : Recurring good f) (n : Nat) :
    Recurring good fun k => f (n + k) := by
  intro k
  obtain ⟨m, hm, hgood⟩ := h (n + k)
  refine ⟨m - n, by omega, ?_⟩
  have hindex : n + (m - n) = m := by omega
  show good (f (n + (m - n))) = true
  rwa [hindex]

theorem firstAnswers_add (f : Nat → Answer) (n m : Nat) :
    firstAnswers f (n + m) = firstAnswers f n ++ firstAnswers (fun k => f (n + k)) m := by
  simp [firstAnswers, List.range_add, Function.comp_def]

theorem Answerable.mul (hL : Answerable answer? good L) (hM : Answerable answer? good M) :
    Answerable answer? good (L * M) := by
  intro f hf
  obtain ⟨n, l, hl, hn⟩ := hL f hf
  obtain ⟨m, l', hl', hm⟩ := hM _ (hf.drop n)
  refine ⟨n + m, l ++ l', Language.append_mem_mul hl hl', ?_⟩
  rw [List.filterMap_append, hn, hm, firstAnswers_add]

theorem Answerable.one : Answerable answer? good 1 :=
  fun _ _ => ⟨0, [], rfl, rfl⟩

theorem Answerable.prod {δ : Type} {L : δ → Language Event} {cs : List δ}
    (h : ∀ c ∈ cs, Answerable answer? good (L c)) : Answerable answer? good (cs.map L).prod := by
  induction cs with
  | nil => exact .one
  | cons c cs ih =>
      rw [List.map_cons, List.prod_cons]
      exact (h c List.mem_cons_self).mul (ih fun d hd => h d (List.mem_cons_of_mem c hd))

theorem Answerable.singleton {e : Event} (he : answer? e = none) : Answerable answer? good {[e]} :=
  fun _ _ => ⟨0, [e], rfl, by simp [he, firstAnswers]⟩

theorem Answerable.of_asked (hevent : ∀ i, answer? (event i) = some i) :
    Answerable answer? good (asked event fun _ => True) :=
  fun f _ => ⟨1, [event (f 0)], ⟨f 0, trivial, rfl⟩, by simp [hevent, firstAnswers]⟩

theorem Answerable.of_retried (hevent : ∀ i, answer? (event i) = some i) :
    Answerable answer? good (retried event good) := by
  intro f hf
  obtain ⟨m, -, hm⟩ := hf 0
  clear hf
  -- the first good answer is the `m`-th or one before it
  induction m generalizing f with
  | zero =>
      exact ⟨1, [event (f 0)], mem_retried.mpr (Or.inl ⟨f 0, hm, rfl⟩),
        by simp [hevent, firstAnswers]⟩
  | succ m ih =>
      by_cases h0 : good (f 0) = true
      · exact ⟨1, [event (f 0)], mem_retried.mpr (Or.inl ⟨f 0, h0, rfl⟩),
          by simp [hevent, firstAnswers]⟩
      · obtain ⟨n, l, hl, hn⟩ := ih (fun k => f (1 + k)) (by rwa [Nat.add_comm])
        refine ⟨1 + n, event (f 0) :: l,
          mem_retried.mpr (Or.inr ⟨f 0, l, by simpa using h0, hl, rfl⟩), ?_⟩
        rw [firstAnswers_add, List.filterMap_cons, hevent, ← hn]
        rfl

end Answerable

end Dialogue
