/-
  ErgoCubBehavior.Protocol.Progress

  What the arms come to when things keep happening: motions come to an end, objects are
  offered, humans ask.  The results are about the machine of `Protocol.Arms` on endless
  streams of stimuli.

  * `Arms.taken`    — hands that are free, or are being freed, take what is offered;
  * `Arms.emptied_iff_never_trapped` — a box that is asked for is given back, again and
    again, unless one is trapped;
  * `Arms.ends_trapped` — where free hands are always offered something, one is;
  * `Arms.replies`  — a human who goes on doing the same is answered, once.
-/

import ErgoCubBehavior.Lib.Liveness
import ErgoCubBehavior.Protocol.Arms

namespace ErgoCubBehavior

open Filter Mealy Liveness

-- ============================================================================
-- What keeps happening
-- ============================================================================

namespace Stimulus

/-- The robot stands still, and its last motion is finished. -/
def settled (i : Stimulus) : Prop :=
  i.travelling = false ∧ i.finished = true

/-- An object is in sight and in reach of a robot that stands still. -/
def offers (i : Stimulus) : Prop :=
  i.travelling = false ∧ i.offered = true

/-- A human who looks at a robot that has settled asks for the box. -/
def requests (i : Stimulus) : Prop :=
  i.settled ∧ i.action = "release" ∧ i.looking = true

instance (i : Stimulus) : Decidable i.settled :=
  inferInstanceAs (Decidable (_ ∧ _))

instance (i : Stimulus) : Decidable i.requests :=
  inferInstanceAs (Decidable (_ ∧ _))

end Stimulus

namespace Arms

-- ============================================================================
-- Single steps
-- ============================================================================

section Steps

variable {a : Arms} {i : Stimulus} {last : String}

theorem step_offers (hno : a.phase.hasBox = "no") (hoffers : i.offers) : step a i = a.take i := by
  obtain ⟨hstay, hoffered⟩ := hoffers
  rw [step, if_neg (by simp [hstay]), if_pos ⟨hoffered, hno⟩]

/-- A box that is held is given back if it is asked for and was not asked for last. -/
theorem step_held (hp : a.phase = .grasped ∨ a.phase = .holding) :
    (step a i).1 = if i.requests ∧ a.last ≠ "release" then ⟨.releasing, "release"⟩
      else ⟨.holding, a.last⟩ := by
  obtain ⟨p, last⟩ := a
  have hclosed : ¬ (i.offered ∧ p.hasBox = "no") := by
    rcases hp with rfl | rfl <;> simp [Phase.hasBox]
  have hrest : (rest ⟨p, last⟩).1 = ⟨.holding, last⟩ := by
    rcases hp with rfl | rfl <;> rfl
  have hanswer : (answer ⟨p, last⟩ i).1 =
      if asks last i then ⟨.releasing, "release"⟩ else ⟨.holding, last⟩ := by
    rcases hp with rfl | rfl <;> exact apply_ite Prod.fst _ _ _
  by_cases hsettled : i.settled
  · rw [step, if_neg (by simp [hsettled.1]), if_neg hclosed, if_pos hsettled.2, hanswer]
    refine if_congr ?_ rfl rfl
    simp [asks, Stimulus.requests, hsettled, and_assoc]
  · rw [if_neg fun hrequests => hsettled hrequests.1.1]
    unfold step
    split_ifs with htravel hfin
    · exact hrest
    · exact absurd ⟨by simpa using htravel, hfin⟩ hsettled
    · exact hrest

/-- A box that is being given back is put down as soon as the robot has settled. -/
theorem step_releasing :
    (step ⟨.releasing, last⟩ i).1 = if i.settled then ⟨.free, last⟩ else ⟨.releasing, last⟩ := by
  have hclosed : ¬ (i.offered ∧ Phase.releasing.hasBox = "no") := by
    simp [Phase.hasBox]
  by_cases hsettled : i.settled
  · rw [step, if_neg (by simp [hsettled.1]), if_neg hclosed, if_pos hsettled.2, if_pos hsettled]
    rfl
  · rw [if_neg hsettled]
    unfold step
    split_ifs with htravel hfin
    · rfl
    · exact absurd ⟨by simpa using htravel, hfin⟩ hsettled
    · rfl

theorem halted_ne_grasped (p : Phase) : p.halted ≠ .grasped := by
  cases p <;> decide

theorem answer_ne_grasped : (a.answer i).1.phase ≠ .grasped := by
  unfold answer
  cases a.phase with
  | free => cases reply a.last i <;> simp
  | approaching => cases reply a.last i <;> simp
  | grasped => cases asks a.last i <;> simp
  | holding => cases asks a.last i <;> simp
  | releasing => simp

/-- Hands that have just grasped have been told to. -/
theorem step_grasped (hgrasped : (step a i).1.phase = .grasped) :
    (step a i).2 = [.bottomGrasp] := by
  unfold step take at *
  split_ifs at hgrasped ⊢ with htravel hopen happroaching hfin
  · exact absurd hgrasped (halted_ne_grasped _)
  · rfl
  · rw [happroaching] at hgrasped
    cases hgrasped
  · exact absurd hgrasped answer_ne_grasped
  · exact absurd hgrasped (halted_ne_grasped _)

/-- Nothing but the human and the last response decides what is replied. -/
theorem reply_congr {j : Stimulus} (haction : i.action = j.action) (hlook : i.looking = j.looking) :
    reply last i = reply last j := by
  unfold reply
  rw [haction, hlook]

theorem reply_settles : reply ((reply last i).getD last) i = none := by
  cases hreply : reply last i with
  | none => exact hreply
  | some name => exact reply_reply hreply

theorem answer_no (hno : a.phase.hasBox = "no") :
    (a.answer i).1 = ⟨.free, (reply a.last i).getD a.last⟩ := by
  obtain ⟨p, last⟩ := a
  cases p with
  | free => cases hreply : reply last i <;> simp [answer, hreply]
  | approaching => cases hreply : reply last i <;> simp [answer, hreply]
  | _ => simp [Phase.hasBox] at hno

theorem rest_no (hno : a.phase.hasBox = "no") : a.rest.1 = ⟨.free, a.last⟩ := by
  obtain ⟨p, last⟩ := a
  cases p with
  | free => rfl
  | approaching => rfl
  | _ => simp [Phase.hasBox] at hno

end Steps

-- ============================================================================
-- Endless streams
-- ============================================================================

section Streams

variable {i : Nat → Stimulus} {n₀ n : Nat} {last : String} {a : Arms} {p : Phase}

/-- The machine is in the state `a`, at `n₀` or later. -/
def From (i : Nat → Stimulus) (n₀ : Nat) (a : Arms) (n : Nat) : Prop :=
  n₀ ≤ n ∧ stateAt arms i n = a

theorem From.next (h : From i n₀ a n) : From i n₀ (step a (i n)).1 (n + 1) :=
  ⟨Nat.le_succ_of_le h.1, by rw [stateAt, h.2]; rfl⟩

/-- What goes to `b` when it is helped, and stays what it is otherwise. -/
theorem leadsTo_from {P Helps : Nat → Prop} [DecidablePred Helps] {b c : Arms}
    (hnext : ∀ n, P n → From i n₀ (if Helps n then b else c) (n + 1))
    (hstay : ∀ n, From i n₀ c n → P n) (hfair : ∃ᶠ n in atTop, Helps n) :
    LeadsTo P (From i n₀ b) := by
  refine .of_fair ?_ ?_ hfair
  · intro n hn
    have hstep := hnext n hn
    split_ifs at hstep
    · exact Or.inr hstep
    · exact Or.inl (hstay _ hstep)
  · intro n hn hhelp
    have hstep := hnext n hn
    rwa [if_pos hhelp] at hstep

theorem puts_down (hsettled : ∃ᶠ n in atTop, (i n).settled) :
    LeadsTo (From i n₀ ⟨.releasing, last⟩) (From i n₀ ⟨.free, last⟩) := by
  refine leadsTo_from ?_ (fun _ h => h) hsettled
  intro n hn
  have hstep := hn.next
  rwa [step_releasing] at hstep

/-- A box that is asked for again and again is given back, unless it was the last thing
    that was asked for. -/
theorem gives_back (hrequests : ∃ᶠ n in atTop, (i n).requests) (hlast : last ≠ "release") :
    LeadsTo (fun n => From i n₀ ⟨.grasped, last⟩ n ∨ From i n₀ ⟨.holding, last⟩ n)
      (From i n₀ ⟨.releasing, "release"⟩) := by
  refine leadsTo_from ?_ (fun _ => Or.inr) hrequests
  rintro n (hn | hn)
  · have hstep := hn.next
    rw [step_held (Or.inl rfl)] at hstep
    simpa [hlast] using hstep
  · have hstep := hn.next
    rw [step_held (Or.inr rfl)] at hstep
    simpa [hlast] using hstep

section Offered

variable (hoffers : ∀ n, n₀ ≤ n → (stateAt arms i n).phase.hasBox = "no" → (i n).offers)
include hoffers

theorem gets_ready : LeadsTo (From i n₀ ⟨.free, last⟩) (From i n₀ ⟨.approaching, last⟩) := by
  refine .of_next fun n hn => ?_
  have hstep := hn.next
  rw [step_offers rfl (hoffers n hn.1 (by rw [hn.2]; rfl))] at hstep
  exact hstep

theorem grasps (hsettled : ∃ᶠ n in atTop, (i n).settled) :
    LeadsTo (From i n₀ ⟨.approaching, last⟩) (From i n₀ ⟨.grasped, last⟩) := by
  refine leadsTo_from ?_ (fun _ h => h) (hsettled.mono fun _ h => h.2)
  intro n hn
  have hstep := hn.next
  rw [step_offers rfl (hoffers n hn.1 (by rw [hn.2]; rfl)), take, if_pos rfl] at hstep
  split_ifs at hstep ⊢ <;> exact hstep

/-- Hands that hold nothing, or are putting it down, take what is offered. -/
theorem taken (hsettled : ∃ᶠ n in atTop, (i n).settled)
    (hp : ¬ (p = .grasped ∨ p = .holding)) :
    LeadsTo (From i n₀ ⟨p, last⟩) (From i n₀ ⟨.grasped, last⟩) := by
  have hfree : LeadsTo (From i n₀ ⟨.free, last⟩) (From i n₀ ⟨.grasped, last⟩) :=
    (gets_ready hoffers).trans (grasps hoffers hsettled)
  cases p with
  | free => exact hfree
  | approaching => exact grasps hoffers hsettled
  | releasing => exact (puts_down hsettled).trans hfree
  | grasped => exact absurd (Or.inl rfl) hp
  | holding => exact absurd (Or.inr rfl) hp

/-- Free hands that are always offered something, and asked for it again and again, end
    with a box that is trapped: nothing comes between the first box and the second. -/
theorem ends_trapped (hrequests : ∃ᶠ n in atTop, (i n).requests) :
    ∃ n, n₀ ≤ n ∧ (stateAt arms i n).Trapped := by
  have hsettled : ∃ᶠ n in atTop, (i n).settled := hrequests.mono fun _ h => h.1
  have hsecond : LeadsTo (From i n₀ ⟨.releasing, "release"⟩)
      fun n => n₀ ≤ n ∧ (stateAt arms i n).Trapped :=
    (taken hoffers hsettled (by simp)).trans
      (.of_imp fun n hn => ⟨hn.1, by rw [hn.2]; exact ⟨Or.inl rfl, rfl⟩⟩)
  have hheld : ∀ last, LeadsTo
      (fun n => From i n₀ ⟨.grasped, last⟩ n ∨ From i n₀ ⟨.holding, last⟩ n)
      fun n => n₀ ≤ n ∧ (stateAt arms i n).Trapped := by
    intro last
    -- a box after a release is trapped at once; any other is given back, and then comes
    -- the next one
    by_cases hlast : last = "release"
    · refine .of_imp ?_
      rintro n (⟨hle, hn⟩ | ⟨hle, hn⟩)
      · exact ⟨hle, by rw [hn]; exact ⟨Or.inl rfl, hlast⟩⟩
      · exact ⟨hle, by rw [hn]; exact ⟨Or.inr rfl, hlast⟩⟩
    · exact (gives_back hrequests hlast).trans hsecond
  generalize ha : stateAt arms i n₀ = a
  obtain ⟨p, last⟩ := a
  have hstart : From i n₀ ⟨p, last⟩ n₀ := ⟨Nat.le_refl n₀, ha⟩
  by_cases hp : p = .grasped ∨ p = .holding
  · obtain ⟨m, -, hm⟩ := hheld last n₀ (by rcases hp with rfl | rfl <;> simp [hstart])
    exact ⟨m, hm⟩
  · obtain ⟨m, -, hm⟩ := ((taken hoffers hsettled hp).trans
      ((LeadsTo.of_imp fun _ => Or.inl).trans (hheld last))) n₀ hstart
    exact ⟨m, hm⟩

end Offered

/-- The hands are empty again and again, unless a box is trapped. -/
theorem emptied_iff_never_trapped (hrequests : ∃ᶠ n in atTop, (i n).requests) :
    (∃ᶠ n in atTop, (stateAt arms i n).phase.hasBox = "no") ↔
      ∀ n, ¬ (stateAt arms i n).Trapped := by
  have hdown : ∀ last, LeadsTo (From i 0 ⟨.releasing, last⟩)
      fun n => (stateAt arms i n).phase.hasBox = "no" := fun last =>
    (puts_down (hrequests.mono fun _ h => h.1)).trans
      (.of_imp fun n hn => by rw [hn.2]; rfl)
  refine frequently_iff_never (fun n htrapped => (htrapped.step (i n)).1) ?_ ?_
  · intro n htrapped hno
    rw [htrapped.hasBox] at hno
    exact absurd hno (by decide)
  · rintro n ⟨hyes, hfree⟩
    generalize ha : stateAt arms i n = a at hyes hfree
    obtain ⟨p, last⟩ := a
    have hn : From i 0 ⟨p, last⟩ n := ⟨Nat.zero_le n, ha⟩
    have hback : p = .grasped ∨ p = .holding →
        ∃ m, n ≤ m ∧ (stateAt arms i m).phase.hasBox = "no" := by
      intro hp
      have hlast : last ≠ "release" := fun hlast => hfree ⟨hp, hlast⟩
      refine ((gives_back hrequests hlast).trans (hdown "release")) n ?_
      rcases hp with rfl | rfl
      · exact Or.inl hn
      · exact Or.inr hn
    cases p with
    | free => exact absurd rfl hyes
    | approaching => exact absurd rfl hyes
    | grasped => exact hback (Or.inl rfl)
    | holding => exact hback (Or.inr rfl)
    | releasing => exact hdown last n hn

section Answered

variable (hstay : ∀ n, n₀ ≤ n → (i n).travelling = false ∧ (i n).offered = false ∧
  (i n).action = (i n₀).action ∧ (i n).looking = (i n₀).looking)
include hstay

theorem step_answered (hn : n₀ ≤ n) :
    step a (i n) = if (i n).finished then a.answer (i n) else a.rest := by
  obtain ⟨htravel, hoffered, -, -⟩ := hstay n hn
  rw [step, if_neg (by simp [htravel]), if_neg (by simp [hoffered])]

theorem reply_answered (hn : n₀ ≤ n) : reply last (i n) = reply last (i n₀) := by
  obtain ⟨-, -, haction, hlook⟩ := hstay n hn
  exact reply_congr haction hlook

/-- The human is replied to as soon as a motion is finished; until then an approach may be
    given up, and nothing else happens. -/
theorem comes_to_reply (hfin : ∃ᶠ n in atTop, (i n).finished = true) :
    LeadsTo (fun n => n₀ ≤ n ∧ (stateAt arms i n).phase.hasBox = "no" ∧
        (stateAt arms i n).last = last)
      (From i n₀ ⟨.free, (reply last (i n₀)).getD last⟩) := by
  refine leadsTo_from (c := ⟨.free, last⟩) ?_ ?_ hfin
  · rintro n ⟨hle, hno, hlast⟩
    have hnow : From i n₀ (stateAt arms i n) n := ⟨hle, rfl⟩
    have hstep := hnow.next
    rw [step_answered hstay hle] at hstep
    split_ifs at hstep ⊢
    · rwa [answer_no hno, hlast, reply_answered hstay hle] at hstep
    · rwa [rest_no hno, hlast] at hstep
  · rintro n ⟨hle, hn⟩
    exact ⟨hle, by rw [hn]; rfl, by rw [hn]⟩

/-- Once is enough. -/
theorem step_replied (hn : n₀ ≤ n) :
    step ⟨.free, (reply last (i n₀)).getD last⟩ (i n) =
      (⟨.free, (reply last (i n₀)).getD last⟩, []) := by
  have hnone : reply ((reply last (i n₀)).getD last) (i n) = none := by
    rw [reply_answered hstay hn, reply_settles]
  rw [step_answered hstay hn]
  split_ifs
  · simp only [answer, hnone, Phase.abort]
  · rfl

/-- With nothing to take, a human who goes on doing the same is answered, and then the
    arms rest. -/
theorem replies (hfin : ∃ᶠ n in atTop, (i n).finished = true)
    (hno : (stateAt arms i n₀).phase.hasBox = "no") (hlast : (stateAt arms i n₀).last = last) :
    ∃ m, n₀ ≤ m ∧ ∀ n, m ≤ n →
      stateAt arms i n = ⟨.free, (reply last (i n₀)).getD last⟩ ∧ outputAt arms i n = [] := by
  obtain ⟨m, -, hm⟩ := comes_to_reply hstay hfin n₀ ⟨Nat.le_refl n₀, hno, hlast⟩
  have hreplied : ∀ n, m ≤ n → From i n₀ ⟨.free, (reply last (i n₀)).getD last⟩ n := by
    intro n hn
    refine lasts (fun k _ hk => ?_) hm hn
    have hstep := hk.next
    rwa [step_replied hstay hk.1] at hstep
  refine ⟨m, hm.1, fun n hn => ?_⟩
  obtain ⟨hle, hstate⟩ := hreplied n hn
  refine ⟨hstate, ?_⟩
  show (step (stateAt arms i n) (i n)).2 = _
  rw [hstate, step_replied hstay hle]

end Answered

end Streams

end Arms

end ErgoCubBehavior
