/-
  ErgoCubBehavior.Rpc.Deployment

  The robot with its components.  In `Robot.Services` the answers of the remote
  services come from an environment that is free to choose them; here they come from
  servers, over clients of the generated classes, and the transport may lose any
  message and any answer.

  * `Components` — the servers, over a state they may share;
  * `Components.clients` — the client objects of the nodes;
  * `deployment` — the loop of `main` with every answer given over the wire;
  * `Components.clients_eq` — the clients are the servers behind the transport, over any
    lawful format;
  * `deployment_eq` — a deployment over a lawful format does what the calls do by
    themselves.
-/

import ErgoCubBehavior.Robot.Ergotree
import ErgoCubBehavior.Rpc.Exchange

namespace ErgoCubBehavior

open Wire Binary64

/-- The servers of the robot, over one state of theirs. -/
structure Components (σ : Type) where
  manipulation : CommandInterface σ
  gaze : RPCServerInterface σ
  emotions : ErgoCubEmotionsIDL σ

variable {σ : Type}

/-- The call behind an event of a tick, if it goes to one of these servers. -/
def Components.perform (C : Components σ) : Event → Option (σ → Bool × σ)
  | .isFinished _ _ => some C.manipulation.isFinished
  | .performJointSpaceAction _ actionName _ =>
      some (C.manipulation.performJointSpaceAction actionName)
  | .lookAt point _ => some (C.gaze.lookAt point)
  | .setGain gain _ => some (C.gaze.setGain gain)
  | .setEmotion command _ => some (C.emotions.setEmotion command)
  | _ => none

/-- The answer such a call got. -/
def Event.answer? : Event → Option Bool
  | .isFinished _ answer => some answer
  | .performJointSpaceAction _ _ answer => some answer
  | .lookAt _ answer => some answer
  | .setGain _ answer => some answer
  | .setEmotion _ answer => some answer
  | _ => none

theorem Components.perform_of_answer {C : Components σ} {e : Event} {answer : Bool}
    (h : e.answer? = some answer) : ∃ f, C.perform e = some f := by
  cases e <;> first | exact ⟨_, rfl⟩ | cases h

/-- The clients the nodes hold, attached to the ports of the servers. -/
def Components.clients (F : Format Matrix) (C : Components σ) (t : Transmission) :
    Components σ where
  manipulation := CommandInterface.base (C.manipulation.service.link F t)
  gaze := RPCServerInterface.base (C.gaze.service.link F t)
  emotions := ErgoCubEmotionsIDL.base (C.emotions.service.link F t)

-- ============================================================================
-- Conversations
-- ============================================================================

/-- The events of a tick with the transmissions of their calls, for a given meaning of
    a call. -/
inductive Conversation (perform : Transmission → Event → Option (σ → Bool × σ)) :
    σ → List (Event × Transmission) → σ → Prop where
  | nil {o : σ} : Conversation perform o [] o
  | internal {o o' : σ} {e : Event} {t : Transmission} {l : List (Event × Transmission)} :
      perform t e = none → Conversation perform o l o' →
      Conversation perform o ((e, t) :: l) o'
  | remote {o o' : σ} {e : Event} {t : Transmission} {f : σ → Bool × σ}
      {l : List (Event × Transmission)} :
      perform t e = some f → e.answer? = some (f o).1 → Conversation perform (f o).2 l o' →
      Conversation perform o ((e, t) :: l) o'

/-- What the servers have been called for: a message that is not lost is executed, also
    where its answer is lost. -/
def executed (l : List (Event × Transmission)) : List Event :=
  (l.filter fun x => x.2 ≠ .lost).map Prod.fst

/-- The servers after the calls of a trace, one after the other. -/
def Components.execute (C : Components σ) (o : σ) (l : List Event) : σ :=
  l.foldl (fun o e => match C.perform e with
    | some f => (f o).2
    | none => o) o

/-- A tick of a deployment: the tick, and what became of its messages. -/
structure DeployedTick where
  tick : TickRecord
  conversation : List (Event × Transmission)

/-- The loop of `main` with a given meaning of the calls. -/
def conversing (perform : Transmission → Event → Option (σ → Bool × σ)) (o₀ : σ) :
    Transition.System (State × σ) DeployedTick where
  start := (initialState, o₀)
  Step s d s' := mainLoop.Step s.1 d.tick s'.1 ∧ d.conversation.map Prod.fst = d.tick.trace ∧
    Conversation perform s.2 d.conversation s'.2

/-- The robot, its servers, and the wire between them. -/
def deployment (F : Format Matrix) (C : Components σ) (o₀ : σ) :
    Transition.System (State × σ) DeployedTick :=
  conversing (fun t e => (C.clients F t).perform e) o₀

-- ============================================================================
-- Without the wire
-- ============================================================================

/-- The servers behind the transport. -/
def Components.through (C : Components σ) (t : Transmission) : Components σ where
  manipulation := C.manipulation.through t
  gaze := C.gaze.through t
  emotions := C.emotions.through t

/-- What a call does when only the transport stands between the robot and its servers. -/
def Components.carry (C : Components σ) (t : Transmission) (e : Event) : Option (σ → Bool × σ) :=
  (C.through t).perform e

/-- The robot and its servers, with nothing but the transport between them. -/
def directDeployment (C : Components σ) (o₀ : σ) : Transition.System (State × σ) DeployedTick :=
  conversing C.carry o₀

theorem Components.carry_eq (C : Components σ) (t : Transmission) (e : Event) :
    C.carry t e = (C.perform e).map (carried .bool t) := by
  cases e <;> rfl

theorem Components.carry_none {C : Components σ} {t : Transmission} {e : Event}
    (h : C.carry t e = none) : C.perform e = none := by
  rw [C.carry_eq] at h
  exact Option.map_eq_none_iff.mp h

theorem Components.carry_some {C : Components σ} {t : Transmission} {e : Event}
    {f : σ → Bool × σ} (h : C.carry t e = some f) :
    ∃ g, C.perform e = some g ∧ carried .bool t g = f := by
  rw [C.carry_eq] at h
  exact Option.map_eq_some_iff.mp h

section Lawful

variable {F : Format Matrix} (L : F.Lawful)

include L

/-- The clients are the servers behind the transport. -/
theorem Components.clients_eq (C : Components σ) (t : Transmission) :
    C.clients F t = C.through t := by
  unfold Components.clients Components.through
  rw [CommandInterface.base_link L, RPCServerInterface.base_link L, ErgoCubEmotionsIDL.base_link L]

/-- A deployment over a lawful format does what the calls do by themselves. -/
theorem deployment_eq (C : Components σ) (o₀ : σ) :
    deployment F C o₀ = directDeployment C o₀ := by
  unfold deployment directDeployment
  congr 1
  funext t e
  rw [C.clients_eq L]
  rfl

end Lawful

-- ============================================================================
-- Deployments and the loop
-- ============================================================================

section Direct

variable {C : Components σ} {o o' o₀ : σ} {l : List (Event × Transmission)}

@[simp] theorem executed_nil : executed [] = [] := rfl

@[simp] theorem executed_cons (e : Event) (t : Transmission) (l : List (Event × Transmission)) :
    executed ((e, t) :: l) = (if t = .lost then [] else [e]) ++ executed l := by
  cases t <;> rfl

@[simp] theorem executed_append (l₁ l₂ : List (Event × Transmission)) :
    executed (l₁ ++ l₂) = executed l₁ ++ executed l₂ := by
  simp [executed]

@[simp] theorem Components.execute_nil : C.execute o [] = o := rfl

@[simp] theorem Components.execute_append (l₁ l₂ : List Event) :
    C.execute o (l₁ ++ l₂) = C.execute (C.execute o l₁) l₂ := by
  simp [Components.execute]

theorem Components.execute_internal {e : Event} (he : C.perform e = none) :
    C.execute o [e] = o := by
  simp [Components.execute, he]

theorem Components.execute_remote {e : Event} {f : σ → Bool × σ} (he : C.perform e = some f) :
    C.execute o [e] = (f o).2 := by
  simp [Components.execute, he]

/-- What a call leaves at the server is what was executed. -/
theorem carried_object {e : Event} {f : σ → Bool × σ} (t : Transmission)
    (he : C.perform e = some f) :
    (carried .bool t f o).2 = C.execute o (if t = .lost then [] else [e]) := by
  cases t with
  | lost => rfl
  | answerLost | delivered => exact (C.execute_remote he).symm

/-- A conversation leaves the servers as the executed calls do. -/
theorem Conversation.object
    (hconv : Conversation C.carry o l o') :
    o' = C.execute o (executed l) := by
  induction hconv with
  | nil => rfl
  | @internal o o' e t l he _ ih =>
      rw [ih, executed_cons, C.execute_append]
      split
      · rfl
      · rw [C.execute_internal (C.carry_none he)]
  | @remote o o' e t f l he _ _ ih =>
      obtain ⟨g, hg, rfl⟩ := C.carry_some he
      rw [ih, executed_cons, C.execute_append, carried_object t hg]

/-- A call is answered what the server answers in its place, or `false` where something is
    lost. -/
theorem Conversation.answer {l₁ l₂ : List (Event × Transmission)} {e : Event} {t : Transmission}
    {f : σ → Bool × σ}
    (hconv : Conversation C.carry o (l₁ ++ (e, t) :: l₂) o')
    (hf : C.perform e = some f) :
    e.answer? = some (t = .delivered && (f (C.execute o (executed l₁))).1) := by
  induction l₁ generalizing o with
  | nil =>
      cases hconv with
      | internal he _ =>
          rw [C.carry_none he] at hf
          cases hf
      | remote he hanswer _ =>
          obtain ⟨g, hg, rfl⟩ := C.carry_some he
          rw [hf] at hg
          cases hg
          rw [hanswer]
          cases t <;> rfl
  | cons x l₁ ih =>
      obtain ⟨e₁, t₁⟩ := x
      rw [executed_cons, C.execute_append]
      cases hconv with
      | internal he hrest =>
          rw [ih hrest]
          split
          · rfl
          · rw [C.execute_internal (C.carry_none he)]
      | remote he hanswer hrest =>
          obtain ⟨g, hg, rfl⟩ := C.carry_some he
          rw [ih hrest, carried_object t₁ hg]

theorem Conversation.append {l₁ l₂ : List (Event × Transmission)} {o'' : σ}
    {perform : Transmission → Event → Option (σ → Bool × σ)}
    (h₁ : Conversation perform o l₁ o') (h₂ : Conversation perform o' l₂ o'') :
    Conversation perform o (l₁ ++ l₂) o'' := by
  induction h₁ with
  | nil => exact h₂
  | internal he _ ih => exact .internal he (ih h₂)
  | remote he hanswer _ ih => exact .remote he hanswer (ih h₂)

variable {h : List DeployedTick} {s : State × σ}

/-- The messages of a run with their transmissions. -/
def conversations (h : List DeployedTick) : List (Event × Transmission) :=
  h.flatMap DeployedTick.conversation

/-- A run of a deployment is a run of the loop and one conversation with the servers. -/
theorem Run.deployed {perform : Transmission → Event → Option (σ → Bool × σ)}
    (hrun : Transition.Run (conversing perform o₀) h s) :
    Run (h.map DeployedTick.tick) s.1 ∧
      (conversations h).map Prod.fst = (h.map DeployedTick.tick).flatMap TickRecord.trace ∧
      Conversation perform o₀ (conversations h) s.2 := by
  refine Transition.Run.history (motive := fun h s =>
    Run (h.map DeployedTick.tick) s.1 ∧
      (conversations h).map Prod.fst = (h.map DeployedTick.tick).flatMap TickRecord.trace ∧
      Conversation perform o₀ (conversations h) s.2) hrun ?_ ?_
  · exact ⟨.nil, rfl, .nil⟩
  · rintro h s d s' - ⟨htree, hevents, hconv⟩ ⟨hstep, htrace, htick⟩
    refine ⟨?_, ?_, ?_⟩
    · rw [List.map_append]
      exact Transition.Path.append htree (Transition.Path.single hstep)
    · simp only [conversations, List.flatMap_append, List.map_append] at hevents ⊢
      rw [hevents]
      simp [htrace]
    · simp only [conversations, List.flatMap_append, List.flatMap_cons, List.flatMap_nil,
        List.append_nil] at hconv ⊢
      exact hconv.append htick

end Direct

-- ============================================================================
-- Nothing lost
-- ============================================================================

section Delivered

variable {C : Components σ} {o o₀ : σ}

/-- A tick whose messages and answers all arrive. -/
def TickRecord.delivered (t : TickRecord) : DeployedTick :=
  { tick := t, conversation := t.trace.map fun e => (e, .delivered) }

/-- The answers in a trace are those the servers give. -/
def Components.answers (C : Components σ) (o : σ) : List Event → Bool
  | [] => true
  | e :: l =>
      (match C.perform e with
        | some f => e.answer? = some (f o).1
        | none => true) && C.answers (C.execute o [e]) l

theorem Conversation.delivered {l : List Event} (hl : C.answers o l = true) :
    Conversation C.carry o (l.map fun e => (e, .delivered)) (C.execute o l) := by
  induction l generalizing o with
  | nil => exact .nil
  | cons e l ih =>
      rw [Components.answers, Bool.and_eq_true] at hl
      obtain ⟨hanswer, hrest⟩ := hl
      have hconv := ih hrest
      rw [← C.execute_append, List.singleton_append] at hconv
      cases hf : C.perform e with
      | none =>
          rw [C.execute_internal hf] at hconv
          exact .internal (by rw [C.carry_eq, hf]; rfl) hconv
      | some f =>
          rw [C.execute_remote hf] at hconv
          rw [hf] at hanswer
          exact .remote (by rw [C.carry_eq, hf]; rfl) (of_decide_eq_true hanswer) hconv

theorem Components.answers_append {l₁ l₂ : List Event} :
    C.answers o (l₁ ++ l₂) = (C.answers o l₁ && C.answers (C.execute o l₁) l₂) := by
  induction l₁ generalizing o with
  | nil => rfl
  | cons e l₁ ih =>
      rw [List.cons_append, Components.answers, ih, Components.answers, Bool.and_assoc,
        ← C.execute_append, List.singleton_append]

/-- A run of the loop with the answers of the servers is a run of their deployment. -/
theorem Run.delivered {h : List TickRecord} {s : State} (hrun : Run h s)
    (hh : C.answers o₀ (h.flatMap TickRecord.trace) = true) :
    Transition.Run (directDeployment C o₀) (h.map TickRecord.delivered)
      (s, C.execute o₀ (h.flatMap TickRecord.trace)) := by
  induction hrun with
  | nil => exact .nil
  | @snoc h s' s'' t _ hstep ih =>
      rw [List.flatMap_append, List.flatMap_singleton, C.answers_append, Bool.and_eq_true] at hh
      rw [List.map_append, List.flatMap_append, List.flatMap_singleton, C.execute_append]
      refine (ih hh.1).snoc ⟨hstep, ?_, Conversation.delivered hh.2⟩
      simp [TickRecord.delivered, Function.comp_def]

end Delivered

end ErgoCubBehavior
