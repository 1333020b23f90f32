/-
  ErgoCubBehavior.Rpc.Exchange

  A remote call from end to end: the client writes a command, the server serves it,
  the client reads the answer.

  What the transport does with a message is not the code's: it may be lost, or its
  answer may be (`Transmission`).  A function of a class that no server has
  overridden is such a call over the link of the object (`WireLink`), and gives the
  default value when the call fails.

  * `Service.serve_arrived` — a command that has arrived is served by its function;
  * `Service.exchange_eq` — what an exchange does over any lawful format;
  * `CommandInterface.base_link`, ... — over a lawful format the client object is the
    server behind the transport.
-/

import ErgoCubBehavior.Rpc.Dispatch
import ErgoCubBehavior.Rpc.Interfaces

namespace ErgoCubBehavior

open Wire Binary64

-- ============================================================================
-- Exchanges
-- ============================================================================

/-- What becomes of a message and of the answer to it. -/
inductive Transmission where
  | lost | answerLost | delivered
deriving DecidableEq, Repr

/-- What a call leaves at the two ends: the answer the client reads, if
    `yarp().write` returns `true`; the state of the server and the functions of it
    that were called. -/
structure Exchange (t : RetType) (σ : Type) where
  answer : Option t.Value
  object : σ
  calls : List Call

/-- `ok ? helper.reply.return_helper : bool{}` -/
def Exchange.ret {t : RetType} {σ : Type} (x : Exchange t σ) : t.Value :=
  x.answer.getD t.default

variable (F : Format Matrix) {σ : Type} {I : Interface}

/-- The answer to a served command, as the client reads it. -/
def Served.answer (x : Served F σ) (h : Helper) : Option h.ret.Value :=
  match x.ok, x.reply with
  | true, some w =>
      match (Reply.read F h).run (F.deliver w) with
      | .ok ret _ => some ret
      | .error _ _ => none
  | _, _ => none

/-- `yarp().write(helper, helper)` with the server at the other end. -/
def Service.exchange (S : Service I σ) (t : Transmission) (h : Helper) (args : Args h.args)
    (o : σ) : Exchange h.ret σ :=
  match (Command.write F h args).run F.newWriter with
  | .error _ _ => { answer := none, object := o, calls := [] }
  | .ok _ w =>
      let served := S.serve F (F.deliver w) o
      match t with
      | .lost => { answer := none, object := o, calls := [] }
      | .answerLost => { answer := none, object := served.object, calls := served.calls }
      | .delivered =>
          { answer := served.answer F h, object := served.object, calls := served.calls }

-- ============================================================================
-- A lawful format
-- ============================================================================

section Lawful

variable {F} (L : F.Lawful) {S : Service I σ} {r : F.Reader} {is : List (Item Matrix)}

theorem spelled_of_pending (ws : List String) (hne : ∀ w ∈ ws, w ≠ "")
    (hr : L.Pending r (ws.map .word ++ is)) :
    ∃ r', Spelled F r ws r' ∧ L.Pending r' is := by
  induction ws generalizing r with
  | nil => exact ⟨r, .nil, hr⟩
  | cons w ws ih =>
      obtain ⟨r₁, hread, hr₁⟩ := L.readTag r [w] (ws.map .word ++ is) (by simp) hr
      obtain ⟨r', hspelled, hr'⟩ := ih (fun v hv => hne v (List.mem_cons_of_mem _ hv)) hr₁
      refine ⟨r', .cons (L.isError r _ hr) (L.noMore_cons r _ _ hr) ?_ (hne w List.mem_cons_self)
        hspelled, hr'⟩
      rw [joinWords_singleton] at hread
      exact hread

/-- The first word of a tag is not the mark of a direct call. -/
theorem Interface.word_ne_direct {h : Helper} (hh : h ∈ I.helpers) {w : String}
    {ws : List String} (hw : words h.tag = w :: ws) : w ≠ directTag := by
  intro heq
  have htag : h.tag = joinWords (w :: ws) := by rw [← hw, joinWords_words]
  apply I.not_direct h hh
  rw [htag, heq]
  by_cases hws : ws = []
  · subst hws
    have hsingle : joinWords [directTag] = directTag := joinWords_singleton directTag
    simp [hsingle]
  · have hfront := joinWords_prefix directTag hws
    rw [String.toList_append] at hfront
    exact (List.prefix_append _ _).trans hfront

theorem spelling_of_arrived {h : Helper} (hh : h ∈ I.helpers) (args : Args h.args)
    (hr : L.Arrived r (h.items args)) :
    ∃ r', Spelling F r (words h.tag) r' ∧ L.Pending r' (Args.items h.args args) := by
  obtain ⟨r₀, hheader, hr₀⟩ := L.readListHeader _ _ (L.expectAccept r _ hr)
  cases hw : words h.tag with
  | nil => exact absurd hw (words_ne_nil h.tag)
  | cons w ws =>
      rw [Helper.items, hw] at hr₀
      have hne : ∀ v ∈ ws, v ≠ "" := fun v hv =>
        h.word_ne v (by rw [hw]; exact List.mem_cons_of_mem _ hv)
      obtain ⟨r₁, hread, hr₁⟩ := L.readTag r₀ [w] _ (by simp) hr₀
      obtain ⟨r', hspelled, hr'⟩ := spelled_of_pending L ws hne hr₁
      rw [joinWords_singleton] at hread
      exact ⟨r', ⟨r₀, r₁, w, ws, hheader, Or.inl ⟨hread, I.word_ne_direct hh hw⟩, hspelled,
        L.isError r' _ hr', rfl⟩, hr'⟩

/-- A command that has arrived is addressed to its function. -/
theorem addressed_of_arrived {h : Helper} (hh : h ∈ I.helpers) (args : Args h.args)
    (hr : L.Arrived r (h.items args)) : Addressed F r h args := by
  obtain ⟨r₁, hws, hr₁⟩ := spelling_of_arrived L hh args hr
  obtain ⟨r₂, hargs, -⟩ := readArgs_run L h.args args hr₁
  exact ⟨_, r₁, r₂, hws, joinWords_words h.tag, hargs⟩

/-- A command that has arrived is served by its function, and the answer goes back. -/
theorem Service.serve_arrived {m : Method σ} (hm : m ∈ S.methods) (args : Args m.helper.args)
    (hr : L.Arrived r (m.helper.items args)) (o : σ) :
    ∃ w, S.serve F r o =
        { ok := true, object := (m.call args o).2, calls := [⟨m.helper, args⟩], reply := some w } ∧
      L.Written w (m.helper.ret.items (m.call args o).1).length
        (m.helper.ret.items (m.call args o).1) := by
  obtain ⟨r₁, hws, hr₁⟩ := spelling_of_arrived L (S.mem_helpers hm) args hr
  obtain ⟨r₂, hargs, hr₂⟩ := readArgs_run L m.helper.args args hr₁
  obtain ⟨hfresh, hnull⟩ := L.fresh_replyWriter r₂ hr₂
  obtain ⟨w, hwrite, hw⟩ := Reply.write_run L m.helper (m.call args o).1 hfresh hnull
  have hrun := S.read_dispatch (s := { reader := r, object := o, calls := [], reply := none })
    hm hws (joinWords_words m.helper.tag)
  rw [Method.serve_run hargs] at hrun
  simp only [hwrite] at hrun
  refine ⟨w, ?_, hw⟩
  unfold Service.serve
  rw [hrun]
  rfl

include L in
/-- What an exchange does: a message that is lost does nothing, any other calls the
    function once, and the client has the answer if it has not been lost. -/
theorem Service.exchange_eq {m : Method σ} (hm : m ∈ S.methods) (t : Transmission)
    (args : Args m.helper.args) (o : σ) :
    S.exchange F t m.helper args o =
      match t with
      | .lost => { answer := none, object := o, calls := [] }
      | .answerLost =>
          { answer := none, object := (m.call args o).2, calls := [⟨m.helper, args⟩] }
      | .delivered =>
          { answer := some (m.call args o).1, object := (m.call args o).2,
            calls := [⟨m.helper, args⟩] } := by
  obtain ⟨w, hwrite, hw⟩ := Command.write_run L m.helper args L.fresh_newWriter
  have harrived := L.deliver w _ hw
  obtain ⟨v, hserve, hv⟩ := S.serve_arrived L hm args harrived o
  obtain ⟨r', hread, -⟩ := Reply.read_run L m.helper (m.call args o).1 (L.deliver v _ hv)
  unfold Service.exchange
  simp only [hwrite, hserve]
  cases t with
  | lost => rfl
  | answerLost => rfl
  | delivered =>
      simp only [Served.answer, hread]

end Lawful

-- ============================================================================
-- Links
-- ============================================================================

/-- The link of an object, `yarp()`: what `write` gives for a call, over states of the
    other end. -/
structure WireLink (σ : Type) where
  write : (h : Helper) → Args h.args → σ → Option h.ret.Value × σ

/-- A function of a class that is not overridden. -/
def WireLink.invoke {σ : Type} (link : WireLink σ) (h : Helper) (args : Args h.args) (o : σ) :
    h.ret.Value × σ :=
  ((link.write h args o).1.getD h.ret.default, (link.write h args o).2)

/-- What the transport does to a call: one whose message is lost does nothing, one whose
    answer is lost is executed, and either way the caller has the default. -/
def carried (ret : RetType) (t : Transmission) (f : σ → ret.Value × σ) (o : σ) :
    ret.Value × σ :=
  match t with
  | .lost => (ret.default, o)
  | .answerLost => (ret.default, (f o).2)
  | .delivered => f o

/-- A link to a server. -/
def Service.link (S : Service I σ) (t : Transmission) : WireLink σ where
  write h args o :=
    ((S.exchange F t h args o).answer, (S.exchange F t h args o).object)

/-- `CommandInterface` itself, no function overridden. -/
def CommandInterface.base (link : WireLink σ) : CommandInterface σ where
  grasp o := link.invoke graspHelper () o
  isFinished o := link.invoke isFinishedHelper () o
  performCartesianAction actionName o :=
    link.invoke performCartesianActionHelper (actionName, ()) o
  performGraspAction actionName o := link.invoke performGraspActionHelper (actionName, ()) o
  performJointSpaceAction actionName o :=
    link.invoke performJointSpaceActionHelper (actionName, ()) o
  moveHandsToPose leftPose rightPose time o :=
    link.invoke moveHandsToPoseHelper (leftPose, rightPose, time, ()) o
  moveJointsToPosition position time o :=
    link.invoke moveJointsToPositionHelper (position, time, ()) o
  moveObjectToPose pose time o := link.invoke moveObjectToPoseHelper (pose, time, ()) o
  releaseObject o := link.invoke releaseObjectHelper () o
  stop o := (link.invoke stopHelper () o).2
  shutDown o := (link.invoke shutDownHelper () o).2

/-- `RPCServerInterface` itself. -/
def RPCServerInterface.base (link : WireLink σ) : RPCServerInterface σ where
  lookAt point o := link.invoke lookAtHelper (point, ()) o
  setGain gain o := link.invoke setGainHelper (gain, ()) o

/-- `ergoCubEmotions_IDL` itself. -/
def ErgoCubEmotionsIDL.base (link : WireLink σ) : ErgoCubEmotionsIDL σ where
  setEmotion command o := link.invoke setEmotionHelper (command, ()) o
  availableEmotions o := link.invoke availableEmotionsHelper () o

/-- A server behind the transport. -/
def CommandInterface.through (server : CommandInterface σ) (t : Transmission) :
    CommandInterface σ where
  grasp := carried .bool t server.grasp
  isFinished := carried .bool t server.isFinished
  performCartesianAction actionName := carried .bool t (server.performCartesianAction actionName)
  performGraspAction actionName := carried .bool t (server.performGraspAction actionName)
  performJointSpaceAction actionName :=
    carried .bool t (server.performJointSpaceAction actionName)
  moveHandsToPose leftPose rightPose time :=
    carried .bool t (server.moveHandsToPose leftPose rightPose time)
  moveJointsToPosition position time := carried .bool t (server.moveJointsToPosition position time)
  moveObjectToPose pose time := carried .bool t (server.moveObjectToPose pose time)
  releaseObject := carried .bool t server.releaseObject
  stop o := (carried .void t (fun o => ((), server.stop o)) o).2
  shutDown o := (carried .void t (fun o => ((), server.shutDown o)) o).2

def RPCServerInterface.through (server : RPCServerInterface σ) (t : Transmission) :
    RPCServerInterface σ where
  lookAt point := carried .bool t (server.lookAt point)
  setGain gain := carried .bool t (server.setGain gain)

def ErgoCubEmotionsIDL.through (server : ErgoCubEmotionsIDL σ) (t : Transmission) :
    ErgoCubEmotionsIDL σ where
  setEmotion command := carried .bool t (server.setEmotion command)
  availableEmotions := carried .listString t server.availableEmotions

section Transparent

variable {F} (L : F.Lawful) {S : Service I σ}

include L

/-- Over a lawful format a client does to a call what the transport does, and nothing
    else. -/
theorem Service.invoke_link {m : Method σ} (hm : m ∈ S.methods) (t : Transmission)
    (args : Args m.helper.args) (o : σ) :
    (S.link F t).invoke m.helper args o = carried m.helper.ret t (m.call args) o := by
  simp only [WireLink.invoke, Service.link, S.exchange_eq L hm]
  cases t <;> rfl

/-- The same for the `i`-th function of a server. -/
theorem Service.invoke_link_get (S : Service I σ) (i : Nat) (m : Method σ)
    (hi : S.methods[i]? = some m) (t : Transmission) (args : Args m.helper.args) (o : σ) :
    (S.link F t).invoke m.helper args o = carried m.helper.ret t (m.call args) o :=
  S.invoke_link L (List.mem_of_getElem? hi) t args o

/-- Over a lawful format the client object is the server behind the transport. -/
theorem CommandInterface.base_link (server : CommandInterface σ) (t : Transmission) :
    CommandInterface.base (server.service.link F t) = server.through t := by
  have h := server.service.invoke_link_get L
  apply CommandInterface.ext
  · have h₀ := h 0 _ rfl t
    exact funext fun o => h₀ () o
  · have h₁ := h 1 _ rfl t
    exact funext fun o => h₁ () o
  · have h₂ := h 2 _ rfl t
    exact funext fun actionName => funext fun o => h₂ (actionName, ()) o
  · have h₃ := h 3 _ rfl t
    exact funext fun actionName => funext fun o => h₃ (actionName, ()) o
  · have h₄ := h 4 _ rfl t
    exact funext fun actionName => funext fun o => h₄ (actionName, ()) o
  · have h₅ := h 5 _ rfl t
    exact funext fun leftPose => funext fun rightPose => funext fun time => funext fun o =>
      h₅ (leftPose, rightPose, time, ()) o
  · have h₆ := h 6 _ rfl t
    exact funext fun position => funext fun time => funext fun o => h₆ (position, time, ()) o
  · have h₇ := h 7 _ rfl t
    exact funext fun pose => funext fun time => funext fun o => h₇ (pose, time, ()) o
  · have h₈ := h 8 _ rfl t
    exact funext fun o => h₈ () o
  · have h₉ := h 9 _ rfl t
    exact funext fun o => congrArg Prod.snd (h₉ () o)
  · have h₁₀ := h 10 _ rfl t
    exact funext fun o => congrArg Prod.snd (h₁₀ () o)

theorem RPCServerInterface.base_link (server : RPCServerInterface σ) (t : Transmission) :
    RPCServerInterface.base (server.service.link F t) = server.through t := by
  have h := server.service.invoke_link_get L
  apply RPCServerInterface.ext
  · have h₀ := h 0 _ rfl t
    exact funext fun point => funext fun o => h₀ (point, ()) o
  · have h₁ := h 1 _ rfl t
    exact funext fun gain => funext fun o => h₁ (gain, ()) o

theorem ErgoCubEmotionsIDL.base_link (server : ErgoCubEmotionsIDL σ) (t : Transmission) :
    ErgoCubEmotionsIDL.base (server.service.link F t) = server.through t := by
  have h := server.service.invoke_link_get L
  apply ErgoCubEmotionsIDL.ext
  · have h₀ := h 0 _ rfl t
    exact funext fun command => funext fun o => h₀ (command, ()) o
  · have h₁ := h 1 _ rfl t
    exact funext fun o => h₁ () o

end Transparent

end ErgoCubBehavior
