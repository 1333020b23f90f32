/-
  ErgoCubBehavior.Properties.Remote

  The robot and its components at the two ends of a wire.

  * `message_dispatch` — what a server makes of a message, whatever the connection
    does;
  * `message_round_trip` — over a lawful format, every command and every answer is
    read as it was written;
  * `client_is_server` — over a lawful format, a client object does what the server
    does, as far as the transport lets it;
  * `deployed_run` — a run of the deployed robot is a run of the tree, and the servers
    have executed what was not lost, once and in order;
  * `belief_matches_server` — `the_has_box` and what the manipulation server has
    executed, as long as no motion command is lost;
  * `mock_answers` — what the mocks answer.
-/

import ErgoCubBehavior.Protocol.History
import ErgoCubBehavior.Rpc.Mocks

namespace ErgoCubBehavior

open Wire Binary64

variable {F : Format Matrix} {σ : Type}

-- ============================================================================
-- Dispatch
-- ============================================================================

/-- Two functions of a server with one helper are one function. -/
theorem Service.method_eq {I : Interface} {S : Service I σ} {m m' : Method σ}
    (hm : m ∈ S.methods) (hm' : m' ∈ S.methods) (h : m.helper = m'.helper) : m = m' :=
  List.inj_on_of_nodup_map S.nodup_tags hm hm' (congrArg Helper.tag h)

/-- A server calls at most one function for a message, one of its own, and calls it exactly
    when the words of the message spell its tag and the arguments, and nothing else,
    follow. -/
theorem message_dispatch {I : Interface} (S : Service I σ) (r : F.Reader) (o : σ) :
    (S.serve F r o).calls.length ≤ 1 ∧
      (∀ c ∈ (S.serve F r o).calls, ∃ m ∈ S.methods, c.helper = m.helper) ∧
      ((S.serve F r o).calls = [] → (S.serve F r o).object = o) ∧
      ∀ m ∈ S.methods, ∀ args,
        ((S.serve F r o).calls = [⟨m.helper, args⟩] ↔ Addressed F r m.helper args) ∧
        (Addressed F r m.helper args → (S.serve F r o).object = (m.call args o).2) := by
  have hserved := S.serve_atMostOnce r o
  refine ⟨?_, ?_, ?_, ?_⟩
  · rcases hserved with ⟨hcalls, -⟩ | ⟨m, -, args, -, hcalls, -⟩
    · rw [hcalls]
      exact Nat.zero_le 1
    · rw [hcalls]
      exact Nat.le_refl 1
  · intro c hc
    rcases hserved with ⟨hcalls, -⟩ | ⟨m, hm, args, -, hcalls, -⟩
    · rw [hcalls] at hc
      cases hc
    · rw [hcalls, List.mem_singleton] at hc
      exact ⟨m, hm, by rw [hc]⟩
  · intro hnone
    rcases hserved with ⟨-, hobject⟩ | ⟨m, -, args, -, hcalls, -⟩
    · exact hobject
    · rw [hnone] at hcalls
      cases hcalls
  · intro m hm args
    refine ⟨⟨?_, fun haddressed => (S.serve_addressed hm haddressed o).1⟩,
      fun haddressed => (S.serve_addressed hm haddressed o).2⟩
    intro hcalls
    rcases hserved with ⟨hnone, -⟩ | ⟨m', hm', args', haddressed, hcalls', -⟩
    · rw [hnone] at hcalls
      cases hcalls
    · rw [hcalls'] at hcalls
      injection hcalls with hcall
      injection hcall with hhelper hargs
      obtain rfl := Service.method_eq hm' hm hhelper
      rw [← eq_of_heq hargs]
      exact haddressed

/-- The message `[perform_joint_space_action ready]`. -/
def readyMessage : BottleReader Matrix where
  announced := 5
  items := [.word "perform", .word "joint", .word "space", .word "action", .string "ready"]
  strings := none
  error := false

theorem message_dispatch_ready :
    (MockManipulation.service.serve (bottle Matrix) readyMessage ()).calls =
      [⟨CommandInterface.performJointSpaceActionHelper, ("ready", ())⟩] :=
  ((message_dispatch (F := bottle Matrix) MockManipulation.service readyMessage ()).2.2.2
    ⟨CommandInterface.performJointSpaceActionHelper, fun _ _ => (true, ())⟩
    (List.mem_of_getElem? (i := 4) rfl) ("ready", ())).1.mpr
    (addressed_of_arrived (bottle_lawful Matrix)
      (List.mem_of_getElem? (l := CommandInterface.interface.helpers) (i := 4) rfl) ("ready", ())
      ⟨rfl, rfl, rfl, rfl⟩)

-- ============================================================================
-- Round trips
-- ============================================================================

/-- A server whose functions do nothing. -/
def Interface.silent (I : Interface) : Service I Unit where
  methods := I.helpers.map fun h => ⟨h, fun _ o => (h.ret.default, o)⟩
  helpers_eq := by simp [Function.comp_def]

theorem Interface.mem_silent {I : Interface} {h : Helper} (hh : h ∈ I.helpers) :
    ⟨h, fun _ o => (h.ret.default, o)⟩ ∈ I.silent.methods :=
  List.mem_map_of_mem hh

/-- What is written is read, a command with its arguments and an answer with its value;
    and no two commands of an interface are written alike. -/
theorem message_round_trip (L : F.Lawful) (I : Interface) (h : Helper) :
    (∀ args, ∃ w r, (Command.write F h args).run F.newWriter = .ok () w ∧
      (Command.read F h).run (F.deliver w) = .ok args r) ∧
    (∀ r ret, L.Pending r [] → ∃ w r', (Reply.write F h ret).run (F.replyWriter r) = .ok () w ∧
      (Reply.read F h).run (F.deliver w) = .ok ret r') ∧
    (h ∈ I.helpers → ∀ h' ∈ I.helpers, ∀ args args',
      (Command.write F h args).run F.newWriter = (Command.write F h' args').run F.newWriter →
        Call.mk h args = Call.mk h' args') := by
  refine ⟨?_, ?_, ?_⟩
  · intro args
    obtain ⟨w, hwrite, hw⟩ := Command.write_run L h args L.fresh_newWriter
    obtain ⟨r, hread, -⟩ := Command.read_run L h args (L.deliver w _ hw)
    exact ⟨w, r, hwrite, hread⟩
  · intro r ret hr
    obtain ⟨hfresh, hnull⟩ := L.fresh_replyWriter r hr
    obtain ⟨w, hwrite, hw⟩ := Reply.write_run L h ret hfresh hnull
    obtain ⟨r', hread, -⟩ := Reply.read_run L h ret (L.deliver w _ hw)
    exact ⟨w, r', hwrite, hread⟩
  · intro hh h' hh' args args' hsame
    obtain ⟨w, hwrite, hw⟩ := Command.write_run L h args L.fresh_newWriter
    obtain ⟨w', hwrite', hw'⟩ := Command.write_run L h' args' L.fresh_newWriter
    rw [hwrite, hwrite'] at hsame
    cases hsame
    have hserved := I.silent.serve_arrived L (I.mem_silent hh) args (L.deliver w _ hw) ()
    have hserved' := I.silent.serve_arrived L (I.mem_silent hh') args' (L.deliver w _ hw') ()
    obtain ⟨v, hserve, -⟩ := hserved
    obtain ⟨v', hserve', -⟩ := hserved'
    rw [hserve] at hserve'
    injection hserve' with _ _ hcalls _
    exact List.singleton_inj.mp hcalls

/-- An answer to a message that has been read, and a command that is like itself only. -/
theorem message_round_trip_isFinished :
    (∃ w r', (Reply.write (bottle Matrix) CommandInterface.isFinishedHelper true).run
        ((bottle Matrix).replyWriter { readyMessage with items := [] }) = .ok () w ∧
      (Reply.read (bottle Matrix) CommandInterface.isFinishedHelper).run
        ((bottle Matrix).deliver w) = .ok true r') ∧
    Call.mk CommandInterface.isFinishedHelper () = Call.mk CommandInterface.isFinishedHelper () :=
  have htrip := message_round_trip (bottle_lawful Matrix) CommandInterface.interface
    CommandInterface.isFinishedHelper
  ⟨htrip.2.1 _ true ⟨rfl, rfl, rfl⟩,
    htrip.2.2 (List.mem_of_getElem? (i := 1) rfl) _ (List.mem_of_getElem? (i := 1) rfl) () () rfl⟩

-- ============================================================================
-- Clients
-- ============================================================================

/-- Over a lawful format, a function of a client does what the transport makes of the
    function of the server: all of it, its effect without its answer, or nothing. -/
theorem client_is_server (L : F.Lawful) (t : Transmission) (manipulation : CommandInterface σ)
    (gaze : RPCServerInterface σ) (emotions : ErgoCubEmotionsIDL σ) :
    CommandInterface.base (manipulation.service.link F t) = manipulation.through t ∧
      RPCServerInterface.base (gaze.service.link F t) = gaze.through t ∧
      ErgoCubEmotionsIDL.base (emotions.service.link F t) = emotions.through t :=
  ⟨manipulation.base_link L t, gaze.base_link L t, emotions.base_link L t⟩

theorem client_is_server_mock :
    CommandInterface.base (MockManipulation.service.link (bottle Matrix) .delivered) =
      MockManipulation.through .delivered :=
  (client_is_server (bottle_lawful Matrix) .delivered MockManipulation MockGazeController
    ⟨fun _ _ => (true, ()), fun _ => ([], ())⟩).1

-- ============================================================================
-- Deployed runs
-- ============================================================================

variable {C : Components σ} {o₀ : σ} {h : List DeployedTick} {s : State × σ}

/-- What a run of the deployed robot is: a run of the tree, whose messages have been
    executed once each and in order unless they were lost, and answered by the server
    they went to unless something was lost. -/
structure Deployed (C : Components σ) (o₀ : σ) (h : List DeployedTick) (s : State × σ) :
    Prop where
  run : Run (h.map DeployedTick.tick) s.1
  events : (conversations h).map Prod.fst = (h.map DeployedTick.tick).flatMap TickRecord.trace
  servers : s.2 = C.execute o₀ (executed (conversations h))
  answers : ∀ l₁ e t l₂, conversations h = l₁ ++ (e, t) :: l₂ → ∀ f, C.perform e = some f →
    e.answer? = some (t = .delivered && (f (C.execute o₀ (executed l₁))).1)

theorem deployed_run (L : F.Lawful) (hrun : Transition.Run (deployment F C o₀) h s) :
    Deployed C o₀ h s := by
  rw [deployment_eq L] at hrun
  obtain ⟨htree, hevents, hconv⟩ := Run.deployed hrun
  refine ⟨htree, hevents, hconv.object, ?_⟩
  intro l₁ e t l₂ hcut f hf
  rw [hcut] at hconv
  exact hconv.answer hf

/-- A run of the loop with the answers of the servers, over a connection that loses
    nothing. -/
theorem Run.deployed_bottle {h : List TickRecord} {s : State} (hrun : Run h s)
    (hh : C.answers o₀ (h.flatMap TickRecord.trace) = true) :
    Transition.Run (deployment (bottle Matrix) C o₀) (h.map TickRecord.delivered)
      (s, C.execute o₀ (h.flatMap TickRecord.trace)) := by
  rw [deployment_eq (bottle_lawful Matrix)]
  exact hrun.delivered hh

/-- Servers that accept everything; the state is the list of the motions called for. -/
def recorder : Components (List String) where
  manipulation := {
    grasp := fun o => (true, o)
    isFinished := fun o => (true, o)
    performCartesianAction := fun _ o => (true, o)
    performGraspAction := fun _ o => (true, o)
    performJointSpaceAction := fun actionName o => (true, o ++ [actionName])
    moveHandsToPose := fun _ _ _ o => (true, o)
    moveJointsToPosition := fun _ _ o => (true, o)
    moveObjectToPose := fun _ _ o => (true, o)
    releaseObject := fun o => (true, o)
    stop := id
    shutDown := id }
  gaze := {
    lookAt := fun _ o => (true, o)
    setGain := fun _ o => (true, o) }
  emotions := {
    setEmotion := fun _ o => (true, o)
    availableEmotions := fun o => ([], o) }

/-- An object in reach for two ticks. -/
def recordedTicks : List TickRecord := history [Env.alone.object, Env.alone.object]

theorem deployed_run_recorded :
    Deployed recorder [] (recordedTicks.map TickRecord.delivered)
      (reached [Env.alone.object, Env.alone.object], ["ready", "bottom_grasp"]) :=
  deployed_run (bottle_lawful Matrix)
    ((run_history [Env.alone.object, Env.alone.object]).deployed_bottle (by decide +kernel))

-- ============================================================================
-- The box
-- ============================================================================

theorem sent_eq_motions (h : List TickRecord) :
    sent h = motions (h.flatMap TickRecord.trace) := by
  unfold sent motions
  rw [List.filterMap_flatMap]

/-- Motion commands that are not lost are executed. -/
theorem motions_executed {l : List (Event × Transmission)}
    (hl : ∀ x ∈ l, x.1.motion?.isSome → x.2 ≠ .lost) :
    motions (executed l) = motions (l.map Prod.fst) := by
  induction l with
  | nil => rfl
  | cons x l ih =>
      obtain ⟨e, t⟩ := x
      have hrest := ih fun y hy => hl y (List.mem_cons_of_mem _ hy)
      have hhead := hl (e, t) List.mem_cons_self
      rw [executed_cons, motions_append, hrest, List.map_cons, motions_cons]
      by_cases ht : t = .lost
      · have hno : e.motion? = none := by
          cases hm : e.motion? with
          | none => rfl
          | some x => exact absurd ht (hhead (by rw [hm]; rfl))
        simp [ht, hno]
      · simp [ht]

theorem Phase.Last.of_held {p : Phase} {x : Option Motion} (hlast : p.Last x)
    (hheld : p.hasBox = "yes") : x = some .bottomGrasp ∨ x = some .release := by
  cases p with
  | free | approaching => simp [Phase.hasBox] at hheld
  | grasped | holding => exact Or.inl hlast
  | releasing => exact Or.inr hlast

theorem Phase.Last.held_of_grasp {p : Phase} {x : Motion} (hlast : p.Last (some x))
    (hx : x.actionName = "bottom_grasp") : p.hasBox = "yes" := by
  cases p with
  | free =>
      rcases hlast with h | h | h | ⟨name, hname, h⟩
      · cases h
      · cases h
        exact absurd hx (by decide)
      · cases h
        exact absurd hx (by decide)
      · cases h
        rw [show name = "bottom_grasp" from hx] at hname
        exact absurd hname (by decide)
  | approaching =>
      cases hlast
      exact absurd hx (by decide)
  | grasped | holding | releasing => rfl

/-- A record that the manipulation server keeps of the motions it is called for, and that
    no other call touches. -/
def Components.Records (C : Components σ) (record : σ → List String) : Prop :=
  ∀ e f, C.perform e = some f → ∀ o,
    record (f o).2 = record o ++ (motions [e]).map Motion.actionName

theorem Components.Records.execute {record : σ → List String} (hC : C.Records record)
    (l : List Event) :
    record (C.execute o₀ l) = record o₀ ++ (motions l).map Motion.actionName := by
  induction l generalizing o₀ with
  | nil => simp
  | cons e l ih =>
      rw [← List.singleton_append, C.execute_append, ih, motions_append, List.map_append,
        ← List.append_assoc]
      cases hf : C.perform e with
      | some f => rw [C.execute_remote hf, hC e f hf]
      | none =>
          have hno : motions [e] = [] := by
            cases e with
            | performJointSpaceAction => cases hf
            | _ => rfl
          rw [C.execute_internal hf, hno, List.map_nil, List.append_nil]

/-- As long as no motion command is lost (its answer may be), the manipulation server is
    called for the motions of the tree, each once and in order, and `the_has_box` follows
    its record: it is `yes` only while the last motion is the grasp of `GoGrasp` or the
    release of `DoResponseAction`, and always after a grasp. -/
theorem belief_matches_server (L : F.Lawful) {record : σ → List String} (hC : C.Records record)
    (hstart : record o₀ = []) (hrun : Transition.Run (deployment F C o₀) h s)
    (hlost : ∀ x ∈ conversations h, x.1.motion?.isSome → x.2 ≠ .lost) :
    record s.2 = (sent (h.map DeployedTick.tick)).map Motion.actionName ∧
      (s.1.memory.blackboard.theHasBox = some "yes" →
        (sent (h.map DeployedTick.tick)).getLast? = some .bottomGrasp ∨
          (sent (h.map DeployedTick.tick)).getLast? = some .release) ∧
      ((record s.2).getLast? = some "bottom_grasp" →
        s.1.memory.blackboard.theHasBox = some "yes") := by
  rw [deployment_eq L] at hrun
  obtain ⟨htree, hevents, hconv⟩ := Run.deployed hrun
  have hrecord : record s.2 = (sent (h.map DeployedTick.tick)).map Motion.actionName := by
    rw [hconv.object, hC.execute, hstart, List.nil_append, motions_executed hlost, hevents,
      sent_eq_motions]
  obtain ⟨p, hprotocol, hphase⟩ := Run.protocol htree
  have hlast := last_run hprotocol
  rw [commands_observe] at hlast
  have hbox : s.1.memory.blackboard.theHasBox = some "yes" ↔ p.hasBox = "yes" := by
    rw [hphase.hasBox, Option.some_inj]
  refine ⟨hrecord, fun hyes => hlast.of_held (hbox.mp hyes), ?_⟩
  intro hgrasp
  rw [hrecord, List.getLast?_map] at hgrasp
  cases hx : (sent (h.map DeployedTick.tick)).getLast? with
  | none => simp [hx] at hgrasp
  | some x =>
      rw [hx] at hlast hgrasp
      exact hbox.mpr (hlast.held_of_grasp (Option.some.inj hgrasp))

theorem recorder_records : recorder.Records id := by
  intro e f hf o
  cases e with
  | performJointSpaceAction | isFinished | lookAt | setGain | setEmotion =>
      cases hf
      simp [recorder, Event.motion?]
  | _ => cases hf

/-- An object is grasped and asked for. -/
def releasedTicks : List TickRecord :=
  history [Env.alone.object, Env.alone.object, Env.alone.human "release"]

/-- The box is still believed to be held when the server has been called for the `ready`
    that gives it back. -/
theorem belief_matches_server_recorded :
    (sent ((releasedTicks.map TickRecord.delivered).map DeployedTick.tick)).getLast? =
        some .bottomGrasp ∨
      (sent ((releasedTicks.map TickRecord.delivered).map DeployedTick.tick)).getLast? =
        some .release :=
  (belief_matches_server (bottle_lawful Matrix) recorder_records rfl
    ((run_history [Env.alone.object, Env.alone.object,
      Env.alone.human "release"]).deployed_bottle (by decide +kernel))
    (by decide +kernel)).2.1 (by decide +kernel)

-- ============================================================================
-- The mocks
-- ============================================================================

/-- With the mocks in the place of the components, a call of the tree is answered `true`
    exactly when nothing of it is lost and it is not `setEmotion`. -/
theorem mock_answers (L : F.Lawful) {link : WireLink Unit} (hlink : link.ReceivesOnly)
    {s : State × Unit} (hrun : Transition.Run (deployment F (mockComponents link) ()) h s) :
    ∀ x ∈ conversations h, ∀ answer, x.1.answer? = some answer →
      (answer = true ↔ x.2 = .delivered ∧ ∀ command b, x.1 ≠ .setEmotion command b) := by
  rw [deployment_eq L] at hrun
  obtain ⟨-, -, hconv⟩ := Run.deployed hrun
  rintro ⟨e, t⟩ hx answer hanswer
  obtain ⟨l₁, l₂, hcut⟩ := List.append_of_mem hx
  obtain ⟨f, hf⟩ := Components.perform_of_answer (C := mockComponents link) hanswer
  rw [hcut] at hconv
  have hgot := hconv.answer hf
  rw [hanswer, Option.some_inj, mockComponents_perform hlink hf] at hgot
  rw [hgot]
  cases e <;> simp

/-- A port that only receives. -/
def closedLink : WireLink Unit where
  write _ _ o := (none, o)

/-- The neutral face of somebody who is alone is refused. -/
theorem mock_answers_alone :
    false = true ↔ Transmission.delivered = .delivered ∧
      ∀ command b, Event.setEmotion "neutral" false ≠ .setEmotion command b :=
  mock_answers (bottle_lawful Matrix) (show closedLink.ReceivesOnly from fun _ _ _ => rfl)
    ((run_history [{ Env.alone with setEmotion := false }]).deployed_bottle (by decide +kernel))
    (.setEmotion "neutral" false, .delivered) (by decide +kernel) false rfl

end ErgoCubBehavior
