import TinyChat.Relay.System

/-!
# What the parts of the chat system can do

A session hands over only what it has received, and acknowledges a message
only with the id that its call returned.  An instance publishes the message
of the request, and names an id only once the waiter of its own publish is
resolved.
-/

namespace TinyChat

namespace Relay

open Transition Gateway Upstream Rmq

/-! ## Sessions -/

section

variable {formats : Formats} {reader next : MessageReader}
  {events : List ReaderEvent}

/-- What a session does on its own. -/
structure OwnReading (formats : Formats) (reader next : MessageReader)
    (events : List ReaderEvent) : Prop where
  pending : ∀ item ∈ next.pendingDeliver, item ∈ reader.pendingDeliver ∨
    ∃ bytes, .received bytes ∈ events ∧
      MessageReader.messageOf formats bytes = some item
  task : next.deliverTask = reader.deliverTask ∨
    next.deliverTask = .ended ∨
    reader.deliverTask = .waiting ∧
      ∃ item ∈ reader.pendingDeliver, next.deliverTask = .calling item
  silent : ∀ item ack, .acknowledged item ack ∉ events

theorem ownReading_same (pending : next.pendingDeliver =
      reader.pendingDeliver)
    (task : next.deliverTask = reader.deliverTask)
    (silent : ∀ item ack, .acknowledged item ack ∉ events) :
    OwnReading formats reader next events where
  pending := fun _ member => .inl (pending ▸ member)
  task := .inl task
  silent := silent

theorem ownReading_stop (silent : ∀ item ack,
      .acknowledged item ack ∉ events) :
    OwnReading formats reader reader.stop events := by
  unfold MessageReader.stop
  split
  · exact ownReading_same rfl rfl silent
  · exact ⟨fun _ member => .inl member, .inr (.inl rfl), silent⟩

theorem ownReading_receive {bytes : Bytes}
    (stepped : MessageReader.step formats reader (.receive bytes) =
      some (next, events)) : OwnReading formats reader next events := by
  simp only [MessageReader.step] at stepped
  split at stepped
  · split at stepped
    · cases stepped
      exact ownReading_stop (by simp)
    · rename_i frame parsed
      simp only [MessageReader.onFrame] at stepped
      split at stepped
      · rename_i message
        split at stepped
        · cases stepped
          exact ownReading_stop (by simp)
        · rename_i item decoded
          cases stepped
          refine ⟨?_, .inl rfl, by simp⟩
          intro other member
          rcases List.mem_append.mp member with earlier | new
          · exact .inl earlier
          · refine .inr ⟨bytes, List.mem_cons_self, ?_⟩
            rw [List.mem_singleton.mp new]
            simp [MessageReader.messageOf, parsed, message, decoded]
      · split at stepped
        · cases stepped
          exact ownReading_stop (by simp)
        · cases stepped
          exact ownReading_same rfl rfl (by simp)
      · cases stepped
        exact ownReading_same rfl rfl (by simp)
  · cases stepped

theorem ownReading_step {action : ReaderAction}
    (own : ownOfReader action = true)
    (stepped : MessageReader.step formats reader action =
      some (next, events)) : OwnReading formats reader next events := by
  cases action with
  | receive bytes => exact ownReading_receive stepped
  | disconnect =>
      simp only [MessageReader.step] at stepped
      split at stepped
      · cases stepped
        exact ownReading_stop (by simp)
      · cases stepped
  | deliver service =>
      simp only [MessageReader.step] at stepped
      split at stepped
      · rename_i item items waiting queued
        have kept : ∀ other ∈ items, other ∈ reader.pendingDeliver := by
          intro other member
          rw [queued]
          exact List.mem_cons_of_mem _ member
        cases service with
        | true =>
            cases stepped
            refine ⟨fun other member => .inl (kept other member), ?_,
              by simp⟩
            refine .inr (.inr ⟨waiting, item, ?_, rfl⟩)
            rw [queued]
            exact List.mem_cons_self
        | false =>
            cases stepped
            exact ⟨fun other member => .inl (kept other member),
              .inr (.inl rfl), by simp⟩
      · cases stepped
  | delivered messageId => cases own
  | deliverRaises =>
      simp only [MessageReader.step] at stepped
      split at stepped
      · cases stepped
        exact ⟨fun _ member => .inl member, .inr (.inl rfl), by simp⟩
      · cases stepped
  | write =>
      simp only [MessageReader.step] at stepped
      split at stepped
      · cases stepped
      · cases stepped
        exact ownReading_same rfl rfl (by simp)

/-- A session goes on after its call, and acknowledges the message with the
id that the call returned. -/
structure Delivered (reader next : MessageReader) (messageId : Int)
    (events : List ReaderEvent) : Prop where
  pending : next.pendingDeliver = reader.pendingDeliver
  task : ∀ item, next.deliverTask ≠ .calling item
  received : ∀ bytes, .received bytes ∉ events
  acknowledged : ∀ item ack, .acknowledged item ack ∈ events →
    reader.deliverTask = .calling item ∧ messageId ≠ 0 ∧
      (ack.messageId : Int) = messageId

theorem delivered_step {messageId : Int}
    (stepped : MessageReader.step formats reader (.delivered messageId) =
      some (next, events)) : Delivered reader next messageId events := by
  simp only [MessageReader.step] at stepped
  split at stepped
  · rename_i item calling
    cases cancelled : reader.cancelled with
    | true =>
        rw [cancelled] at stepped
        cases stepped
        exact ⟨rfl, by simp, by simp, by simp⟩
    | false =>
        rw [cancelled] at stepped
        simp only [MessageReader.onDelivered, Option.some.injEq,
          Bool.false_eq_true, if_false] at stepped
        split at stepped
        · cases stepped
          exact ⟨rfl, by simp, by simp, by simp⟩
        · rename_i nonzero
          split at stepped
          · cases stepped
            exact ⟨rfl, by simp, by simp, by simp⟩
          · rename_i ack built
            split at stepped
            · cases stepped
              refine ⟨rfl, by simp, by simp, ?_⟩
              intro other sent member
              cases List.mem_singleton.mp member
              refine ⟨calling, nonzero, ?_⟩
              unfold userMessageAck at built
              split at built
              · rename_i bounds
                cases built
                exact Int.toNat_of_nonneg bounds.2.1
              · cases built
            · cases stepped
              exact ⟨rfl, by simp, by simp, by simp⟩
  · cases stepped

end

/-! ## The upstream service -/

section

variable {servicer next : UpstreamTransferServicer}
  {events : List UpstreamEvent}

open UpstreamTransferServicer

/-- What an instance does on its own: a call ends, or its message is
numbered and published; and only a call whose publish was confirmed returns
an id. -/
structure OwnServing (servicer next : UpstreamTransferServicer)
    (events : List UpstreamEvent) : Prop where
  untraced : Untraced next
  calls : ∀ call, next.calls call = servicer.calls call ∨
    servicer.calls call ≠ .unused ∧ next.calls call = .finished ∨
    ∃ rsqData snowflakeId now, servicer.calls call = .flicking rsqData ∧
      next.calls call =
        .publishing { rsqData with messageId := snowflakeId } false ∧
      .publishStarted call { rsqData with messageId := snowflakeId } now ∈
        events
  replied : ∀ call key reply, .replied call key reply ∈ events →
    servicer.calls call ≠ .unused ∧
      ∀ messageId, reply.messageId = some messageId →
        ∃ rsqData, servicer.calls call = .publishing rsqData true ∧
          rsqData.messageId = messageId

theorem withCall_calls_eq (servicer : UpstreamTransferServicer)
    (call other : Nat) (phase : CallPhase) :
    (servicer.withCall call phase).calls other =
      if other = call then phase else servicer.calls other := by
  simp only [UpstreamTransferServicer.withCall, Function.update_apply]

/-- A call returns a reply that names an id only if its own publish was
confirmed. -/
theorem ownServing_answer (untraced : Untraced servicer) {call : Nat}
    {rsqData : RStreamMsgData} {reply : DeliverUpMsgReply}
    (used : servicer.calls call ≠ .unused)
    (named : ∀ messageId, reply.messageId = some messageId →
      ∃ published, servicer.calls call = .publishing published true ∧
        published.messageId = messageId)
    (answered : servicer.answer call rsqData reply = (next, events)) :
    OwnServing servicer next events := by
  have moved : Moved servicer (.cancel call) next events :=
    answer_moved used answered
  have still := untraced.step moved
  cases answered
  refine ⟨still, ?_, ?_⟩
  · intro other
    rw [withCall_calls_eq]
    by_cases same : other = call
    · subst same
      exact .inr (.inl ⟨used, if_pos rfl⟩)
    · exact .inl (if_neg same)
  · intro other key given member
    cases List.mem_singleton.mp member
    exact ⟨used, named⟩

theorem ownServing_quiet (untraced : Untraced next)
    (same : next.calls = servicer.calls) :
    OwnServing servicer next [] where
  untraced := untraced
  calls := fun call => .inl (congrFun same call)
  replied := fun _ _ _ member => absurd member List.not_mem_nil

theorem ownServing_flicked (untraced : Untraced servicer) {call : Nat}
    {rsqData : RStreamMsgData} {result : FlickResult}
    (flicking : servicer.calls call = .flicking rsqData)
    (stepped : UpstreamTransferServicer.step servicer
      (.flicked call result) = some (next, events)) :
    OwnServing servicer next events := by
  have used : servicer.calls call ≠ .unused := by
    rw [flicking]
    exact CallPhase.noConfusion
  have still := untraced.step (untraced.moved stepped)
  simp only [UpstreamTransferServicer.step, flicking] at stepped
  cases result with
  | success snowflakeId =>
      simp only [UpstreamTransferServicer.publishMessage,
        Option.some.injEq] at stepped
      split at stepped
      · exact ownServing_answer untraced used (by simp) stepped
      · cases stepped
        refine ⟨still, ?_, by simp⟩
        intro other
        by_cases same : other = call
        · subst same
          refine .inr (.inr ⟨rsqData, snowflakeId, _, flicking, ?_,
            List.mem_cons_self⟩)
          exact Function.update_self ..
        · exact .inl (Function.update_of_ne same _ _)
  | timeout =>
      exact ownServing_answer untraced used (by simp)
        (Option.some.inj stepped)
  | failed =>
      exact ownServing_answer untraced used (by simp)
        (Option.some.inj stepped)

theorem ownServing_step (untraced : Untraced servicer)
    {action : UpstreamAction} (own : ownOfUpstream action = true)
    (stepped : UpstreamTransferServicer.step servicer action =
      some (next, events)) : OwnServing servicer next events := by
  have still := untraced.step (untraced.moved stepped)
  cases action with
  | deliverMessage call data deliveryId idService => cases own
  | confirm call success => cases own
  | eventSet call idService =>
      simp only [UpstreamTransferServicer.step] at stepped
      split at stepped
      · rename_i waiting
        exact absurd waiting (untraced.awake _ _ _)
      · cases stepped
  | eventTimeout call =>
      simp only [UpstreamTransferServicer.step] at stepped
      split at stepped
      · rename_i waiting
        exact absurd waiting (untraced.awake _ _ _)
      · cases stepped
  | flicked call result =>
      cases phase : servicer.calls call with
      | flicking rsqData => exact ownServing_flicked untraced phase stepped
      | unused => simp [UpstreamTransferServicer.step, phase] at stepped
      | waiting rsqData woken =>
          simp [UpstreamTransferServicer.step, phase] at stepped
      | publishing rsqData confirmed =>
          simp [UpstreamTransferServicer.step, phase] at stepped
      | finished => simp [UpstreamTransferServicer.step, phase] at stepped
  | sendRaises call =>
      simp only [UpstreamTransferServicer.step] at stepped
      split at stepped
      · rename_i phase inFlight
        have used : servicer.calls call ≠ .unused := by
          rw [phase]
          exact CallPhase.noConfusion
        cases stepped
        refine ⟨still, ?_, ?_⟩
        · intro other
          by_cases same : other = call
          · subst same
            exact .inr (.inl ⟨used, Function.update_self ..⟩)
          · exact .inl (Function.update_of_ne same _ _)
        · intro other key given member
          rcases List.mem_cons.mp member with first | later
          · cases first
          · cases List.mem_singleton.mp later
            exact ⟨used, by simp⟩
      · cases stepped
  | confirmed call =>
      simp only [UpstreamTransferServicer.step] at stepped
      split at stepped
      · rename_i rsqData phase
        have used : servicer.calls call ≠ .unused := by
          rw [phase]
          exact CallPhase.noConfusion
        apply ownServing_answer untraced used ?_ (Option.some.inj stepped)
        intro messageId named
        exact ⟨rsqData, phase, Option.some.inj named⟩
      · cases stepped
  | confirmTimeout call =>
      simp only [UpstreamTransferServicer.step] at stepped
      split at stepped
      · rename_i phase
        have used : servicer.calls call ≠ .unused := by
          rw [phase]
          exact CallPhase.noConfusion
        exact ownServing_answer untraced used (by simp)
          (Option.some.inj stepped)
      · cases stepped
  | cancel call =>
      simp only [UpstreamTransferServicer.step] at stepped
      split at stepped
      · cases stepped
      · cases stepped
      · rename_i used _
        cases stepped
        refine ⟨still, ?_, by simp⟩
        intro other
        rw [withCall_calls_eq]
        by_cases same : other = call
        · subst same
          exact .inr (.inl ⟨used, if_pos rfl⟩)
        · exact .inl (if_neg same)
  | elapse duration =>
      cases stepped
      exact ownServing_quiet still rfl
  | close =>
      cases stepped
      exact ownServing_quiet still rfl

/-- A request is taken up under a number that was not used, and named no id
yet. -/
structure RequestTaken (servicer next : UpstreamTransferServicer) (call : Nat)
    (data : MsgData) (deliveryId : Int) (events : List UpstreamEvent) :
    Prop where
  untraced : Untraced next
  unused : servicer.calls call = .unused
  calls : ∃ phase, next.calls = Function.update servicer.calls call phase ∧
    (phase = .finished ∨
      phase = .flicking { data := data, deliveryId := deliveryId })
  replied : ∀ other key reply, .replied other key reply ∈ events →
    other = call ∧ reply.messageId = none

theorem requested_step (untraced : Untraced servicer) {call : Nat}
    {data : MsgData} {deliveryId : Int} {idService : Bool}
    (stepped : UpstreamTransferServicer.step servicer
      (.deliverMessage call data deliveryId idService) =
        some (next, events)) :
    RequestTaken servicer next call data deliveryId events := by
  have still := untraced.step (untraced.moved stepped)
  simp only [UpstreamTransferServicer.step, untraced.conflictCheck_eq,
    UpstreamTransferServicer.proceed] at stepped
  split at stepped
  · rename_i unused
    cases idService with
    | true =>
        cases stepped
        exact ⟨still, unused, ⟨_, rfl, .inr rfl⟩, by simp⟩
    | false =>
        cases stepped
        refine ⟨still, unused, ⟨_, rfl, .inl rfl⟩, ?_⟩
        intro other key reply member
        rcases List.mem_cons.mp member with first | later
        · cases first
        · cases List.mem_singleton.mp later
          exact ⟨rfl, rfl⟩
  · cases stepped

/-- A confirmation resolves the waiter of its call, if that still waits, and
nothing is returned. -/
structure ConfirmationTaken (servicer next : UpstreamTransferServicer)
    (call : Nat) (success : Bool) (events : List UpstreamEvent) :
    Prop where
  untraced : Untraced next
  calls : ∀ other, next.calls other = servicer.calls other ∨
    other = call ∧ success = true ∧ ∃ rsqData confirmed,
      servicer.calls call = .publishing rsqData confirmed ∧
      next.calls call = .publishing rsqData true
  replied : ∀ other key reply, .replied other key reply ∉ events

theorem confirmed_step (untraced : Untraced servicer) {call : Nat}
    {success : Bool}
    (stepped : UpstreamTransferServicer.step servicer
      (.confirm call success) = some (next, events)) :
    ConfirmationTaken servicer next call success events := by
  have still := untraced.step (untraced.moved stepped)
  obtain ⟨rsqData, inFlight, result⟩ := Option.map_eq_some_iff.mp stepped
  cases success with
  | true =>
      cases result
      refine ⟨still, ?_, by simp⟩
      intro other
      simp only [UpstreamTransferServicer.resolve]
      split
      · rename_i published confirmed phase
        by_cases same : other = call
        · subst same
          exact .inr ⟨rfl, trivial, published, confirmed, phase,
            Function.update_self ..⟩
        · exact .inl (Function.update_of_ne same _ _)
      · exact .inl rfl
  | false =>
      simp only [UpstreamTransferServicer.publishConfirmCb,
        Bool.false_eq_true, if_false, untraced.onPublishFailure_eq] at result
      cases result
      exact ⟨still, fun _ => .inl rfl, by simp⟩

end

end Relay

end TinyChat
