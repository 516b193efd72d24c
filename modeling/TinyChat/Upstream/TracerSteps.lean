import TinyChat.Upstream.Tracer

/-!
# What a step of the upstream service does

The cache of the tracer stays empty, because nothing enters a message into
it.  So a call never waits for another one, and it publishes the message of
its own request.
-/

namespace TinyChat

namespace Upstream

namespace UpstreamTransferServicer

open Transition

/-- The cache is empty, and nobody waits for a message in it. -/
structure Untraced (servicer : UpstreamTransferServicer) : Prop where
  empty : ∀ key, servicer.tracer.cache key = none
  awake : ∀ call rsqData woken,
    servicer.calls call ≠ .waiting rsqData woken

/-- What a step can do while the cache is empty. -/
inductive Moved (servicer : UpstreamTransferServicer) :
    UpstreamAction → UpstreamTransferServicer → List UpstreamEvent → Prop
    where
  | begun (call : Nat) (data : MsgData) (deliveryId : Int) :
      servicer.calls call = .unused →
      Moved servicer (.deliverMessage call data deliveryId true)
        (servicer.withCall call
          (.flicking { data := data, deliveryId := deliveryId }))
        [.checked call (data.senderId, deliveryId) servicer.now]
  | refused (call : Nat) (data : MsgData) (deliveryId : Int)
      (reply : DeliverUpMsgReply) :
      servicer.calls call = .unused →
      Moved servicer (.deliverMessage call data deliveryId false)
        (servicer.withCall call .finished)
        [.checked call (data.senderId, deliveryId) servicer.now,
          .replied call (data.senderId, deliveryId) reply]
  | published {action : UpstreamAction} (call : Nat)
      (rsqData : RStreamMsgData) (snowflakeId : Int) :
      servicer.calls call = .flicking rsqData →
      Moved servicer action
        { servicer.withCall call (.publishing
            { rsqData with messageId := snowflakeId } false) with
          inFlight := Function.update servicer.inFlight call
            (some { rsqData with messageId := snowflakeId }) }
        [.publishStarted call { rsqData with messageId := snowflakeId }
          servicer.now]
  | answered {action : UpstreamAction} (call : Nat)
      (replies : List UpstreamEvent) :
      servicer.calls call ≠ .unused →
      (∀ event ∈ replies, ∃ key reply, event = .replied call key reply) →
      Moved servicer action (servicer.withCall call .finished) replies
  | raised {action : UpstreamAction} (call : Nat)
      (rsqData : RStreamMsgData) (key : MessageKey)
      (reply : DeliverUpMsgReply) :
      servicer.calls call ≠ .unused →
      servicer.inFlight call = some rsqData →
      Moved servicer action ((servicer.settle call).withCall call .finished)
        [.publishEnded call rsqData .raised servicer.now,
          .replied call key reply]
  | confirmed {action : UpstreamAction} (call : Nat)
      (rsqData : RStreamMsgData) :
      servicer.inFlight call = some rsqData →
      Moved servicer action
        { (servicer.settle call).resolve call with
          tracer := servicer.tracer
          confirmedAt := Function.update servicer.confirmedAt
            (messageKey rsqData) (some servicer.now) }
        [.publishEnded call rsqData .confirmed servicer.now]
  | rejected {action : UpstreamAction} (call : Nat)
      (rsqData : RStreamMsgData) :
      servicer.inFlight call = some rsqData →
      Moved servicer action (servicer.settle call)
        [.publishEnded call rsqData .rejected servicer.now]
  | elapsed {action : UpstreamAction} (closing : Bool) (now : Nat) :
      servicer.now ≤ now →
      Moved servicer action
        { servicer with closing := closing, now := now } []

section

variable {servicer next : UpstreamTransferServicer}
  {action : UpstreamAction} {trace events : List UpstreamEvent}

theorem Untraced.conflictCheck_eq (untraced : Untraced servicer)
    (rsqData : RStreamMsgData) (now : Nat) :
    servicer.tracer.conflictCheck rsqData now = .result 0 := by
  simp only [MessageTracer.conflictCheck, untraced.empty]

theorem Untraced.onPublishStart_eq (untraced : Untraced servicer)
    (rsqData : RStreamMsgData) (now : Nat) :
    servicer.tracer.onPublishStart rsqData now = servicer.tracer := by
  simp only [MessageTracer.onPublishStart, untraced.empty]

theorem Untraced.onPublishFailure_eq (untraced : Untraced servicer)
    (rsqData : RStreamMsgData) :
    servicer.tracer.onPublishFailure rsqData = none := by
  simp only [MessageTracer.onPublishFailure, MessageTracer.finish,
    untraced.empty, Option.map_none]

theorem answer_moved {call : Nat} {rsqData : RStreamMsgData}
    {reply : DeliverUpMsgReply} (used : servicer.calls call ≠ .unused)
    (answered : servicer.answer call rsqData reply = (next, events)) :
    Moved servicer action next events := by
  cases answered
  refine .answered call _ used ?_
  intro event member
  exact ⟨_, _, List.mem_singleton.mp member⟩

theorem Untraced.flicked_moved (untraced : Untraced servicer) {call : Nat}
    {rsqData : RStreamMsgData} {result : FlickResult}
    (flicking : servicer.calls call = .flicking rsqData)
    (stepped : step servicer (.flicked call result) =
      some (next, events)) :
    Moved servicer action next events := by
  have used : servicer.calls call ≠ .unused := by
    rw [flicking]
    exact CallPhase.noConfusion
  simp only [step, flicking] at stepped
  cases result with
  | success snowflakeId =>
      simp only [publishMessage, Option.some.injEq] at stepped
      split at stepped
      · exact answer_moved used stepped
      · rw [untraced.onPublishStart_eq] at stepped
        cases stepped
        exact .published call rsqData snowflakeId flicking
  | timeout => exact answer_moved used (Option.some.inj stepped)
  | failed => exact answer_moved used (Option.some.inj stepped)

theorem Untraced.moved (untraced : Untraced servicer)
    (stepped : step servicer action = some (next, events)) :
    Moved servicer action next events := by
  cases action with
  | deliverMessage call data deliveryId idService =>
      simp only [step, untraced.conflictCheck_eq] at stepped
      split at stepped
      · rename_i unused
        cases idService with
        | true =>
            cases stepped
            exact .begun call data deliveryId unused
        | false =>
            cases stepped
            exact .refused call data deliveryId _ unused
      · cases stepped
  | eventSet call idService =>
      simp only [step] at stepped
      split at stepped
      · rename_i waiting
        exact absurd waiting (untraced.awake _ _ _)
      · cases stepped
  | eventTimeout call =>
      simp only [step] at stepped
      split at stepped
      · rename_i waiting
        exact absurd waiting (untraced.awake _ _ _)
      · cases stepped
  | flicked call result =>
      cases phase : servicer.calls call with
      | flicking rsqData => exact untraced.flicked_moved phase stepped
      | unused => simp [step, phase] at stepped
      | waiting rsqData woken => simp [step, phase] at stepped
      | publishing rsqData confirmed => simp [step, phase] at stepped
      | finished => simp [step, phase] at stepped
  | sendRaises call =>
      simp only [step] at stepped
      split at stepped
      · rename_i phase inFlight
        cases stepped
        refine .raised call _ _ _ ?_ inFlight
        rw [phase]
        exact CallPhase.noConfusion
      · cases stepped
  | confirm call success =>
      obtain ⟨rsqData, inFlight, result⟩ :=
        Option.map_eq_some_iff.mp stepped
      cases success with
      | true =>
          cases result
          exact .confirmed call rsqData inFlight
      | false =>
          simp only [publishConfirmCb, Bool.false_eq_true, if_false,
            untraced.onPublishFailure_eq] at result
          cases result
          exact .rejected call rsqData inFlight
  | confirmed call =>
      simp only [step] at stepped
      split at stepped
      · rename_i phase
        refine answer_moved ?_ (Option.some.inj stepped)
        rw [phase]
        exact CallPhase.noConfusion
      · cases stepped
  | confirmTimeout call =>
      simp only [step] at stepped
      split at stepped
      · rename_i phase
        refine answer_moved ?_ (Option.some.inj stepped)
        rw [phase]
        exact CallPhase.noConfusion
      · cases stepped
  | cancel call =>
      simp only [step] at stepped
      split at stepped
      · cases stepped
      · cases stepped
      · rename_i used _
        cases stepped
        exact .answered call [] used (by simp)
  | elapse duration =>
      cases stepped
      exact .elapsed servicer.closing _ (Nat.le_add_right _ _)
  | close =>
      cases stepped
      exact .elapsed true servicer.now (Nat.le_refl _)

theorem withCall_calls {call other : Nat} {changed phase : CallPhase}
    (found : (servicer.withCall call changed).calls other = phase)
    (different : changed ≠ phase) :
    other ≠ call ∧ servicer.calls other = phase := by
  by_cases same : other = call
  · subst same
    simp only [withCall, Function.update_self] at found
    exact absurd found different
  · simp only [withCall, Function.update_of_ne same] at found
    exact ⟨same, found⟩

/-- Only the phase of a call that publishes changes when its waiter is
resolved. -/
theorem resolve_calls {call other : Nat} {phase : CallPhase}
    (found : (servicer.resolve call).calls other = phase)
    (unpublished : ∀ rsqData confirmed,
      .publishing rsqData confirmed ≠ phase) :
    servicer.calls other = phase := by
  unfold resolve at found
  split at found
  · exact (withCall_calls found (unpublished _ _)).2
  · exact found

theorem resolve_inFlight (call : Nat) :
    (servicer.resolve call).inFlight = servicer.inFlight := by
  unfold resolve
  split <;> rfl

theorem resolve_now (servicer : UpstreamTransferServicer) (call : Nat) :
    (servicer.resolve call).now = servicer.now := by
  unfold resolve
  split <;> rfl

theorem settle_inFlight {call other : Nat} {rsqData : RStreamMsgData}
    (found : (servicer.settle call).inFlight other = some rsqData) :
    other ≠ call ∧ servicer.inFlight other = some rsqData := by
  by_cases same : other = call
  · subst same
    simp [settle] at found
  · simp only [settle, Function.update_of_ne same] at found
    exact ⟨same, found⟩

theorem Untraced.step (untraced : Untraced servicer)
    (moved : Moved servicer action next events) : Untraced next := by
  refine ⟨?_, ?_⟩
  · cases moved <;> exact untraced.empty
  · intro other rsqData woken found
    cases moved with
    | begun call data deliveryId unused =>
        have before := withCall_calls found CallPhase.noConfusion
        exact untraced.awake _ _ _ before.2
    | refused call data deliveryId reply unused =>
        have before := withCall_calls found CallPhase.noConfusion
        exact untraced.awake _ _ _ before.2
    | published call flicked snowflakeId flicking =>
        have before := withCall_calls found CallPhase.noConfusion
        exact untraced.awake _ _ _ before.2
    | answered call replies used replied =>
        have before := withCall_calls found CallPhase.noConfusion
        exact untraced.awake _ _ _ before.2
    | raised call ended key reply used inFlight =>
        have before := withCall_calls found CallPhase.noConfusion
        exact untraced.awake _ _ _ before.2
    | confirmed call ended inFlight =>
        have before := resolve_calls found
          (fun _ _ => CallPhase.noConfusion)
        exact untraced.awake _ _ _ before
    | rejected call ended inFlight => exact untraced.awake _ _ _ found
    | elapsed closing now later => exact untraced.awake _ _ _ found

theorem untraced_start : Untraced start where
  empty := fun _ => rfl
  awake := fun _ _ _ => CallPhase.noConfusion

/-- Only such requests are made. -/
def Requests (permitted : Nat → MsgData → Int → Prop)
    (_ : UpstreamTransferServicer) : UpstreamAction → Prop
  | .deliverMessage call data deliveryId _ => permitted call data deliveryId
  | _ => True

/-- The call has, and has published, the message of its request. -/
structure Requested (permitted : Nat → MsgData → Int → Prop)
    (trace : List UpstreamEvent) (servicer : UpstreamTransferServicer) :
    Prop where
  untraced : Untraced servicer
  flicking : ∀ call rsqData, servicer.calls call = .flicking rsqData →
    permitted call rsqData.data rsqData.deliveryId
  published : ∀ call rsqData now,
    .publishStarted call rsqData now ∈ trace →
    permitted call rsqData.data rsqData.deliveryId

theorem Requested.step {permitted : Nat → MsgData → Int → Prop}
    (requested : Requested permitted trace servicer)
    (allowed : Requests permitted servicer action)
    (stepped : UpstreamTransferServicer.step servicer action =
      some (next, events)) :
    Requested permitted (trace ++ events) next := by
  have moved := requested.untraced.moved stepped
  refine ⟨requested.untraced.step moved, ?_, ?_⟩
  · intro call rsqData phase
    cases moved with
    | begun begun data deliveryId unused =>
        by_cases same : call = begun
        · subst same
          simp only [withCall, Function.update_self] at phase
          cases phase
          exact allowed
        · simp only [withCall, Function.update_of_ne same] at phase
          exact requested.flicking call rsqData phase
    | refused refused data deliveryId reply unused =>
        exact requested.flicking call rsqData
          (withCall_calls phase CallPhase.noConfusion).2
    | published publisher flicked snowflakeId flicking =>
        exact requested.flicking call rsqData
          (withCall_calls phase CallPhase.noConfusion).2
    | answered answered replies used replied =>
        exact requested.flicking call rsqData
          (withCall_calls phase CallPhase.noConfusion).2
    | raised raised ended key reply used inFlight =>
        have before := withCall_calls phase CallPhase.noConfusion
        exact requested.flicking call rsqData before.2
    | confirmed confirmed ended inFlight =>
        have before := resolve_calls phase
          (fun _ _ => CallPhase.noConfusion)
        exact requested.flicking call rsqData before
    | rejected rejected ended inFlight =>
        exact requested.flicking call rsqData phase
    | elapsed closing now later =>
        exact requested.flicking call rsqData phase
  · intro call rsqData now member
    rcases List.mem_append.mp member with earlier | new
    · exact requested.published call rsqData now earlier
    · cases moved with
      | begun begun data deliveryId unused =>
          cases List.mem_singleton.mp new
      | refused refused data deliveryId reply unused => simp at new
      | published publisher flicked snowflakeId flicking =>
          cases List.mem_singleton.mp new
          exact requested.flicking call flicked flicking
      | answered answered replies used replied =>
          obtain ⟨key, reply, same⟩ := replied _ new
          cases same
      | raised raised ended key reply used inFlight => simp at new
      | confirmed confirmed ended inFlight =>
          cases List.mem_singleton.mp new
      | rejected rejected ended inFlight =>
          cases List.mem_singleton.mp new
      | elapsed closing now later => cases new

theorem published_requested {permitted : Nat → MsgData → Int → Prop}
    (run : Run UpstreamTransferServicer.step (Requests permitted) start
      trace servicer) {call : Nat} {rsqData : RStreamMsgData} {now : Nat}
    (published : .publishStarted call rsqData now ∈ trace) :
    permitted call rsqData.data rsqData.deliveryId := by
  have requested : Requested permitted trace servicer := by
    refine run.invariant ⟨untraced_start, ?_, ?_⟩ ?_
    · intro call rsqData phase
      cases phase
    · intro call rsqData now member
      cases member
    · intro trace events state next action requested allowed stepped
      exact requested.step allowed stepped
  exact requested.published call rsqData now published

end

end UpstreamTransferServicer

end Upstream

end TinyChat
