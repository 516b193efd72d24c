import Mathlib.Logic.Function.Basic
import TinyChat.Lib.Transition
import TinyChat.Message.Sender

/-!
# The upstream transfer service

`DeliverMessage` numbers a message and publishes it to the stream.  A tracer
is meant to remember what is being published, so that a repeated call for
the same message does not publish it again.  The calls of one servicer
interleave at their suspension points; each section between two of them is
one step.  The clock counts nanoseconds.
-/

namespace TinyChat

namespace Upstream

open Transition

inductive PublishState where
  | inflight
  | success
  | failure
  deriving DecidableEq

/-- What the tracer knows of a message; `event` tells whether its event is
set. -/
structure MessageMetadata where
  messageId : Int
  timestamp : Nat
  state : PublishState := .inflight
  event : Bool := false

/-- For how long a success is remembered. -/
def validity : Nat := 30 * 1000000000

namespace MessageMetadata

def isValid (metadata : MessageMetadata) (now : Nat) : Bool :=
  metadata.state = .success ∧ metadata.timestamp ≤ now ∧
    now - metadata.timestamp < validity

def reset (metadata : MessageMetadata) (messageId : Int) (now : Nat) :
    MessageMetadata :=
  { metadata with
    messageId := messageId
    timestamp := now
    state := .inflight
    event := false }

end MessageMetadata

/-- The sender and the delivery id of a message. -/
abbrev MessageKey := Int × Int

def messageKey (rsqData : RStreamMsgData) : MessageKey :=
  (rsqData.data.senderId, rsqData.deliveryId)

/-- The result of `conflict_check` if it does not have to wait, or else
whether the event for which it waits is set. -/
inductive Conflict where
  | result (messageId : Int)
  | wait (event : Bool)

/-- The cache of the tracer. -/
structure MessageTracer where
  cache : MessageKey → Option MessageMetadata := fun _ => none

namespace MessageTracer

/-- The metadata of a message that is not in the cache yet is created, and
dropped. -/
def onPublishStart (tracer : MessageTracer) (rsqData : RStreamMsgData)
    (now : Nat) : MessageTracer :=
  match tracer.cache (messageKey rsqData) with
  | none => tracer
  | some metadata =>
      { tracer with
        cache := Function.update tracer.cache (messageKey rsqData)
          (some (metadata.reset rsqData.messageId now)) }

/-- The end of a publish that is in the cache; `none` is a `KeyError`. -/
def finish (tracer : MessageTracer) (rsqData : RStreamMsgData)
    (state : PublishState) : Option MessageTracer :=
  (tracer.cache (messageKey rsqData)).map (fun metadata =>
    { tracer with
      cache := Function.update tracer.cache (messageKey rsqData)
        (some { metadata with state := state, event := true }) })

/-- `on_publish_succee`, to which nobody refers. -/
def onPublishSuccee (tracer : MessageTracer) (rsqData : RStreamMsgData) :
    Option MessageTracer :=
  tracer.finish rsqData .success

/-- `on_publish_success`, inherited from `MessageTracerBase`. -/
def onPublishSuccess (tracer : MessageTracer) (_ : RStreamMsgData) :
    MessageTracer :=
  tracer

def onPublishFailure (tracer : MessageTracer) (rsqData : RStreamMsgData) :
    Option MessageTracer :=
  tracer.finish rsqData .failure

/-- `conflict_check` up to its suspension point. -/
def conflictCheck (tracer : MessageTracer) (rsqData : RStreamMsgData)
    (now : Nat) : Conflict :=
  match tracer.cache (messageKey rsqData) with
  | none => .result 0
  | some metadata =>
      if metadata.isValid now then .result metadata.messageId
      else if metadata.state = .inflight then .wait metadata.event
      else .result 0

/-- `conflict_check` once the event of the metadata was set. -/
def recheck (tracer : MessageTracer) (rsqData : RStreamMsgData)
    (now : Nat) : Int :=
  match tracer.cache (messageKey rsqData) with
  | none => 0
  | some metadata =>
      if metadata.isValid now then metadata.messageId else 0

end MessageTracer

inductive DeliveryStatus where
  | success
  | timeout
  | failed
  deriving DecidableEq

structure DeliverUpMsgReply where
  code : DeliveryStatus := .success
  messageId : Option Int := none
  deriving DecidableEq

/-- Where a call of `DeliverMessage` is suspended: it waits for the event of
a publish of its message, which may have been set, for the id service, or
for the confirmation of its own publish, which may have arrived. -/
inductive CallPhase where
  | unused
  | waiting (rsqData : RStreamMsgData) (woken : Bool)
  | flicking (rsqData : RStreamMsgData)
  | publishing (rsqData : RStreamMsgData) (confirmed : Bool)
  | finished

/-- How the call to the id service ends. -/
inductive FlickResult where
  | success (snowflakeId : Int)
  | timeout
  | failed

/-- How a publish ends: the broker confirms or rejects it, or `send`
raises. -/
inductive PublishOutcome where
  | confirmed
  | rejected
  | raised
  deriving DecidableEq

/-- The servicer with its calls, and what the broker has of it: the publish
of each call that has not ended, and the last confirmation of each key. -/
structure UpstreamTransferServicer where
  tracer : MessageTracer := {}
  calls : Nat → CallPhase := fun _ => .unused
  closing : Bool := false
  now : Nat := 0
  inFlight : Nat → Option RStreamMsgData := fun _ => none
  confirmedAt : MessageKey → Option Nat := fun _ => none

inductive UpstreamAction where
  | deliverMessage (call : Nat) (data : MsgData) (deliveryId : Int)
      (idService : Bool)
  | eventSet (call : Nat) (idService : Bool)
  | eventTimeout (call : Nat)
  | flicked (call : Nat) (result : FlickResult)
  | sendRaises (call : Nat)
  | confirm (call : Nat) (success : Bool)
  | confirmed (call : Nat)
  | confirmTimeout (call : Nat)
  | cancel (call : Nat)
  | elapse (duration : Nat)
  | close

/-- The events carry the time at which they happen. -/
inductive UpstreamEvent where
  | checked (call : Nat) (key : MessageKey) (now : Nat)
  | publishStarted (call : Nat) (rsqData : RStreamMsgData) (now : Nat)
  | publishEnded (call : Nat) (rsqData : RStreamMsgData)
      (outcome : PublishOutcome) (now : Nat)
  | replied (call : Nat) (key : MessageKey) (reply : DeliverUpMsgReply)
  deriving DecidableEq

/-- The event of a message is set. -/
def CallPhase.wake (key : MessageKey) : CallPhase → CallPhase
  | .waiting rsqData woken =>
      .waiting rsqData (woken ∨ messageKey rsqData = key)
  | phase => phase

namespace UpstreamTransferServicer

def withCall (servicer : UpstreamTransferServicer) (call : Nat)
    (phase : CallPhase) : UpstreamTransferServicer :=
  { servicer with calls := Function.update servicer.calls call phase }

/-- A call returns. -/
def answer (servicer : UpstreamTransferServicer) (call : Nat)
    (rsqData : RStreamMsgData) (reply : DeliverUpMsgReply) :
    UpstreamTransferServicer × List UpstreamEvent :=
  (servicer.withCall call .finished,
    [.replied call (messageKey rsqData) reply])

/-- `DeliverMessage` once `conflict_check` has returned. -/
def proceed (servicer : UpstreamTransferServicer) (call : Nat)
    (rsqData : RStreamMsgData) (messageId : Int) (idService : Bool) :
    UpstreamTransferServicer × List UpstreamEvent :=
  if messageId = 0 then
    if idService then (servicer.withCall call (.flicking rsqData), [])
    else servicer.answer call rsqData { code := .failed }
  else if messageId > 0 then
    servicer.answer call rsqData { messageId := some messageId }
  else servicer.answer call rsqData { code := .timeout }

/-- `publish_message` up to its suspension point. -/
def publishMessage (servicer : UpstreamTransferServicer) (call : Nat)
    (rsqData : RStreamMsgData) :
    UpstreamTransferServicer × List UpstreamEvent :=
  if servicer.closing then
    servicer.answer call rsqData { code := .timeout }
  else
    ({ servicer.withCall call (.publishing rsqData false) with
        tracer := servicer.tracer.onPublishStart rsqData servicer.now
        inFlight := Function.update servicer.inFlight call (some rsqData) },
      [.publishStarted call rsqData servicer.now])

/-- The publish of a call is over. -/
def settle (servicer : UpstreamTransferServicer) (call : Nat) :
    UpstreamTransferServicer :=
  { servicer with
    inFlight := Function.update servicer.inFlight call none }

/-- The waiter of a call that still waits for it is resolved. -/
def resolve (servicer : UpstreamTransferServicer) (call : Nat) :
    UpstreamTransferServicer :=
  match servicer.calls call with
  | .publishing rsqData _ =>
      servicer.withCall call (.publishing rsqData true)
  | _ => servicer

/-- A callback of the tracer has ended: it sets the event of the message,
or it raises and leaves everything as it is. -/
def traced (servicer : UpstreamTransferServicer) (rsqData : RStreamMsgData) :
    Option MessageTracer → UpstreamTransferServicer
  | none => servicer
  | some tracer =>
      { servicer with
        tracer := tracer
        calls := fun call =>
          (servicer.calls call).wake (messageKey rsqData) }

/-- `publish_confirm_cb`. -/
def publishConfirmCb (servicer : UpstreamTransferServicer) (call : Nat)
    (rsqData : RStreamMsgData) (success : Bool) :
    UpstreamTransferServicer × List UpstreamEvent :=
  let settled := servicer.settle call
  if success then
    ({ settled.resolve call with
        tracer := servicer.tracer.onPublishSuccess rsqData
        confirmedAt := Function.update servicer.confirmedAt
          (messageKey rsqData) (some servicer.now) },
      [.publishEnded call rsqData .confirmed servicer.now])
  else
    (settled.traced rsqData (servicer.tracer.onPublishFailure rsqData),
      [.publishEnded call rsqData .rejected servicer.now])

def start : UpstreamTransferServicer := {}

def step : Step UpstreamTransferServicer UpstreamAction UpstreamEvent
  | servicer, .deliverMessage call data deliveryId idService =>
      match servicer.calls call with
      | .unused =>
          let rsqData : RStreamMsgData :=
            { data := data, deliveryId := deliveryId }
          let checked : UpstreamEvent :=
            .checked call (messageKey rsqData) servicer.now
          match servicer.tracer.conflictCheck rsqData servicer.now with
          | .wait event =>
              some (servicer.withCall call (.waiting rsqData event),
                [checked])
          | .result messageId =>
              let next := servicer.proceed call rsqData messageId idService
              some (next.1, checked :: next.2)
      | _ => none
  | servicer, .eventSet call idService =>
      match servicer.calls call with
      | .waiting rsqData true =>
          let next := servicer.proceed call rsqData
            (servicer.tracer.recheck rsqData servicer.now) idService
          some (next.1,
            .checked call (messageKey rsqData) servicer.now :: next.2)
      | _ => none
  | servicer, .eventTimeout call =>
      match servicer.calls call with
      | .waiting rsqData false =>
          some (servicer.proceed call rsqData (-1) true)
      | _ => none
  | servicer, .flicked call result =>
      match servicer.calls call with
      | .flicking rsqData =>
          match result with
          | .success snowflakeId => some (servicer.publishMessage call
              { rsqData with messageId := snowflakeId })
          | .timeout =>
              some (servicer.answer call rsqData { code := .timeout })
          | .failed =>
              some (servicer.answer call rsqData { code := .failed })
      | _ => none
  | servicer, .sendRaises call =>
      match servicer.calls call, servicer.inFlight call with
      | .publishing _ false, some rsqData =>
          let next := (servicer.settle call).answer call rsqData
            { code := .timeout }
          some (next.1,
            .publishEnded call rsqData .raised servicer.now :: next.2)
      | _, _ => none
  | servicer, .confirm call success =>
      (servicer.inFlight call).map
        (fun rsqData => servicer.publishConfirmCb call rsqData success)
  | servicer, .confirmed call =>
      match servicer.calls call with
      | .publishing rsqData true => some (servicer.answer call rsqData
          { messageId := some rsqData.messageId })
      | _ => none
  | servicer, .confirmTimeout call =>
      match servicer.calls call with
      | .publishing rsqData false =>
          some (servicer.answer call rsqData { code := .timeout })
      | _ => none
  | servicer, .cancel call =>
      match servicer.calls call with
      | .unused => none
      | .finished => none
      | _ => some (servicer.withCall call .finished, [])
  | servicer, .elapse duration =>
      some ({ servicer with now := servicer.now + duration }, [])
  | servicer, .close => some ({ servicer with closing := true }, [])

end UpstreamTransferServicer

end Upstream

end TinyChat
