import TinyChat.Gateway.Deliver
import TinyChat.Rmq.Producer
import TinyChat.Worker.PipelineInbox

/-!
# From the sender to the stream

The sessions of the gateways, the instances of the upstream service with
their producers, and the pipeline behind the stream.  A session hands each
of its messages to an instance by a call, which may be lost or answered too
late; the instance publishes the message to the partition of its chat
session, and the broker confirms what it has stored.
-/

namespace TinyChat

namespace Relay

open Transition Auth Gateway Upstream Rmq Worker

/-- A message with the call whose waiter its confirmation resolves. -/
abbrev MessageWrapper := Nat × RStreamMsgData

/-- An instance of the upstream service, and the calls whose messages its
producer was given. -/
structure UpstreamInstance (Stream : Type) where
  servicer : UpstreamTransferServicer := {}
  producer : RMQStreamProducer Stream MessageWrapper
  sent : List Nat := []

namespace UpstreamInstance

variable {Stream : Type} [DecidableEq Stream]

/-- The message of a call is given to the producer. -/
def send (servant : UpstreamInstance Stream) (call : Nat)
    (rsqData : RStreamMsgData) (stream : Stream) (taken : Bool) :
    UpstreamInstance Stream :=
  { servant with
    producer := (servant.producer.send (call, rsqData) stream taken).1
    sent := call :: servant.sent }

/-- The broker has ended a publication. -/
def settle (servant : UpstreamInstance Stream)
    (confirmation : ConfirmationStatus) (key : Stream × Nat) :
    UpstreamInstance Stream :=
  { servant with
    producer := (servant.producer.publishCbWrapper
      confirmation).1.settle key }

/-- The callback of an earlier number of the same frame has raised, so that
nothing is passed on for this one. -/
def miss (servant : UpstreamInstance Stream) (key : Stream × Nat) :
    UpstreamInstance Stream :=
  { servant with producer := servant.producer.settle key }

end UpstreamInstance

/-- `serving` has the call of each session that waits for one, once it has
arrived; an instance that is started again is another one. -/
structure ChatSystem (Stream : Type) where
  readers : Nat → MessageReader := fun _ => {}
  serving : Nat → Option (Nat × Nat) := fun _ => none
  instances : Nat → UpstreamInstance Stream
  replies : List ((Nat × Nat) × DeliverUpMsgReply) := []
  pipeline : Pipeline := {}

/-- What a session or an instance does on its own; the call of a session
arrives; a message is given to `rstream`, which takes it or raises; the
broker stores a publication, and confirms or rejects one, which is passed on
or missed; the call of a session returns; and what happens behind the
stream. -/
inductive ChatAction (Stream : Type) where
  | reader (session : Nat) (action : ReaderAction)
  | deliverMessage (session place call : Nat) (idService : Bool)
  | upstream (place : Nat) (action : UpstreamAction)
  | send (place call : Nat) (taken : Bool)
  | store (place : Nat) (stream : Stream) (publishingId : Nat)
  | confirm (place : Nat) (stream : Stream)
      (confirmation : ConfirmationStatus)
  | miss (place : Nat) (stream : Stream) (publishingId : Nat)
  | delivered (session : Nat) (transport : Transport)
  | pipeline (action : PipelineAction)

inductive ChatEvent where
  | reader (session : Nat) (event : ReaderEvent)
  | upstream (place : Nat) (event : UpstreamEvent)
  deriving DecidableEq

/-- The end of a call is not up to the session. -/
def ownOfReader : ReaderAction → Bool
  | .delivered _ => false
  | _ => true

/-- The requests and the confirmations come to an instance. -/
def ownOfUpstream : UpstreamAction → Bool
  | .deliverMessage .. | .confirm .. => false
  | _ => true

/-- The stream is filled by the broker. -/
def ownOfPipeline : PipelineAction → Bool
  | .publish _ => false
  | _ => true

/-- The key of `bind_route_func`. -/
def routingKey (record : RStreamMsgData) : String :=
  toString record.data.sessionId

/-- The message that a call is about. -/
def recordOf : CallPhase → Option RStreamMsgData
  | .waiting rsqData _ | .flicking rsqData | .publishing rsqData _ =>
      some rsqData
  | .unused | .finished => none

/-- `deliver_message` of the gateway, once its call has ended. -/
def deliverMessage : CallResult DeliverUpMsgReply → Int
  | .success reply => reply.messageId.getD 0
  | .timeout | .failed => 0

/-- The reply of a call. -/
def replyOf (place : Nat) :
    UpstreamEvent → Option ((Nat × Nat) × DeliverUpMsgReply)
  | .replied call _ reply => some ((place, call), reply)
  | _ => none

namespace ChatSystem

variable {Stream : Type}

def setReader (system : ChatSystem Stream) (session : Nat)
    (reader : MessageReader) : ChatSystem Stream :=
  { system with readers := Function.update system.readers session reader }

def setServing (system : ChatSystem Stream) (session : Nat)
    (call : Option (Nat × Nat)) : ChatSystem Stream :=
  { system with serving := Function.update system.serving session call }

def setInstance (system : ChatSystem Stream) (place : Nat)
    (changed : UpstreamInstance Stream) : ChatSystem Stream :=
  { system with
    instances := Function.update system.instances place changed }

/-- An instance runs up to its next suspension point. -/
def serve (system : ChatSystem Stream) (place : Nat)
    (result : UpstreamTransferServicer × List UpstreamEvent) :
    ChatSystem Stream × List ChatEvent :=
  ({ system.setInstance place
      { system.instances place with servicer := result.1 } with
      replies := system.replies ++ result.2.filterMap (replyOf place) },
    result.2.map (.upstream place))

/-- The reply to the call of a session. -/
def reply (system : ChatSystem Stream) (session : Nat) :
    Option DeliverUpMsgReply :=
  (system.serving session).bind (fun call =>
    (system.replies.find? (fun entry => entry.1 = call)).map Prod.snd)

/-- A confirmation is passed on to the call of its message, if the producer
and the servicer still know it. -/
def passOn (system : ChatSystem Stream) (place : Nat) :
    Option (ConfirmationStatus × MessageWrapper) →
      ChatSystem Stream × List ChatEvent
  | none => (system, [])
  | some (confirmation, wrapper) =>
      match UpstreamTransferServicer.step (system.instances place).servicer
          (.confirm wrapper.1 confirmation.isConfirmed) with
      | none => (system, [])
      | some result => system.serve place result

/-- The broker has stored the record. -/
def HasRecord (system : ChatSystem Stream) (record : RStreamMsgData) :
    Prop :=
  ∃ entry ∈ system.pipeline.log, entry.2 = record

instance (system : ChatSystem Stream) (record : RStreamMsgData) :
    Decidable (system.HasRecord record) :=
  inferInstanceAs (Decidable (∃ entry ∈ system.pipeline.log, _))

variable [DecidableEq Stream]

def start (sequences : Nat → Stream → Nat) : ChatSystem Stream where
  instances := fun place =>
    { producer := RMQStreamProducer.start (sequences place) }

def step (formats : Formats) (route : String → Stream) :
    Step (ChatSystem Stream) (ChatAction Stream) ChatEvent
  | system, .reader session action =>
      if ownOfReader action then
        (MessageReader.step formats (system.readers session) action).map
          (fun result => (system.setReader session result.1,
            result.2.map (.reader session)))
      else none
  | system, .deliverMessage session place call idService =>
      match (system.readers session).deliverTask, system.serving session with
      | .calling item, none =>
          (UpstreamTransferServicer.step (system.instances place).servicer
            (.deliverMessage call item.data item.deliveryId idService)).map
            (fun result =>
              let served := system.serve place result
              (served.1.setServing session (some (place, call)), served.2))
      | _, _ => none
  | system, .upstream place action =>
      if ownOfUpstream action then
        (UpstreamTransferServicer.step (system.instances place).servicer
          action).map (system.serve place)
      else none
  | system, .send place call taken =>
      let servant := system.instances place
      match servant.servicer.calls call with
      | .publishing rsqData false =>
          if call ∈ servant.sent then none
          else
            some (system.setInstance place (servant.send call rsqData
              (route (routingKey rsqData)) taken), [])
      | _ => none
  | system, .store place stream publishingId =>
      ((system.instances place).producer.pending stream publishingId).bind
        (fun publication =>
          (Pipeline.step system.pipeline
            (.publish publication.message.2)).map
            (fun result => ({ system with pipeline := result.1 }, [])))
  | system, .confirm place stream confirmation =>
      let servant := system.instances place
      match servant.producer.pending stream confirmation.messageId with
      | none => none
      | some publication =>
          if confirmation.isConfirmed = true →
              system.HasRecord publication.message.2 then
            some ((system.setInstance place
              (servant.settle confirmation publication.key)).passOn place
                (servant.producer.publishCbWrapper confirmation).2)
          else none
  | system, .miss place stream publishingId =>
      ((system.instances place).producer.pending stream publishingId).map
        (fun publication => (system.setInstance place
          ((system.instances place).miss publication.key), []))
  | system, .delivered session transport =>
      (MessageReader.step formats (system.readers session)
        (.delivered (deliverMessage
          (transport.carry (system.reply session))))).map
        (fun result =>
          ((system.setReader session result.1).setServing session none,
            result.2.map (.reader session)))
  | system, .pipeline action =>
      if ownOfPipeline action then
        (Pipeline.step system.pipeline action).map
          (fun result => ({ system with pipeline := result.1 }, []))
      else none

/-- The dead-letter queue takes what falls back to it, and a message gets a
publishing id under which no message of another partition still waits. -/
def Sound (route : String → Stream) (system : ChatSystem Stream) :
    ChatAction Stream → Prop
  | .pipeline action => Pipeline.Sound system.pipeline action
  | .send place call taken =>
      ∀ rsqData ∈ recordOf ((system.instances place).servicer.calls call),
        RMQStreamProducer.NumbersApart (system.instances place).producer
          (.send (call, rsqData) (route (routingKey rsqData)) taken)
  | _ => True

instance (producer : RMQStreamProducer Stream MessageWrapper)
    (action : ProducerAction Stream MessageWrapper) :
    Decidable (RMQStreamProducer.NumbersApart producer action) := by
  unfold RMQStreamProducer.NumbersApart
  cases action with
  | _ => infer_instance

instance (route : String → Stream) (system : ChatSystem Stream)
    (action : ChatAction Stream) :
    Decidable (Sound route system action) := by
  unfold Sound
  cases action with
  | _ => infer_instance

end ChatSystem

end Relay

end TinyChat
