import TinyChat.Push.Collector
import TinyChat.Worker.Outbox

/-!
# The read model and the dead letters

The downstream service writes an event of the read model to the inbox of the
receiver and then pushes the message to the gateway of the receiver, with a
queue of the push service as the fallback.  It does so for a call and for an
event from a queue, which it acknowledges or rejects.  The worker of the
dead-letter queue repeats what the outbox worker could not do.  All of these
are functions of how the calls end that they make.
-/

namespace TinyChat

namespace Downstream

open Worker

/-- What the handlers find around them; `redis_hlen` yields nothing if it
does not succeed. -/
structure Surroundings where
  cassMessageServiceGetter : Option (CassMsgRequest → CallEnd)
  redisHlen : Int → Option Nat
  pushServiceGetter : String → Option (Int → ServerMsgData → CallEnd)
  sendToPush : Int → ServerMsgData → Bool

inductive Effect where
  | inboxWritten (request : CassMsgRequest)
  | pushed (addressId : Int) (message : ServerMsgData)
  | offline (addressId : Int) (message : ServerMsgData)
  | pushQueued (addressId : Int) (message : ServerMsgData)
  deriving DecidableEq

/-- What becomes of a message of a queue; nothing if its task is ended by an
exception. -/
inductive Settlement where
  | acked
  | rejected
  | unsettled
  deriving DecidableEq

/-- A queue takes its message back after a failure. -/
def Settlement.ofEnd : CallEnd → Settlement
  | .returned true => .acked
  | .returned false => .rejected
  | .raised => .unsettled

/-- The second call is awaited only if the first one succeeds. -/
def Settlement.ofBoth : CallEnd → CallEnd → Settlement
  | .returned true, second => ofEnd second
  | first, _ => ofEnd first

/-- What `handle_inbox` asks the storage to write. -/
def inboxRequest (event : ReadModelEvent) : CassMsgRequest where
  messageData := event.message.data
  messageId := event.message.messageId
  deliveryId := event.deliveryId

def pushKey (message : ServerMsgData) : String :=
  toString message.data.sessionId

namespace Surroundings

variable (around : Surroundings)

def handleInbox (event : ReadModelEvent) : CallEnd × List Effect :=
  match around.cassMessageServiceGetter with
  | none => (.returned false, [])
  | some writeToInbox =>
      match writeToInbox (inboxRequest event) with
      | .raised => (.raised, [])
      | .returned true =>
          (.returned true, [.inboxWritten (inboxRequest event)])
      | .returned false => (.returned false, [])

def userOnlineCheck (uid : Int) : Option Bool :=
  (around.redisHlen uid).map (fun data => 0 < data)

def pushToGateway (addressId : Int) (message : ServerMsgData) :
    CallEnd × List Effect :=
  match around.pushServiceGetter (pushKey message) with
  | none => (.returned false, [])
  | some pushData =>
      match pushData addressId message with
      | .raised => (.raised, [])
      | .returned true => (.returned true, [.pushed addressId message])
      | .returned false => (.returned false, [])

def pushMessage (addressId : Int) (message : ServerMsgData) :
    CallEnd × List Effect :=
  if around.sendToPush addressId message then
    (.returned true, [.pushQueued addressId message])
  else (.returned false, [])

def readyToPush (addressId : Int) (message : ServerMsgData) :
    CallEnd × List Effect :=
  match around.userOnlineCheck addressId with
  | some true =>
      match around.pushToGateway addressId message with
      | (.returned false, _) => around.pushMessage addressId message
      | ended => ended
  | some false => (.returned true, [.offline addressId message])
  | none => around.pushMessage addressId message

/-- The inbox first, then the push. -/
def handleEvent (event : ReadModelEvent) : CallEnd × List Effect :=
  match around.handleInbox event with
  | (.returned true, written) =>
      let pushed := around.readyToPush event.message.data.receiverId
        event.message
      (pushed.1, written ++ pushed.2)
  | ended => ended

/-- `DeliverReadEvent`; it returns whether the status is a success. -/
def deliverReadEvent (event : ReadModelEvent) : CallEnd × List Effect :=
  if event.evtTp = .singleChat then around.handleEvent event
  else (.returned false, [])

/-- `consume_event` of the downstream service. -/
def consumeEvent (event : ReadModelEvent) : List Effect × Settlement :=
  let handled := around.handleEvent event
  (handled.2, .ofEnd handled.1)

end Surroundings

/-- `PushServicer.consume_event`, by the status of its handler. -/
def consumePush (addressId : Int) (message : ServerMsgData) :
    Push.PubStatus → List Effect × Settlement
  | .success => ([.pushed addressId message], .acked)
  | .offline => ([.offline addressId message], .acked)
  | .timeout | .failed => ([], .rejected)

end Downstream

namespace Worker

namespace Surroundings

variable (around : Surroundings)

/-- `DLQWorker.event_handler`.  For both halves the write to the session runs
as a task of its own, which goes on if the notification fails. -/
def eventHandler (entry : DLQMsgData) :
    List Effect × Downstream.Settlement :=
  let written := around.writeToSession (sessionRequest entry.data)
    (hashKey entry.data)
  let notified := around.notifyReadModel (readModelEvent entry.data)
    (hashKey entry.data)
  match entry.action with
  | .inboxOnly => (notified.2, .ofEnd notified.1)
  | .sessionOnly => (written.2, .ofEnd written.1)
  | .all =>
      (written.2 ++ notified.2, .ofBoth notified.1 written.1)

end Surroundings

end Worker

end TinyChat
