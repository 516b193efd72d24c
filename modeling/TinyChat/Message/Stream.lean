import TinyChat.Lib.Pairing
import TinyChat.Lib.Transition
import TinyChat.Message.Sender

/-!
# The sending side of a message stream

Every message that is written waits for its acknowledgement under its id, and
a timer hands it to the timeout handler if the acknowledgement does not come.
A message that has an id already is written again under this id.
-/

namespace TinyChat

/-- The timers of a sender, with the callbacks that the event loop has
scheduled and has neither run nor dropped. -/
structure Expiry where
  timers : Table Nat Nat := []
  scheduled : Table Nat Nat := []
  nextHandle : Nat := 0

namespace Expiry

/-- `start_expire_timer`. -/
def startExpireTimer (expiry : Expiry) (deliveryId : Nat) : Expiry where
  timers := expiry.timers.assign deliveryId expiry.nextHandle
  scheduled := expiry.scheduled.assign expiry.nextHandle deliveryId
  nextHandle := expiry.nextHandle + 1

/-- `timers.pop(delivery_id, None)`, and the timer is cancelled. -/
def cancelTimer (expiry : Expiry) (deliveryId : Nat) : Expiry :=
  match expiry.timers.lookup deliveryId with
  | none => expiry
  | some handle =>
      { expiry with
        timers := expiry.timers.pop deliveryId
        scheduled := expiry.scheduled.pop handle }

end Expiry

structure MessageStream where
  sender : MessageSender := {}
  expiry : Expiry := {}

/-- A write with the message as it is stored, an acknowledgement, a call of
the timeout handler with what it is given, and the exceptions of a write and
of a timer. -/
inductive StreamReport where
  | written (fresh : Bool) (deliveryId : Nat) (message : OutboundMessageLog)
  | acked (deliveryId : Nat)
  | timedOut (deliveryId : Nat) (message : Option OutboundMessageLog)
  | notUnique
  | keyError

/-- A message is written, an id is drawn for somebody else's message, an
acknowledgement arrives, or the event loop runs a callback. -/
inductive StreamCall where
  | write (message : OutboundMessageLog)
  | borrowVirtualLocalId
  | onAcked (deliveryId : Nat)
  | fire (handle : Nat)

namespace MessageStream

/-- `write`, which raises if the message waits already. -/
def write (stream : MessageStream) (message : OutboundMessageLog) :
    MessageStream × List StreamReport :=
  match message.deliveryId with
  | none =>
      let drawn := stream.sender.write message
      ({ sender := drawn.2
         expiry := stream.expiry.startExpireTimer drawn.1 },
        [.written true drawn.1 { message with deliveryId := some drawn.1 }])
  | some deliveryId =>
      if (stream.sender.waiters.lookup deliveryId).isSome then
        (stream, [.notUnique])
      else
        ({ sender :=
            { stream.sender with
              waiters := Table.assign stream.sender.waiters deliveryId
                message }
           expiry := stream.expiry.startExpireTimer deliveryId },
          [.written false deliveryId message])

/-- `waiters.pop(delivery_id, None)`. -/
def popWaiter (stream : MessageStream) (deliveryId : Nat) : MessageStream :=
  { stream with
    sender :=
      { stream.sender with
        waiters := Table.pop stream.sender.waiters deliveryId } }

def onAcked (stream : MessageStream) (deliveryId : Nat) : MessageStream :=
  let popped := stream.popWaiter deliveryId
  { popped with expiry := popped.expiry.cancelTimer deliveryId }

/-- `on_timeout`, as a callback that the event loop has taken out; the handler
returns and does not use the stream. -/
def onTimeout (stream : MessageStream) (deliveryId : Nat) :
    MessageStream × List StreamReport :=
  let popped := stream.popWaiter deliveryId
  let message := stream.sender.waiters.lookup deliveryId
  match popped.expiry.timers.lookup deliveryId with
  | none => (popped, [.timedOut deliveryId message, .keyError])
  | some _ =>
      ({ popped with
          expiry :=
            { popped.expiry with
              timers := popped.expiry.timers.pop deliveryId } },
        [.timedOut deliveryId message])

/-- The event loop takes out the callback and runs it. -/
def fire (stream : MessageStream) (handle deliveryId : Nat) :
    MessageStream × List StreamReport :=
  { stream with
    expiry :=
      { stream.expiry with
        scheduled := stream.expiry.scheduled.pop handle } }.onTimeout
    deliveryId

def step : Transition.Step MessageStream StreamCall StreamReport
  | stream, .write message => some (stream.write message)
  | stream, .borrowVirtualLocalId =>
      some ({ stream with
        sender := stream.sender.borrowVirtualLocalId.2 }, [])
  | stream, .onAcked deliveryId =>
      some (stream.onAcked deliveryId, [.acked deliveryId])
  | stream, .fire handle =>
      match stream.expiry.scheduled.lookup handle with
      | none => none
      | some deliveryId => some (stream.fire handle deliveryId)

/-- The counter does not wrap, and a message is written again under an id
that this sender has drawn. -/
def BeforeWrap (stream : MessageStream) : StreamCall → Prop
  | .write message =>
      match message.deliveryId with
      | none => stream.sender.deliveryId + 1 < maxInt64
      | some deliveryId => deliveryId ≤ stream.sender.deliveryId
  | .borrowVirtualLocalId => stream.sender.deliveryId + 1 < maxInt64
  | _ => True

instance (stream : MessageStream) :
    (call : StreamCall) → Decidable (stream.BeforeWrap call)
  | .write ⟨_, _, _, none⟩ =>
      inferInstanceAs (Decidable (stream.sender.deliveryId + 1 < maxInt64))
  | .write ⟨_, _, _, some deliveryId⟩ =>
      inferInstanceAs (Decidable (deliveryId ≤ stream.sender.deliveryId))
  | .borrowVirtualLocalId =>
      inferInstanceAs (Decidable (stream.sender.deliveryId + 1 < maxInt64))
  | .onAcked _ | .fire _ => .isTrue trivial

variable {stream : MessageStream} {message : OutboundMessageLog}

theorem lookup_write (sender : MessageSender) (message : OutboundMessageLog)
    (other : Nat) :
    (sender.write message).2.waiters.lookup other =
      if other = (sender.write message).1 then
        some { message with deliveryId := some (sender.write message).1 }
      else sender.waiters.lookup other := by
  change List.lookup other
    (((sender.write message).1, _) :: sender.waiters) = _
  rw [List.lookup_cons]
  by_cases same : other = (sender.write message).1
  · rw [if_pos same, same, beq_self_eq_true]
    rfl
  · rw [if_neg same, beq_eq_false_iff_ne.mpr same]

theorem write_of_waiting {deliveryId : Nat}
    (sent : message.deliveryId = some deliveryId)
    (waits : (stream.sender.waiters.lookup deliveryId).isSome = true) :
    stream.write message = (stream, [.notUnique]) := by
  simp only [write, sent, if_pos waits]

theorem write_of_free {deliveryId : Nat}
    (sent : message.deliveryId = some deliveryId)
    (free : ¬ (stream.sender.waiters.lookup deliveryId).isSome = true) :
    stream.write message =
      ({ sender :=
          { stream.sender with
            waiters := Table.assign stream.sender.waiters deliveryId
              message }
         expiry := stream.expiry.startExpireTimer deliveryId },
        [.written false deliveryId message]) := by
  simp only [write, sent, if_neg free]

theorem fire_waiters (stream : MessageStream) (handle deliveryId : Nat) :
    (stream.fire handle deliveryId).1.sender.waiters =
      Table.pop stream.sender.waiters deliveryId := by
  unfold fire onTimeout
  dsimp only
  split <;> rfl

end MessageStream

end TinyChat
