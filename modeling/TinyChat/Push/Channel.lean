import TinyChat.Lib.Transition
import TinyChat.Message.Queue

/-!
# The push channel of a gateway

A `PushChannel` collects the delivery ids of events that need no further
delivery in an `AckQueue`.  The asynchronous generator `consumer_feedback`
waits for its waiter, walks over the spans of the queue, yields each of them
to the push service and clears the queue.  It is suspended at every `yield`;
the handlers of the channel and `ack_to_rpc` run in between.
-/

namespace TinyChat

namespace Push

/-- The values of a `uint32` field end before this bound. -/
def uint32Bound : Int := 4294967296

/-- Where `consumer_feedback` is.  While it is suspended at a `yield` it has
the node that it has yielded last and the number of steps that are left; the
model remembers what this pass has yielded. -/
inductive Feedback where
  | waiting
  | walking (node : Ref) (remaining : Nat) (yielded : List (Int × Int))
  | exhausted
  | stopped
  deriving DecidableEq

structure PushChannel where
  ackQueue : AckQueue := AckQueue.new
  /-- `ack_waiter.done()`, and likewise for the other waiters. -/
  ackWaiter : Bool := false
  cancelWritingWaiter : Bool := false
  doneWritingWaiter : Bool := false
  ackTriggerHandle : Option Nat := none
  /-- The timers that have been started and have not fired. -/
  armed : List Nat := []
  nextTimer : Nat := 0
  feedback : Feedback := .waiting

/-- What can be observed of a channel.  A `feedback` says which node the
iterator has reached, with its bounds, and whether a `ConsumerFeedback` with
these bounds could be built and was yielded. -/
inductive ChannelEvent where
  | added (deliveryId : Nat)
  | feedback (node : Ref) (start end_ : Int) (sent : Bool)
  | cleared
  | invalidState
  deriving DecidableEq

/-- The steps between two suspension points: the generator wakes up or is
resumed, `ack_to_rpc` handles a log of this channel, a timer fires, a push
handler finds no session for its event, the kick handler confirms its event,
`connect` stops the stream, or the stream drops the generator. -/
inductive ChannelAction where
  | wake
  | resume
  | ackLog (deliveryId : Nat)
  | fire (timer : Nat)
  | offline (deliveryId : Nat)
  | kicked (deliveryId : Nat)
  | cancelWriting
  | dropGenerator
  deriving DecidableEq

namespace PushChannel

def addAck (channel : PushChannel) (deliveryId : Nat) : PushChannel :=
  { channel with ackQueue := channel.ackQueue.add deliveryId }

/-- The body of the loop of `ack_to_rpc` over the logs of a frame. -/
def ackLog (channel : PushChannel) (deliveryId : Nat) : PushChannel :=
  let channel := channel.addAck deliveryId
  match channel.ackTriggerHandle with
  | some _ => channel
  | none =>
      { channel with
        ackTriggerHandle := some channel.nextTimer
        armed := channel.nextTimer :: channel.armed
        nextTimer := channel.nextTimer + 1 }

/-- `ack_cb`. -/
def ackCb (channel : PushChannel) : PushChannel :=
  if channel.ackWaiter then channel
  else { channel with ackWaiter := true }

/-- The end of both branches of `_user_kicked_off_handler`: the waiter is
not tested before its result is set. -/
def confirmKick (channel : PushChannel) (deliveryId : Nat) :
    PushChannel × List ChannelEvent :=
  let channel := channel.addAck deliveryId
  if channel.ackWaiter then (channel, [.added deliveryId, .invalidState])
  else ({ channel with ackWaiter := true }, [.added deliveryId])

/-- The bounds are values of `uint32` fields. -/
def Encodable (start end_ : Int) : Prop :=
  (0 ≤ start ∧ start < uint32Bound) ∧ (0 ≤ end_ ∧ end_ < uint32Bound)

instance (start end_ : Int) : Decidable (Encodable start end_) :=
  inferInstanceAs (Decidable (_ ∧ _))

/-- The iterator hands out a node and the generator yields it; a value that
does not fit a field is an error that ends the generator. -/
def visit (channel : PushChannel) (node : Option Ref) (remaining : Nat)
    (yielded : List (Int × Int)) : PushChannel × List ChannelEvent :=
  match node with
  | none => ({ channel with feedback := .stopped }, [])
  | some ref =>
      let start := (channel.ackQueue.heap ref).start
      let end_ := (channel.ackQueue.heap ref).end_
      if Encodable start end_ then
        ({ channel with
            feedback := .walking ref remaining (yielded ++ [(start, end_)]) },
          [.feedback ref start end_ true])
      else
        ({ channel with feedback := .stopped },
          [.feedback ref start end_ false])

/-- The end of a pass. -/
def endPass (channel : PushChannel) : PushChannel × List ChannelEvent :=
  let channel :=
    { channel with
      ackQueue := channel.ackQueue.clear
      ackTriggerHandle := none }
  if channel.cancelWritingWaiter then
    ({ channel with doneWritingWaiter := true, feedback := .exhausted },
      [.cleared])
  else ({ channel with ackWaiter := false, feedback := .waiting }, [.cleared])

/-- The iterator goes on with `remaining` steps from a node. -/
def iterate (channel : PushChannel) (node : Option Ref)
    (yielded : List (Int × Int)) : Nat → PushChannel × List ChannelEvent
  | 0 => channel.endPass
  | remaining + 1 => channel.visit node remaining yielded

def step : Transition.Step PushChannel ChannelAction ChannelEvent
  | channel, .wake =>
      match channel.feedback with
      | .waiting =>
          if channel.ackWaiter ∨ channel.cancelWritingWaiter then
            let queue := channel.ackQueue
            some (channel.iterate (queue.heap AckQueue.spanRoot).next []
              queue.cnt)
          else none
      | _ => none
  | channel, .resume =>
      match channel.feedback with
      | .walking node remaining yielded =>
          some (channel.iterate (channel.ackQueue.heap node).next yielded
            remaining)
      | _ => none
  | channel, .ackLog deliveryId =>
      some (channel.ackLog deliveryId, [.added deliveryId])
  | channel, .fire timer =>
      if timer ∈ channel.armed then
        some ({ channel with armed := channel.armed.erase timer }.ackCb, [])
      else none
  | channel, .offline deliveryId =>
      some (channel.addAck deliveryId, [.added deliveryId])
  | channel, .kicked deliveryId => some (channel.confirmKick deliveryId)
  | channel, .cancelWriting =>
      some ({ channel with cancelWritingWaiter := true }, [])
  | channel, .dropGenerator =>
      some ({ channel with feedback := .stopped }, [])

end PushChannel

end Push

end TinyChat
