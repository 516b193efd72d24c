import TinyChat.Lib.Transition
import TinyChat.Push.Delivery

/-!
# The collector of a push service

The `EventCollector` has an `EventChannel` for every gateway address that has
subscribed.  A handler publishes its event to the channels of all gateways of
a user and waits until they have confirmed it or its deadline passes.  The
handlers, the tasks that publish, the streams and the callbacks of the
waiters interleave.
-/

namespace TinyChat

namespace Push

open Transition

inductive PubStatus where
  | success
  | timeout
  | failed
  | offline
  deriving DecidableEq

/-- An `EventChannel` with the results of its waiters and the waiters whose
callback has still to run.  A waiter that is done without a result was
cancelled. -/
structure GatewayChannel where
  channel : EventChannel := {}
  status : Nat → Option PubStatus := fun _ => none
  callbacks : List Nat := []

namespace GatewayChannel

def queueMaxsize : Nat := 1024

def publish (gateway : GatewayChannel) (event : PushEvent) :
    GatewayChannel :=
  { gateway with channel := gateway.channel.publish event }

/-- The `put` of an event returns when there is room in the queue; the
events that wait for room are behind it. -/
def Blocked (gateway : GatewayChannel) (position : Nat) : Prop :=
  position ∈ gateway.channel.queue.drop queueMaxsize

instance (gateway : GatewayChannel) (position : Nat) :
    Decidable (gateway.Blocked position) :=
  inferInstanceAs (Decidable (position ∈ _))

/-- `on_delivery`, with the waiters that it resolves. -/
def onDelivery (gateway : GatewayChannel) (status : PubStatus)
    (start end_ : Int) : GatewayChannel × List Nat :=
  let result := gateway.channel.onDelivery start end_
  ({ channel := result.1
     status := fun position =>
       if position ∈ result.2 then some status else gateway.status position
     callbacks := gateway.callbacks ++ result.2 }, result.2)

/-- A handler gives up a waiter: it sets a result, or cancels it. -/
def giveUp (gateway : GatewayChannel) (position : Nat)
    (status : Option PubStatus) : GatewayChannel :=
  if gateway.channel.done position then gateway
  else
    { channel := gateway.channel.giveUp position
      status := Function.update gateway.status position status
      callbacks := gateway.callbacks ++ [position] }

def callback (gateway : GatewayChannel) (position : Nat) : GatewayChannel :=
  { gateway with
    channel := gateway.channel.forget position
    callbacks := gateway.callbacks.filter (fun other => other ≠ position) }

/-- The stream of the gateway takes the next event. -/
def dispatch (gateway : GatewayChannel) : GatewayChannel :=
  { gateway with
    channel :=
      { gateway.channel with queue := gateway.channel.queue.tail } }

/-- The id of the next event. -/
def nextId (gateway : GatewayChannel) : Nat :=
  (gateway.channel.deliveryId + 1) % maxInt32

end GatewayChannel

/-- What can happen to the channel of a gateway. -/
inductive GatewayAction where
  | publish (event : PushEvent)
  | onDelivery (status : PubStatus) (start end_ : Nat)
  | giveUp (position : Nat) (status : Option PubStatus)
  | callback (position : Nat)
  | dispatch

/-- The waiters that `on_delivery` resolves are reported. -/
def GatewayChannel.step : Step GatewayChannel GatewayAction Nat
  | gateway, .publish event => some (gateway.publish event, [])
  | gateway, .onDelivery status start end_ =>
      some (gateway.onDelivery status start end_)
  | gateway, .giveUp position status =>
      some (gateway.giveUp position status, [])
  | gateway, .callback position =>
      if position ∈ gateway.callbacks then
        some (gateway.callback position, [])
      else none
  | gateway, .dispatch => some (gateway.dispatch, [])

/-- What `redis_hgetall` returns: the values of the hash are the addresses of
the gateways of the devices. -/
inductive HashReply (Addr : Type) where
  | success (values : List Addr)
  | timeout
  | failed

/-- A waiter, named by its gateway and the position of its event there. -/
abbrev Waiter (Addr : Type) := Addr × Nat

/-- Where a handler is.  While it sends, it has the addresses whose task has
not run yet and the waiters of those that have; tasks that were created
before an exception run nevertheless. -/
inductive HandlerPhase (Addr : Type) where
  | unused
  | sending (single : Bool) (unsent : List Addr)
      (waiters : List (Waiter Addr))
  | waiting (single : Bool) (waiters : List (Waiter Addr))
  | returned (status : PubStatus)
  | raised (unsent : List Addr)

structure PushServicer (Addr : Type) where
  channels : Addr → Option GatewayChannel := fun _ => none
  handlers : Nat → HandlerPhase Addr := fun _ => .unused

/-- A gateway subscribes; a handler begins with the answer of Redis, and
with the distinct addresses in the order in which the set yields them; a
task publishes; all tasks of a handler have ended; all waiters of a handler
are done; its deadline passes; an event leaves on the stream of a gateway; a
feedback arrives; a callback runs. -/
inductive ServicerAction (Addr : Type) where
  | subscribe (addr : Addr)
  | handle (handler : Nat) (event : PushEvent) (reply : HashReply Addr)
      (addrs : List Addr)
  | publish (handler : Nat) (event : PushEvent) (addr : Addr)
  | sent (handler : Nat)
  | wake (handler : Nat)
  | deadline (handler : Nat)
  | dispatch (addr : Addr)
  | feedback (addr : Addr) (status : PubStatus) (start end_ : Nat)
  | callback (addr : Addr) (position : Nat)

inductive ServicerEvent (Addr : Type) where
  | started (handler : Nat) (addrs : List Addr)
  | published (handler : Nat) (addr : Addr) (position : Nat)
  | feedback (addr : Addr) (status : PubStatus) (start end_ : Nat)
  | deadline (handler : Nat)
  | returned (handler : Nat) (status : PubStatus)
  | raised (handler : Nat)
  deriving DecidableEq

namespace PushServicer

variable {Addr : Type} [DecidableEq Addr]

def withHandler (servicer : PushServicer Addr) (handler : Nat)
    (phase : HandlerPhase Addr) : PushServicer Addr :=
  { servicer with
    handlers := Function.update servicer.handlers handler phase }

def withChannel (servicer : PushServicer Addr) (addr : Addr)
    (gateway : GatewayChannel) : PushServicer Addr :=
  { servicer with
    channels := Function.update servicer.channels addr (some gateway) }

/-- The waiter is done. -/
def done (servicer : PushServicer Addr) (waiter : Waiter Addr) : Bool :=
  match servicer.channels waiter.1 with
  | none => false
  | some gateway => gateway.channel.done waiter.2

/-- The result of the waiter is `PUSH_SUCCESS`. -/
def succeeded (servicer : PushServicer Addr) (waiter : Waiter Addr) : Bool :=
  match servicer.channels waiter.1 with
  | none => false
  | some gateway => gateway.status waiter.2 = some .success

/-- The `put` of the event of the waiter has not returned. -/
def blocked (servicer : PushServicer Addr) (waiter : Waiter Addr) : Bool :=
  match servicer.channels waiter.1 with
  | none => false
  | some gateway => gateway.Blocked waiter.2

/-- Publish to a gateway that has subscribed. -/
def publishTo (servicer : PushServicer Addr) (event : PushEvent)
    (addr : Addr) (gateway : GatewayChannel) :
    PushServicer Addr × Waiter Addr :=
  (servicer.withChannel addr (gateway.publish event),
    (addr, gateway.channel.events.length))

def finish (servicer : PushServicer Addr) (handler : Nat)
    (status : PubStatus) : PushServicer Addr × List (ServicerEvent Addr) :=
  (servicer.withHandler handler (.returned status),
    [.returned handler status])

/-- The addresses before the first one that has not subscribed. -/
def subscribed (servicer : PushServicer Addr) (addrs : List Addr) :
    List Addr :=
  addrs.takeWhile (fun addr => (servicer.channels addr).isSome)

/-- A handler whose Redis query has returned addresses. -/
def send (servicer : PushServicer Addr) (handler : Nat) (event : PushEvent) :
    List Addr → PushServicer Addr × List (ServicerEvent Addr)
  | [] => servicer.finish handler .offline
  | [addr] =>
      match servicer.channels addr with
      | none => (servicer.withHandler handler (.raised []),
          [.raised handler])
      | some gateway =>
          let published := servicer.publishTo event addr gateway
          (published.1.withHandler handler
              (.sending true [] [published.2]),
            [.published handler addr published.2.2])
  | addrs =>
      if servicer.subscribed addrs = addrs then
        (servicer.withHandler handler (.sending false addrs []), [])
      else
        (servicer.withHandler handler
            (.raised (servicer.subscribed addrs)), [.raised handler])

/-- The result of a handler whose waiters are done. -/
def outcome (servicer : PushServicer Addr) (single : Bool)
    (waiters : List (Waiter Addr)) : PubStatus :=
  if single then
    match waiters with
    | [] => .failed
    | waiter :: _ =>
        match servicer.channels waiter.1 with
        | none => .failed
        | some gateway => (gateway.status waiter.2).getD .failed
  else if waiters.all servicer.succeeded then .success
  else .failed

/-- The waiters that are pending when the deadline passes. -/
def giveUpAll (servicer : PushServicer Addr) (status : Option PubStatus) :
    List (Waiter Addr) → PushServicer Addr
  | [] => servicer
  | waiter :: waiters =>
      match servicer.channels waiter.1 with
      | none => servicer.giveUpAll status waiters
      | some gateway =>
          (servicer.withChannel waiter.1
            (gateway.giveUp waiter.2 status)).giveUpAll status waiters

def step : Step (PushServicer Addr) (ServicerAction Addr)
    (ServicerEvent Addr)
  | servicer, .subscribe addr =>
      match servicer.channels addr with
      | some _ => some (servicer, [])
      | none => some (servicer.withChannel addr {}, [])
  | servicer, .handle handler event reply addrs =>
      match servicer.handlers handler, reply with
      | .unused, .success values =>
          if addrs.Nodup ∧ (∀ addr ∈ addrs, addr ∈ values) ∧
              ∀ addr ∈ values, addr ∈ addrs then
            let next := servicer.send handler event addrs
            some (next.1, .started handler addrs :: next.2)
          else none
      | .unused, .timeout => some (servicer.finish handler .timeout)
      | .unused, .failed => some (servicer.finish handler .failed)
      | _, _ => none
  | servicer, .publish handler event addr =>
      match servicer.handlers handler, servicer.channels addr with
      | .sending single unsent waiters, some gateway =>
          if addr ∈ unsent then
            let published := servicer.publishTo event addr gateway
            some (published.1.withHandler handler
                (.sending single (unsent.erase addr)
                  (waiters ++ [published.2])),
              [.published handler addr published.2.2])
          else none
      | .raised unsent, some gateway =>
          if addr ∈ unsent then
            let published := servicer.publishTo event addr gateway
            some (published.1.withHandler handler
                (.raised (unsent.erase addr)),
              [.published handler addr published.2.2])
          else none
      | _, _ => none
  | servicer, .sent handler =>
      match servicer.handlers handler with
      | .sending single [] waiters =>
          if waiters.any servicer.blocked then none
          else some (servicer.withHandler handler
            (.waiting single waiters), [])
      | _ => none
  | servicer, .wake handler =>
      match servicer.handlers handler with
      | .waiting single waiters =>
          if waiters.all servicer.done then
            some (servicer.finish handler
              (servicer.outcome single waiters))
          else none
      | _ => none
  | servicer, .deadline handler =>
      match servicer.handlers handler with
      | .sending _ _ _ => some (servicer, [.deadline handler])
      | .waiting single waiters =>
          if waiters.all servicer.done then
            let next := servicer.finish handler
              (servicer.outcome single waiters)
            some (next.1, .deadline handler :: next.2)
          else
            let given := servicer.giveUpAll
              (if single then none else some .timeout) waiters
            let next := given.finish handler .timeout
            some (next.1, .deadline handler :: next.2)
      | _ => none
  | servicer, .dispatch addr =>
      (servicer.channels addr).map (fun gateway =>
        (servicer.withChannel addr gateway.dispatch, []))
  | servicer, .feedback addr status start end_ =>
      (servicer.channels addr).map (fun gateway =>
        (servicer.withChannel addr
            (gateway.onDelivery status start end_).1,
          [.feedback addr status start end_]))
  | servicer, .callback addr position =>
      match servicer.channels addr with
      | none => none
      | some gateway =>
          if position ∈ gateway.callbacks then
            some (servicer.withChannel addr (gateway.callback position), [])
          else none

end PushServicer

end Push

end TinyChat
