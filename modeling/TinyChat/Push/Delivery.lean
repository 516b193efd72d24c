import TinyChat.Gateway.Session
import TinyChat.Push.Manager

/-!
# Events between a push service and a gateway

The push service keeps one `EventChannel` for the gateway.  It numbers the
events that it publishes, dispatches them on the streams of the gateway and
resolves their waiters by the ranges of ids that come back.  The gateway runs
a handler for every event: it confirms the event at once if the user has no
active session, or forwards it and leaves the confirmation to the frames of
its clients.
-/

namespace TinyChat

namespace Push

open Gateway

/-- The handlers for friend events and user messages are the same; the
handler for kicks is another one. -/
inductive EventKind where
  | notice
  | kick
  deriving DecidableEq

structure PushEvent where
  kind : EventKind
  addressId : Int
  deriving DecidableEq

/-- `EventChannel`.  An event and its waiter are named by the position of the
event among all that were published. -/
structure EventChannel where
  events : List PushEvent := []
  deliveryId : Nat := 0
  confirmations : Nat → Option Nat := fun _ => none
  queue : List Nat := []
  /-- `waiter.done()`. -/
  done : Nat → Bool := fun _ => false

namespace EventChannel

/-- The id that the event at a position is published with: the counter starts
at `0`, is incremented for every event and wraps around. -/
def idOf (position : Nat) : Nat := (position + 1) % maxInt32

def publish (channel : EventChannel) (event : PushEvent) : EventChannel :=
  let position := channel.events.length
  let deliveryId := (channel.deliveryId + 1) % maxInt32
  { channel with
    events := channel.events ++ [event]
    deliveryId := deliveryId
    confirmations :=
      Function.update channel.confirmations deliveryId (some position)
    queue := channel.queue ++ [position] }

/-- One iteration of `on_delivery`, with the waiter that it resolves. -/
def confirm (channel : EventChannel) (deliveryId : Nat) :
    EventChannel × List Nat :=
  match channel.confirmations deliveryId with
  | none => (channel, [])
  | some position =>
      if channel.done position then (channel, [])
      else
        ({ channel with done := Function.update channel.done position true },
          [position])

/-- The loop of `on_delivery` over the ids of a range. -/
def confirmAll (channel : EventChannel) :
    List Nat → EventChannel × List Nat
  | [] => (channel, [])
  | deliveryId :: rest =>
      let first := channel.confirm deliveryId
      let others := confirmAll first.1 rest
      (others.1, first.2 ++ others.2)

/-- `range(start_id, end_id)`. -/
def range (start end_ : Int) : List Nat :=
  List.range' start.toNat (end_ - start).toNat

def onDelivery (channel : EventChannel) (start end_ : Int) :
    EventChannel × List Nat :=
  channel.confirmAll (range start end_)

/-- A caller stops waiting, with another result than `PUSH_SUCCESS`. -/
def giveUp (channel : EventChannel) (position : Nat) : EventChannel :=
  { channel with done := Function.update channel.done position true }

/-- The callback of a waiter that is done. -/
def forget (channel : EventChannel) (position : Nat) : EventChannel :=
  { channel with
    confirmations :=
      Function.update channel.confirmations (idOf position) none }

end EventChannel

/-- A gateway and a push service.  The gateway may have streams to other
services, too; `attached` are the numbers of those to this one. -/
structure PushSystem where
  manager : PushManager := {}
  /-- There is an active session with this key. -/
  active : Int → Bool := fun _ => false
  attached : Int → Bool := fun _ => false
  service : EventChannel := {}
  /-- Events that have arrived on a stream and were not handled yet. -/
  inbox : List (Int × Nat) := []
  /-- Ranges that a stream brings back to the service. -/
  feedback : List (Int × Int × Int) := []

/-- What can be observed: what happens in the gateway, that a channel to the
service was opened, that the gateway found no active session for an event or
confirmed a kick, and that a waiter was resolved with `PUSH_SUCCESS`. -/
inductive SystemEvent where
  | gateway (event : ManagerEvent)
  | connected (number : Int)
  | offline (position : Nat) (event : PushEvent)
  | kickConfirmed (position : Nat)
  | resolved (position : Nat) (event : PushEvent)
  deriving DecidableEq

/-- A session becomes active or inactive, a client sends a frame, the gateway
does something else than to handle an event, a channel is opened, the service
publishes an event, an event leaves the service on a stream, the gateway
handles an event (a kick may end without a confirmation), a range arrives at
the service, a caller stops waiting, a callback runs. -/
inductive SystemAction where
  | setActive (sessionKey : Int) (active : Bool)
  | gateway (action : ManagerAction)
  | connect (toService : Bool)
  | publish (event : PushEvent)
  | dispatch (number : Int)
  | handle (number : Int) (position : Nat) (confirmed : Bool)
  | onDelivery
  | giveUp (position : Nat)
  | callback (position : Nat)

namespace PushSystem

/-- What the gateway does by itself; the handlers of events are started by
the stream. -/
def Unprompted : ManagerAction → Prop
  | .put _ _ => True
  | .get => True
  | .connect => False
  | .disconnect _ => True
  | .channel _ .wake => True
  | .channel _ .resume => True
  | .channel _ (.ackLog _) => False
  | .channel _ (.fire _) => True
  | .channel _ (.offline _) => False
  | .channel _ (.kicked _) => False
  | .channel _ .cancelWriting => True
  | .channel _ .dropGenerator => True

instance : ∀ action, Decidable (Unprompted action)
  | .put _ _ => .isTrue trivial
  | .get => .isTrue trivial
  | .connect => .isFalse id
  | .disconnect _ => .isTrue trivial
  | .channel _ .wake => .isTrue trivial
  | .channel _ .resume => .isTrue trivial
  | .channel _ (.ackLog _) => .isFalse id
  | .channel _ (.fire _) => .isTrue trivial
  | .channel _ (.offline _) => .isFalse id
  | .channel _ (.kicked _) => .isFalse id
  | .channel _ .cancelWriting => .isTrue trivial
  | .channel _ .dropGenerator => .isTrue trivial

/-- The range that an event of the gateway sends to the service. -/
def sentRange (attached : Int → Bool) :
    ManagerEvent → Option (Int × Int × Int)
  | .channel number (.feedback _ start end_ true) =>
      if attached number then some (number, start, end_) else none
  | _ => none

/-- The gateway takes a step. -/
def runGateway (system : PushSystem) (action : ManagerAction) :
    Option (PushSystem × List SystemEvent) :=
  match system.manager.step action with
  | none => none
  | some (manager, events) =>
      some ({ system with
          manager := manager
          feedback := system.feedback ++
            events.filterMap (sentRange system.attached) },
        events.map .gateway)

/-- The sessions of a user that the handler of an event finds. -/
def hasTargets (system : PushSystem) (user : Int) : Bool :=
  (Server.keysOf user).any system.active

/-- The handler of an event. -/
def handle (system : PushSystem) (number : Int) (position : Nat)
    (confirmed : Bool) : Option (PushSystem × List SystemEvent) :=
  let deliveryId := EventChannel.idOf position
  match system.service.events[position]? with
  | none => none
  | some event =>
      match event.kind with
      | .notice =>
          if system.hasTargets event.addressId then some (system, [])
          else
            (system.runGateway (.channel number (.offline deliveryId))).map
              (fun result =>
                (result.1, .offline position event :: result.2))
      | .kick =>
          if confirmed then
            (system.runGateway (.channel number (.kicked deliveryId))).map
              (fun result =>
                (result.1, .kickConfirmed position :: result.2))
          else some (system, [])

def resolvedEvents (service : EventChannel) (positions : List Nat) :
    List SystemEvent :=
  positions.filterMap (fun position =>
    service.events[position]?.map (.resolved position))

def step : Transition.Step PushSystem SystemAction SystemEvent
  | system, .setActive sessionKey active =>
      some ({ system with
        active := Function.update system.active sessionKey active }, [])
  | system, .gateway action =>
      if Unprompted action then system.runGateway action else none
  | system, .connect toService =>
      let number : Int := system.manager.channelNumber
      (system.runGateway .connect).map (fun result =>
        ({ result.1 with
            attached := Function.update system.attached number toService },
          if toService then [.connected number] else []))
  | system, .publish event =>
      some ({ system with service := system.service.publish event }, [])
  | system, .dispatch number =>
      match system.service.queue with
      | [] => none
      | position :: queue =>
          let service := { system.service with queue := queue }
          if system.service.done position then
            some ({ system with service := service }, [])
          else if system.attached number then
            some ({ system with
              service := service
              inbox := system.inbox ++ [(number, position)] }, [])
          else none
  | system, .handle number position confirmed =>
      if (number, position) ∈ system.inbox then
        { system with
          inbox := system.inbox.erase (number, position) }.handle number
            position confirmed
      else none
  | system, .onDelivery =>
      match system.feedback with
      | [] => none
      | (_, start, end_) :: feedback =>
          let result := system.service.onDelivery start end_
          some ({ system with service := result.1, feedback := feedback },
            resolvedEvents system.service result.2)
  | system, .giveUp position =>
      some ({ system with service := system.service.giveUp position }, [])
  | system, .callback position =>
      if system.service.done position then
        some ({ system with service := system.service.forget position }, [])
      else none

end PushSystem

end Push

end TinyChat
