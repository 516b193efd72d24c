import TinyChat.Lib.Transition
import TinyChat.Message.QueueRuns

/-!
# The stream consumer of one partition

`OffsetRecord` tracks the acknowledged offsets of a partition.  The
consumer's coroutines change it in synchronous sections between their
suspension points; each section is one step here.  Time is an integer clock
that the environment supplies, and so are the results of the calls to the
broker.
-/

namespace TinyChat

namespace Rmq

structure OffsetRecord where
  queue : AckQueue
  storingOffset : Int
  lastStoredOffset : Int
  lastStoredTime : Int
  isFrozen : Bool

namespace OffsetRecord

/-- `OffsetRecord(stream, offset)`, built at clock `now`. -/
def new (offset now : Int) : OffsetRecord :=
  { queue := AckQueue.new.add offset
    storingOffset := -1
    lastStoredOffset := offset
    lastStoredTime := now
    isFrozen := true }

def add (record : OffsetRecord) (offset : Int) : OffsetRecord :=
  { record with queue := record.queue.add offset }

def freeze (record : OffsetRecord) : OffsetRecord :=
  { record with
    isFrozen := true
    queue := record.queue.clear }

def unfreeze (record : OffsetRecord) : OffsetRecord :=
  { record with
    isFrozen := false
    queue := record.queue.clear }

def expectedOffset (record : OffsetRecord) : Int := record.queue.firstEnd

end OffsetRecord

def offsetStoreForcePerMessages : Int := 256

def offsetStoreMinimumMessages : Int := 64

def offsetStorePeriod : Int := 300

/-- What `query_offset` returns or raises. -/
inductive QueryReply where
  | stored (offset : Nat)
  | offsetNotFound
  | otherError

/-- How a `store_offset` task or call ends. -/
inductive StoreResult where
  | success
  | failed
  | cancelled

/-- The consumer of one partition: its record, the offsets of the
`StreamMessage` objects that were handed to the user callback, the
`store_offset` calls that have not returned, and the offset from which the
broker was last asked to deliver. -/
structure Consumer where
  record : OffsetRecord
  messages : List Int
  timerStores : List Int
  listenerStores : List Int
  subscribedFrom : Int

inductive Action where
  | activate (reply : QueryReply)
  | deactivate
  | listenerStoreDone (offset : Int) (result : StoreResult) (now : Int)
  | deliver (offset : Int)
  | ack (offset : Int)
  | tick (now : Int)
  | timerStoreDone (offset : Int) (result : StoreResult) (now : Int)

inductive Event where
  | activated (nextOffset : Int)
  | deactivated
  | delivered (offset : Int)
  | acked (offset : Int)
  | storeOffset (offset : Int)
  deriving DecidableEq

namespace Consumer

/-- `initialize_consumer`: the record of a partition starts at offset `-1`. -/
def start : Consumer :=
  { record := .new (-1) 0
    messages := []
    timerStores := []
    listenerStores := []
    subscribedFrom := 0 }

/-- `consumer_update_listener(True)` once `query_offset` has ended. -/
def activate (consumer : Consumer) (reply : QueryReply) : Consumer :=
  match reply with
  | .stored offset =>
      let record := consumer.record.unfreeze.add offset
      { consumer with
        record := { record with lastStoredOffset := offset }
        subscribedFrom := offset + 1 }
  | .offsetNotFound =>
      { consumer with
        record := consumer.record.unfreeze
        subscribedFrom := 0 }
  | .otherError =>
      { consumer with
        record := consumer.record.unfreeze
        subscribedFrom := 0 }

/-- `consumer_update_listener(False)` up to the call of `store_offset`,
which happens only if the offset grew since it was last stored. -/
def deactivate (consumer : Consumer) : Consumer × List Event :=
  let expectedOffset := consumer.record.expectedOffset
  let lastStoredOffset := consumer.record.lastStoredOffset
  let record := consumer.record.freeze
  let pendingStoredOffset := expectedOffset - 1
  if lastStoredOffset < pendingStoredOffset ∧
      record.storingOffset < pendingStoredOffset then
    ({ consumer with
       record := { record with storingOffset := pendingStoredOffset }
       listenerStores := consumer.listenerStores ++ [pendingStoredOffset] },
      [.storeOffset pendingStoredOffset, .deactivated])
  else ({ consumer with record := record }, [.deactivated])

/-- The rest of `consumer_update_listener(False)` after `store_offset`. -/
def listenerStoreDone (consumer : Consumer) (offset : Int)
    (result : StoreResult) (now : Int) : Consumer :=
  let record := match result with
    | .success =>
        { consumer.record with
          lastStoredOffset := offset
          lastStoredTime := now }
    | _ => consumer.record
  { consumer with
    record := { record with storingOffset := -1 }
    listenerStores := consumer.listenerStores.erase offset }

/-- One pass of `store_offset_timer` over the record. -/
def tick (consumer : Consumer) (now : Int) : Consumer × List Event :=
  let record := consumer.record
  if record.isFrozen then (consumer, [])
  else
    let currMaxOffset := record.expectedOffset - 1
    let numHandled := currMaxOffset - record.lastStoredOffset
    if numHandled > offsetStoreForcePerMessages ∨
        (numHandled > offsetStoreMinimumMessages ∧
          now > record.lastStoredTime + offsetStorePeriod) then
      ({ consumer with
         record := { record with storingOffset := currMaxOffset }
         timerStores := consumer.timerStores ++ [currMaxOffset] },
        [.storeOffset currMaxOffset])
    else (consumer, [])

/-- The done-callback `on_store_offset` of a task of the timer. -/
def onStoreOffset (record : OffsetRecord) (offset : Int)
    (result : StoreResult) (now : Int) : OffsetRecord :=
  if record.storingOffset = offset then
    match result with
    | .success =>
        { record with
          storingOffset := -1
          lastStoredOffset := offset
          lastStoredTime := now }
    | _ => { record with storingOffset := -1 }
  else record

def step : Transition.Step Consumer Action Event
  | consumer, .activate reply =>
      let next := consumer.activate reply
      some (next, [.activated next.subscribedFrom])
  | consumer, .deactivate => some consumer.deactivate
  | consumer, .listenerStoreDone offset result now =>
      if offset ∈ consumer.listenerStores then
        some (consumer.listenerStoreDone offset result now, [])
      else none
  | consumer, .deliver offset =>
      if consumer.record.isFrozen then some (consumer, [])
      else
        some ({ consumer with messages := consumer.messages ++ [offset] },
          [.delivered offset])
  | consumer, .ack offset =>
      if offset ∈ consumer.messages then
        some ({ consumer with record := consumer.record.add offset },
          [.acked offset])
      else none
  | consumer, .tick now =>
      if consumer.timerStores = [] then some (consumer.tick now) else none
  | consumer, .timerStoreDone offset result now =>
      if offset ∈ consumer.timerStores then
        some ({ consumer with
          record := onStoreOffset consumer.record offset result now
          timerStores := consumer.timerStores.erase offset }, [])
      else none

end Consumer

end Rmq

end TinyChat
