import TinyChat.Lib.AsyncLock
import TinyChat.Lib.IntSpan
import TinyChat.Lib.Transition

/-!
# The message pacer of the outbox worker

`MessagePacer` decides for every message of a sender whether the worker has
to handle it.  The coroutines of the messages of one sender share its
`DeliveryInfo` and interleave at their suspension points: the acquisition of
the lock and the calls to Redis.  Each section between two suspension points
is one step.
-/

namespace TinyChat

namespace Worker

inductive FilterState where
  | newItem
  | newVersion
  | canIgnore
  | retryRequired
  deriving DecidableEq

/-- A coroutine that needs the lock of its sender: a call of `filter_or_not`
with the `next_delivery_id` that it read first, or a call of
`on_handled_new_item` that is about to store a value. -/
inductive PacerTask where
  | filter (nextDeliveryId deliveryId messageId : Int)
  | store (value : Int)

structure DeliveryInfo where
  nextDeliveryId : Int := 0
  deliveryIds : List (Int × Int) := []
  lock : AsyncLock PacerTask := {}
  redisKey : Option String := none

namespace DeliveryInfo

def initialized (info : DeliveryInfo) : Prop := info.nextDeliveryId > 0

instance (info : DeliveryInfo) : Decidable info.initialized :=
  inferInstanceAs (Decidable (info.nextDeliveryId > 0))

/-- The ids in the table; an id is entered when its handling begins and is
never removed. -/
def keys (info : DeliveryInfo) : List Int := info.deliveryIds.map Prod.fst

def record (info : DeliveryInfo) (deliveryId messageId : Int) :
    DeliveryInfo :=
  { info with
    deliveryIds := (deliveryId, messageId) :: info.deliveryIds }

end DeliveryInfo

/-- The worker as one sender sees it: the sender's entry in the cache of the
pacer and in Redis, and the coroutines of `on_message` that have not called
`on_handled_new_item` yet.  The list `handling` has the ids that were
classified as new items and have not been reported as handled since. -/
structure Pacer where
  senderId : Int
  info : DeliveryInfo := {}
  redis : Option Int := none
  handling : List Int := []
  unfinished : List Int := []

/-- What happens next: a message is filtered, the lock is given to a waiting
coroutine, Redis answers, a message has been handled, or somebody else
changes the value in Redis. -/
inductive PacerAction where
  | filterOrNot (deliveryId messageId : Int)
  | wake (index : Nat)
  | getReply (success : Bool)
  | onHandledNewItem (deliveryId : Int)
  | setReply (applied : Bool)
  | external (value : Option Int)

inductive PacerEvent where
  | classified (deliveryId messageId : Int) (state : FilterState)
  | loaded (value : Int)
  | handled (deliveryId : Int)
  | redisSet (value : Int)
  deriving DecidableEq

namespace Pacer

def start (senderId : Int) (redis : Option Int) : Pacer :=
  { senderId := senderId, redis := redis }

def withLock (pacer : Pacer) (lock : AsyncLock PacerTask) : Pacer :=
  { pacer with info := { pacer.info with lock := lock } }

def withNext (pacer : Pacer) (nextDeliveryId : Int) : Pacer :=
  { pacer with info := { pacer.info with nextDeliveryId := nextDeliveryId } }

/-- `on_message` after `filter_or_not` returned: a new item is handled, a
message to retry goes to the dead-letter queue, and both are reported to
`on_handled_new_item` afterwards. -/
def onFiltered (pacer : Pacer) (deliveryId : Int) : FilterState → Pacer
  | .newItem =>
      { pacer with
        handling := pacer.handling ++ [deliveryId]
        unfinished := pacer.unfinished ++ [deliveryId] }
  | .retryRequired =>
      { pacer with unfinished := pacer.unfinished ++ [deliveryId] }
  | .newVersion => pacer
  | .canIgnore => pacer

def classify (pacer : Pacer) (deliveryId messageId : Int)
    (state : FilterState) : Pacer × List PacerEvent :=
  (pacer.onFiltered deliveryId state,
    [.classified deliveryId messageId state])

/-- Enter the id in the table and return `NEW_ITEM`. -/
def accept (pacer : Pacer) (deliveryId messageId : Int) :
    Pacer × List PacerEvent :=
  let info := pacer.info.record deliveryId messageId
  { pacer with info := info }.classify deliveryId messageId .newItem

/-- `filter_or_not` on an initialised entry.  The two kinds of duplicates,
with an older and with a newer message id, differ in the log only. -/
def filterInitialized (pacer : Pacer)
    (nextDeliveryId deliveryId messageId : Int) : Pacer × List PacerEvent :=
  if deliveryId ≥ nextDeliveryId then
    match pacer.info.deliveryIds.lookup deliveryId with
    | none => pacer.accept deliveryId messageId
    | some _ => pacer.classify deliveryId messageId .canIgnore
  else pacer.classify deliveryId messageId .canIgnore

/-- `filter_or_not` on an entry that is not initialised, with the lock held,
up to the call of `redis_get`. -/
def beginLoad (pacer : Pacer) (lock : AsyncLock PacerTask) : Pacer :=
  let redisKey := pacer.info.redisKey.getD
    ("chatp:user:delivery_id:uid:" ++ toString pacer.senderId)
  { pacer with
    info := { pacer.info with lock := lock, redisKey := some redisKey } }

/-- `filter_or_not` up to its first suspension. -/
def filterOrNot (pacer : Pacer) (deliveryId messageId : Int) :
    Pacer × List PacerEvent :=
  let nextDeliveryId := pacer.info.nextDeliveryId
  let task := PacerTask.filter nextDeliveryId deliveryId messageId
  if pacer.info.initialized then
    pacer.filterInitialized nextDeliveryId deliveryId messageId
  else if pacer.info.lock.available then
    (pacer.beginLoad (pacer.info.lock.hold task), [])
  else (pacer.withLock (pacer.info.lock.wait task), [])

/-- What a coroutine does with the lock that it waited for. -/
def resumeWith (pacer : Pacer) (lock : AsyncLock PacerTask) :
    PacerTask → Pacer × List PacerEvent
  | .filter nextDeliveryId deliveryId messageId =>
      if pacer.info.initialized then
        (pacer.withLock lock.release).filterInitialized
          nextDeliveryId deliveryId messageId
      else (pacer.beginLoad lock, [])
  | .store value => (pacer.withLock lock, [.redisSet value])

/-- `filter_or_not` after `redis_get`; a missing key is read as `""`. -/
def loaded (pacer : Pacer) (deliveryId messageId : Int) (success : Bool) :
    Pacer × List PacerEvent :=
  let released := pacer.withLock pacer.info.lock.release
  if success then
    let value := pacer.redis.getD 1
    let result :=
      if deliveryId < value then
        (released.withNext value).classify deliveryId messageId .canIgnore
      else (released.withNext value).accept deliveryId messageId
    (result.1, .loaded value :: result.2)
  else released.classify deliveryId messageId .retryRequired

/-- A coroutine of `on_message` calls `on_handled_new_item`. -/
def finish (pacer : Pacer) (deliveryId : Int) : Pacer :=
  { pacer with
    handling := pacer.handling.filter (· ≠ deliveryId)
    unfinished := pacer.unfinished.erase deliveryId }

/-- The value that the loop of `on_handled_new_item` ends with. -/
def following (pacer : Pacer) (deliveryId : Int) : Int :=
  IntSpan.firstMissing pacer.info.keys (deliveryId + 1)

/-- `on_handled_new_item` up to its first suspension. -/
def onHandledNewItem (pacer : Pacer) (deliveryId : Int) :
    Pacer × List PacerEvent :=
  if deliveryId = pacer.info.nextDeliveryId then
    let next := pacer.following deliveryId
    let moved := (pacer.finish deliveryId).withNext next
    if pacer.info.lock.available then
      (moved.withLock (pacer.info.lock.hold (.store next)),
        [.handled deliveryId, .redisSet next])
    else
      (moved.withLock (pacer.info.lock.wait (.store next)),
        [.handled deliveryId])
  else (pacer.finish deliveryId, [.handled deliveryId])

/-- `on_handled_new_item` after `redis_set`.  A call that failed may still
have been applied; the status is only logged. -/
def stored (pacer : Pacer) (value : Int) (applied : Bool) : Pacer :=
  { pacer.withLock pacer.info.lock.release with
    redis := if applied && pacer.info.redisKey.isSome then some value
      else pacer.redis }

def step : Transition.Step Pacer PacerAction PacerEvent
  | pacer, .filterOrNot deliveryId messageId =>
      some (pacer.filterOrNot deliveryId messageId)
  | pacer, .wake index =>
      match pacer.info.lock.resume index with
      | some (task, lock) => some (pacer.resumeWith lock task)
      | none => none
  | pacer, .getReply success =>
      match pacer.info.lock.holder with
      | some (.filter _ deliveryId messageId) =>
          some (pacer.loaded deliveryId messageId success)
      | _ => none
  | pacer, .onHandledNewItem deliveryId =>
      some (pacer.onHandledNewItem deliveryId)
  | pacer, .setReply applied =>
      match pacer.info.lock.holder with
      | some (.store value) => some (pacer.stored value applied, [])
      | _ => none
  | pacer, .external value => some ({ pacer with redis := value }, [])

end Pacer

end Worker

end TinyChat
