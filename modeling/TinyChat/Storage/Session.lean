import TinyChat.Lib.AsyncLock
import TinyChat.Lib.Transition
import TinyChat.Redis.Counter
import TinyChat.Storage.Inbox

/-!
# Writing to a session

The processes of the storage service share one Redis counter for a channel.
Each takes slots from it in blocks of 100 and keeps the rest of a block in a
line of its cache.  The bucket of a message is that of the block of its slot.
A call that fails gives its slot back to the line that is in the cache then.
All calls are for one channel; other channels only show when they evict its
line from the cache of a process.
-/

namespace TinyChat

namespace Storage

open Redis
open Transition

def messageCountOneBucket : Int := 1000000

/-- What `redis_incr` adds to the counter. -/
def blockSize : Int := 100

structure BucketCacheLine where
  bucket : Int := -1
  currVal : Int := -1
  endVal : Int := -1
  lock : AsyncLock Nat := {}

namespace BucketCacheLine

def ready (line : BucketCacheLine) : Bool :=
  decide (0 < line.endVal)

/-- There is a slot behind the one that was taken last. -/
def available (line : BucketCacheLine) : Bool :=
  line.ready && decide (line.currVal + 1 < line.endVal)

def advance (line : BucketCacheLine) : BucketCacheLine :=
  { line with currVal := line.currVal + 1 }

/-- The line begins with a new block; its first slot is taken. -/
def fill (line : BucketCacheLine) (endVal : Int) : BucketCacheLine :=
  { line with
    endVal := endVal
    currVal := endVal - blockSize
    bucket := (endVal - blockSize) / messageCountOneBucket }

end BucketCacheLine

/-- A row of the table `messages`, without its channel. -/
structure SessionRow where
  bucket : Int
  messageId : Int
  senderSeq : Int
  senderId : Int
  receiverId : Int
  content : String
  deriving DecidableEq

def sessionRow (bucket : Int) (request : CassMsgRequest) : SessionRow :=
  { bucket := bucket
    messageId := request.messageId
    senderSeq := request.deliveryId
    senderId := request.messageData.senderId
    receiverId := request.messageData.receiverId
    content := request.messageData.text }

/-- An `INSERT` replaces the row with its primary key. -/
def insertRow (table : List SessionRow) (row : SessionRow) :
    List SessionRow :=
  row :: table.filter (fun other =>
    ¬ (other.bucket = row.bucket ∧ other.messageId = row.messageId))

/-- Where a call is.  A call that has a slot knows nothing of its block;
`block` is the end of it. -/
inductive SessionCall (Process : Type) where
  | unused
  | locking (process : Process) (line : Nat) (refill : Bool)
      (request : CassMsgRequest)
  | incrementing (process : Process) (line : Nat)
      (request : CassMsgRequest)
  | writing (process : Process) (block : Int)
  | ended

/-- The task that a call has created to write its message. -/
inductive SessionWrite where
  | absent
  | inFlight (block : Int) (row : SessionRow)
  | applied
  | lost
  deriving DecidableEq

/-- How `await shield(task)` ends. -/
inductive WriteOutcome where
  | written
  | raised
  | cancelled
  deriving DecidableEq

/-- The lines are numbered in the order of their creation; an evicted line
may still be used by calls. -/
structure CassStorage (Process : Type) where
  redis : RedisCounter := {}
  lines : Nat → BucketCacheLine := fun _ => {}
  created : Nat := 0
  bucketCache : Process → Option Nat := fun _ => none
  calls : Nat → SessionCall Process := fun _ => .unused
  writes : Nat → SessionWrite := fun _ => .absent
  table : List SessionRow := []

/-- A call begins; a waiting call gets the lock of its line; something
happens to a task of the Redis service; the time of an `INCR` is over; the
caller of an `INCR` goes on, or has no time left once the task is on the
channel; the RPC of a call that has no slot yet is cancelled; a write is
executed or lost; the wait for a write ends, and `context.cancelled()`
returns; a line is evicted. -/
inductive StorageAction (Process : Type) where
  | writeToSession (call : Nat) (process : Process)
      (request : CassMsgRequest)
  | acquire (line index : Nat)
  | redis (action : CounterAction)
  | timeout (call : Nat)
  | resume (call : Nat)
  | abandon (call : Nat)
  | cancel (call : Nat)
  | apply (call : Nat)
  | loseWrite (call : Nat)
  | finish (call : Nat) (outcome : WriteOutcome) (contextCancelled : Bool)
  | evict (process : Process)

inductive StorageEvent where
  | refilled (call line : Nat) (block : Int)
  | granted (call : Nat) (block bucket : Int)
  | wrote (call : Nat) (block : Int) (row : SessionRow)
  | rolledBack (call : Nat) (block : Int)
  | replied (call : Nat) (code : CassMessageStatusCode)

namespace CassStorage

variable {Process : Type} [DecidableEq Process]

def withLine (storage : CassStorage Process) (index : Nat)
    (line : BucketCacheLine) : CassStorage Process :=
  { storage with lines := Function.update storage.lines index line }

def withCall (storage : CassStorage Process) (call : Nat)
    (phase : SessionCall Process) : CassStorage Process :=
  { storage with calls := Function.update storage.calls call phase }

def reply (storage : CassStorage Process) (call : Nat)
    (code : CassMessageStatusCode) :
    CassStorage Process × List StorageEvent :=
  (storage.withCall call .ended, [.replied call code])

/-- `WriteToSession` after `cal_bucket_val` has returned. -/
def write (storage : CassStorage Process) (call : Nat) (process : Process)
    (block bucket : Int) (request : CassMsgRequest) :
    CassStorage Process × List StorageEvent :=
  if 0 ≤ bucket then
    ({ storage.withCall call (.writing process block) with
        writes := Function.update storage.writes call
          (.inFlight block (sessionRow bucket request)) },
      [.granted call block bucket])
  else if bucket = -1 then storage.reply call .timeout
  else if bucket = -2 then storage.reply call .failed
  else (storage.withCall call .ended, [])

/-- The call waits for `redis_incr`. -/
def increment (storage : CassStorage Process) (call : Nat)
    (process : Process) (index : Nat) (request : CassMsgRequest) :
    CassStorage Process :=
  { storage.withCall call (.incrementing process index request) with
    redis := storage.redis.withTask call {} }

/-- The call has got the lock.  Only a call that has not found the line
ready checks it again. -/
def locked (storage : CassStorage Process) (call : Nat) (process : Process)
    (index : Nat) (refill : Bool) (request : CassMsgRequest) :
    CassStorage Process × List StorageEvent :=
  let line := storage.lines index
  if refill = false ∧ line.available = true then
    (storage.withLine index
      { line.advance with lock := line.lock.release }).write call process
        line.endVal line.bucket request
  else (storage.increment call process index request, [])

def acquire (storage : CassStorage Process) (call : Nat)
    (process : Process) (index : Nat) (refill : Bool)
    (request : CassMsgRequest) :
    CassStorage Process × List StorageEvent :=
  let line := storage.lines index
  if line.lock.available then
    (storage.withLine index
      { line with lock := line.lock.hold call }).locked call process index
        refill request
  else
    ((storage.withLine index
        { line with lock := line.lock.wait call }).withCall call
      (.locking process index refill request), [])

/-- The line of a process, which is created if it is not in its cache. -/
def findLine (storage : CassStorage Process) (process : Process) :
    CassStorage Process × Nat :=
  match storage.bucketCache process with
  | some index => (storage, index)
  | none =>
      ({ storage with
          lines := Function.update storage.lines storage.created {}
          created := storage.created + 1
          bucketCache := Function.update storage.bucketCache process
            (some storage.created) },
        storage.created)

/-- `cal_bucket_val` until it first waits, or has a slot. -/
def calBucketVal (storage : CassStorage Process) (call : Nat)
    (process : Process) (index : Nat) (request : CassMsgRequest) :
    CassStorage Process × List StorageEvent :=
  let line := storage.lines index
  if line.ready then
    if line.available then
      (storage.withLine index line.advance).write call process line.endVal
        line.bucket request
    else storage.acquire call process index true request
  else storage.acquire call process index false request

def unlock (storage : CassStorage Process) (index : Nat) :
    CassStorage Process :=
  let line := storage.lines index
  storage.withLine index { line with lock := line.lock.release }

/-- `cal_bucket_val` after `redis_incr` has returned. -/
def refill (storage : CassStorage Process) (call : Nat) (process : Process)
    (index : Nat) (endVal : Int) (request : CassMsgRequest) :
    CassStorage Process × List StorageEvent :=
  let unlocked := storage.unlock index
  let line := (unlocked.lines index).fill endVal
  let next := (unlocked.withLine index line).write call process endVal
    line.bucket request
  (next.1, .refilled call index endVal :: next.2)

/-- How often the slot of a call is given back: by the handler of the
exception, and once more if the context is cancelled. -/
def rollbacks (outcome : WriteOutcome) (contextCancelled : Bool) : Nat :=
  (if outcome = .written then 0 else 1) +
    (if contextCancelled then 1 else 0)

/-- The reply is unbound when the wait was cancelled. -/
def replies (call : Nat) (outcome : WriteOutcome)
    (contextCancelled : Bool) : List StorageEvent :=
  match contextCancelled, outcome with
  | false, .written => [.replied call .success]
  | false, .raised => [.replied call .failed]
  | _, _ => []

/-- The end of `WriteToSession`.  To give a slot back fails if there is no
line in the cache. -/
def finish (storage : CassStorage Process) (call : Nat) (process : Process)
    (outcome : WriteOutcome) (contextCancelled : Bool) :
    CassStorage Process × List StorageEvent :=
  let count := rollbacks outcome contextCancelled
  match storage.bucketCache process with
  | none =>
      (storage.withCall call .ended,
        if count = 0 then replies call outcome contextCancelled else [])
  | some index =>
      let line := storage.lines index
      ((storage.withLine index
          { line with currVal := line.currVal - count }).withCall call
        .ended,
        List.replicate count (.rolledBack call line.endVal) ++
          replies call outcome contextCancelled)

/-- The moves of the Redis service; a call issues its task and its timer
ends it. -/
def serves : CounterAction → Bool
  | .issue _ => false
  | .move _ .timeout => false
  | _ => true

def step : Step (CassStorage Process) (StorageAction Process) StorageEvent
  | storage, .writeToSession call process request =>
      match storage.calls call with
      | .unused =>
          let found := storage.findLine process
          some (found.1.calBucketVal call process found.2 request)
      | _ => none
  | storage, .acquire index position =>
      match (storage.lines index).lock.resume position with
      | none => none
      | some (call, lock) =>
          match storage.calls call with
          | .locking process _ refill request =>
              some ((storage.withLine index
                { storage.lines index with lock := lock }).locked call
                  process index refill request)
          | _ => none
  | storage, .redis action =>
      if serves action then
        (storage.redis.act blockSize action).map (fun redis =>
          ({ storage with redis := redis }, []))
      else none
  | storage, .timeout call =>
      match storage.calls call with
      | .incrementing _ _ _ =>
          (storage.redis.act blockSize (.move call .timeout)).map
            (fun redis => ({ storage with redis := redis }, []))
      | _ => none
  | storage, .resume call =>
      match storage.calls call, storage.redis.tasks call with
      | .incrementing process index request, some incr =>
          match incr.task.waiter with
          | .pending => none
          | .result (some _) =>
              some (storage.refill call process index incr.value request)
          | .result none =>
              some ((storage.unlock index).reply call .failed)
          | .cancelled =>
              some ((storage.unlock index).reply call .timeout)
      | _, _ => none
  | storage, .abandon call =>
      match storage.calls call with
      | .incrementing _ index _ =>
          some ((storage.unlock index).reply call .failed)
      | _ => none
  | storage, .cancel call =>
      match storage.calls call with
      | .locking _ index _ _ =>
          let line := storage.lines index
          some ((storage.withLine index
            { line with
              lock :=
                { line.lock with
                  waiters := line.lock.waiters.erase call } }).withCall
              call .ended, [])
      | .incrementing _ _ _ =>
          let cancelled := { storage with
            redis := (storage.redis.act blockSize
              (.move call .timeout)).getD storage.redis }
          some (cancelled.withCall call .ended, [])
      | _ => none
  | storage, .apply call =>
      match storage.writes call with
      | .inFlight block row =>
          some ({ storage with
              writes := Function.update storage.writes call .applied
              table := insertRow storage.table row },
            [.wrote call block row])
      | _ => none
  | storage, .loseWrite call =>
      match storage.writes call with
      | .inFlight _ _ =>
          some ({ storage with
            writes := Function.update storage.writes call .lost }, [])
      | _ => none
  | storage, .finish call outcome contextCancelled =>
      match storage.calls call with
      | .writing process _ =>
          if outcome = .written ∧ storage.writes call ≠ .applied then none
          else some (storage.finish call process outcome contextCancelled)
      | _ => none
  | storage, .evict process =>
      some ({ storage with
        bucketCache := Function.update storage.bucketCache process none },
        [])

/-- How many writes a bucket has received. -/
def writesTo (trace : List StorageEvent) (bucket : Int) : Nat :=
  trace.countP (fun
    | .wrote _ _ row => row.bucket = bucket
    | _ => false)

end CassStorage

end Storage

end TinyChat
