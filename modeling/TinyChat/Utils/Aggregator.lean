import TinyChat.Lib.ObjectPool
import TinyChat.Lib.Transition

/-!
# Aggregated calls

The callers of an `Aggregator` join a batch.  The first of them that has
waited long enough, or that fills the batch, runs the executor for all.  The
lock that decides who runs it, and the event that wakes up the others, come
from caches that all aggregators of the process share.
-/

namespace TinyChat

namespace Utils

open Transition

inductive Future (Res : Type) where
  | pending
  | result (value : Res)
  | timeout
  | cancelled
  deriving DecidableEq

namespace Future

variable {Res : Type}

def done : Future Res → Bool
  | .pending => false
  | _ => true

/-- `set_result`, unless the future is done. -/
def setResult (value : Res) : Future Res → Future Res
  | .pending => .result value
  | future => future

/-- `set_exception` with a `TimeoutError`, unless the future is done. -/
def setTimeout : Future Res → Future Res
  | .pending => .timeout
  | future => future

end Future

/-- How a coroutine ends; `other` is any exception but a `TimeoutError`. -/
inductive Ending (α : Type) where
  | returned (value : α)
  | timeout
  | other
  | cancelled
  deriving DecidableEq

section

variable {Arg Res : Type}

/-- The loop over `zip(futures, results)`. -/
def settle : List (Future Res) → List Res → List (Future Res)
  | future :: futures, result :: results =>
      future.setResult result :: settle futures results
  | futures, _ => futures

theorem settle_pending {count position : Nat} {results : List Res}
    {value : Res} (within : position < count)
    (found : results[position]? = some value) :
    (settle (List.replicate count .pending) results)[position]? =
      some (Future.result value) := by
  induction count generalizing position results with
  | zero => cases within
  | succ count induction =>
      cases results with
      | nil => cases found
      | cons result results =>
          rw [List.replicate_succ, settle]
          cases position with
          | zero =>
              cases found
              rfl
          | succ position =>
              exact induction (Nat.lt_of_succ_lt_succ within) found

/-- `Aggregator._execute`, given how the call of the executor ends: the
futures of the batch, and how the coroutine itself ends.  An executor may
return `None`, over which `zip` fails. -/
def execute (ended : Ending (Option (List Res)))
    (futures : List (Future Res)) : List (Future Res) × Ending Unit :=
  match ended with
  | .returned (some results) => (settle futures results, .returned ())
  | .returned none => (futures, .other)
  | .timeout => (futures.map Future.setTimeout, .returned ())
  | .other => (futures, .other)
  | .cancelled => (futures, .cancelled)

end

/-- The arguments and futures that are collected between two calls of
`_clear`, with the event and the lock of the aggregator in that time. -/
structure Batch (Arg Res : Type) where
  owner : Nat := 0
  args : List Arg := []
  futures : List (Future Res) := []
  event : Nat := 0
  lock : Nat := 0

structure Aggregator where
  maxCount : Option Nat
  /-- The batch that new callers join. -/
  batch : Nat

/-- A call of `aggregate`: it waits for the event of its batch, which may
have been set, runs the executor, or waits for its future. -/
inductive CallPhase where
  | unused
  | waiting (batch position : Nat) (signalled : Bool)
  | executing (batch position : Nat)
  | awaiting (batch position : Nat)
  | ended
  deriving DecidableEq

def cacheMaxlen : Nat := 1024

/-- The aggregators of a process, with the batches that they have created and
the global caches. -/
structure Aggregators (Arg Res : Type) where
  aggregators : Nat → Option Aggregator := fun _ => none
  batches : Nat → Batch Arg Res := fun _ => {}
  batchCount : Nat := 0
  calls : Nat → CallPhase := fun _ => .unused
  locks : ObjectPool := {}
  events : ObjectPool := {}

/-- An aggregator is created; a call begins; it wakes up by the event or at
the end of the leeway; the executor that it runs ends; its future is done. -/
inductive AggregateAction (Arg Res : Type) where
  | create (aggregator : Nat) (maxCount : Option Nat)
  | aggregate (call aggregator : Nat) (arg : Arg)
  | wake (call : Nat)
  | expire (call : Nat)
  | finish (call : Nat) (ended : Ending (Option (List Res)))
  | receive (call : Nat)

/-- What is observed: a call joins a batch, the executor gets the arguments
of a batch and returns results, the lock and the event of a batch go back
into the caches, and a call receives what its future has. -/
inductive AggregateEvent (Arg Res : Type) where
  | joined (call batch position : Nat) (arg : Arg)
  | executed (batch : Nat) (args : List Arg)
  | answered (batch : Nat) (results : List Res)
  | released (batch : Nat)
  | received (call : Nat) (future : Future Res)
  deriving DecidableEq

namespace Aggregators

variable {Arg Res : Type}

def withCall (process : Aggregators Arg Res) (call : Nat)
    (phase : CallPhase) : Aggregators Arg Res :=
  { process with calls := Function.update process.calls call phase }

def withBatch (process : Aggregators Arg Res) (batch : Nat)
    (record : Batch Arg Res) : Aggregators Arg Res :=
  { process with batches := Function.update process.batches batch record }

/-- `_clear`. -/
def clear (process : Aggregators Arg Res) (aggregator : Nat)
    (maxCount : Option Nat) : Aggregators Arg Res :=
  let event := process.events.getOrCreate
  let lock := process.locks.getOrCreate
  { process with
    aggregators := Function.update process.aggregators aggregator
      (some { maxCount := maxCount, batch := process.batchCount })
    batches := Function.update process.batches process.batchCount
      { owner := aggregator, event := event.1, lock := lock.1 }
    batchCount := process.batchCount + 1
    events := event.2
    locks := lock.2 }

/-- The arguments and the future of a call are appended. -/
def join (process : Aggregators Arg Res) (batch : Nat) (arg : Arg) :
    Aggregators Arg Res :=
  process.withBatch batch
    { process.batches batch with
      args := (process.batches batch).args ++ [arg]
      futures := (process.batches batch).futures ++ [.pending] }

/-- `event.set()`: all calls that wait for this event wake up. -/
def signal (process : Aggregators Arg Res) (event : Nat) :
    Aggregators Arg Res :=
  { process with
    events := process.events.raise event
    calls := fun call =>
      match process.calls call with
      | .waiting batch position signalled =>
          .waiting batch position
            (signalled || (process.batches batch).event == event)
      | phase => phase }

/-- A call that need not wait any more runs the executor if it gets the
lock. -/
def proceed (process : Aggregators Arg Res) (call batch position : Nat) :
    Aggregators Arg Res × List (AggregateEvent Arg Res) :=
  if process.locks.flag (process.batches batch).lock then
    (process.withCall call (.awaiting batch position), [])
  else
    ({ process.withCall call (.executing batch position) with
        locks := process.locks.raise (process.batches batch).lock },
      [.executed batch (process.batches batch).args])

/-- A call goes on after its wait: `args is self._args` holds as long as
nobody has closed the batch. -/
def resume (process : Aggregators Arg Res) (call batch position : Nat) :
    Aggregators Arg Res × List (AggregateEvent Arg Res) :=
  match process.aggregators (process.batches batch).owner with
  | none => (process, [])
  | some aggregator =>
      if aggregator.batch = batch then
        (process.clear (process.batches batch).owner
          aggregator.maxCount).proceed call batch position
      else process.proceed call batch position

/-- The lock and the event of a batch are put back. -/
def release (process : Aggregators Arg Res) (batch : Nat) :
    Aggregators Arg Res :=
  { process with
    locks := process.locks.putBack cacheMaxlen (process.batches batch).lock
    events :=
      process.events.putBack cacheMaxlen (process.batches batch).event }

def answers (batch : Nat) :
    Ending (Option (List Res)) → List (AggregateEvent Arg Res)
  | .returned (some results) => [.answered batch results]
  | _ => []

/-- The executor of a batch ends. -/
def finish (process : Aggregators Arg Res) (call batch position : Nat)
    (ended : Ending (Option (List Res))) :
    Aggregators Arg Res × List (AggregateEvent Arg Res) :=
  let executed := execute ended (process.batches batch).futures
  let settled := process.withBatch batch
    { process.batches batch with futures := executed.1 }
  match executed.2 with
  | .returned () =>
      ((settled.release batch).withCall call (.awaiting batch position),
        answers batch ended ++ [.released batch])
  | _ => (settled.withCall call .ended, [])

def step : Step (Aggregators Arg Res) (AggregateAction Arg Res)
    (AggregateEvent Arg Res)
  | process, .create aggregator maxCount =>
      match process.aggregators aggregator with
      | some _ => none
      | none =>
          if maxCount = some 0 then none
          else some (process.clear aggregator maxCount, [])
  | process, .aggregate call index arg =>
      match process.calls call, process.aggregators index with
      | .unused, some aggregator =>
          let batch := aggregator.batch
          let position := (process.batches batch).args.length
          let joined := process.join batch arg
          if some (position + 1) = aggregator.maxCount then
            let closed := (joined.signal (process.batches batch).event).clear
              index aggregator.maxCount
            let run := closed.proceed call batch position
            some (run.1, .joined call batch position arg :: run.2)
          else
            some (joined.withCall call (.waiting batch position
                (process.events.flag (process.batches batch).event)),
              [.joined call batch position arg])
      | _, _ => none
  | process, .wake call =>
      match process.calls call with
      | .waiting batch position true =>
          some (process.resume call batch position)
      | _ => none
  | process, .expire call =>
      match process.calls call with
      | .waiting batch position _ =>
          some (process.resume call batch position)
      | _ => none
  | process, .finish call ended =>
      match process.calls call with
      | .executing batch position =>
          some (process.finish call batch position ended)
      | _ => none
  | process, .receive call =>
      match process.calls call with
      | .awaiting batch position =>
          match (process.batches batch).futures[position]? with
          | some future =>
              if future.done then
                some (process.withCall call .ended,
                  [.received call future])
              else none
          | none => none
      | _ => none

end Aggregators

end Utils

end TinyChat
