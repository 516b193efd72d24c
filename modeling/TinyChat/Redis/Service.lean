import Mathlib.Logic.Function.Basic
import TinyChat.Redis.Handlers
import TinyChat.Redis.Pool
import TinyChat.Utils.Aggregator

/-!
# Workers of the Redis service

The callers put tasks on two channels, which the consumers of the pool serve
in a loop.  A rebalance cancels a consumer and restarts it in the other loop
from a done-callback of its task; the service cancels its consumers when it
closes, and they drain the channels before they end.

An action is what a coroutine does between two awaits, or a part of it.
-/

namespace TinyChat

namespace Redis

open Transition

/-- `status & flag`. -/
def TaskStatus.has (status flag : TaskStatus) : Bool :=
  status.number &&& flag.number != 0

/-- Where the coroutine of a consumer is: not started, in the ping, waiting
for a task, in an executor, or draining the channel after a cancellation. -/
inductive Phase where
  | starting
  | pinging
  | idle
  | running (task : Nat)
  | sweeping
  | draining (task : Nat)
  | ended
  | crashed
  deriving DecidableEq

/-- A consumer with the asyncio task that runs one of the two loops, the
done-callbacks of this task, and the variables of the writer's loop.
`refused` tells that the rollback channel was full when the pending rollback
was put on it. -/
structure Consumer where
  status : TaskStatus := .initialized
  rebalanceTrap : Bool := false
  role : Role := .reader
  phase : Phase := .starting
  cancelling : Bool := false
  callbacks : List Role := []
  rollback : Option RedisTaskType := none
  taskData : Option Nat := none
  refused : Bool := false
  deriving DecidableEq

namespace Consumer

/-- The asyncio task is not done. -/
def live (consumer : Consumer) : Bool :=
  consumer.phase != .ended && consumer.phase != .crashed

/-- The test of the loop, and the next wait for a task. -/
def turn (consumer : Consumer) (closing : Bool) : Consumer :=
  if closing || consumer.rebalanceTrap then
    { consumer with phase := .ended }
  else { consumer with status := .idle, phase := .idle }

/-- `task.cancel()` if the status has a bit of the flag. -/
def cancel (consumer : Consumer) (flag : TaskStatus) : Consumer :=
  if consumer.status.has flag && consumer.live then
    { consumer with cancelling := true }
  else consumer

/-- A consumer that a rebalance moves to the deque of a role. -/
def redirect (consumer : Consumer) (role : Role) : Consumer :=
  { consumer.cancel .idle with
    rebalanceTrap := true
    callbacks := consumer.callbacks ++ [role] }

/-- The done-callbacks of a task.  If it has returned its consumer, the first
one that finds the trap restarts the consumer and resets the trap; if it has
crashed, `fut.result()` raises the exception in all of them. -/
def runCallbacks (consumer : Consumer) : Consumer :=
  match consumer.phase, consumer.callbacks with
  | .ended, role :: _ =>
      if consumer.rebalanceTrap then { status := .ready, role }
      else { consumer with callbacks := [] }
  | _, _ => { consumer with callbacks := [] }

/-- `task_type, task_data = task`, for a writer. -/
def load (consumer : Consumer) (task : Nat) : Consumer :=
  match consumer.role with
  | .reader => consumer
  | .writer => { consumer with taskData := some task, refused := false }

/-- `executor, rollback = handler`; a reader drops the rollback. -/
def setRollback (consumer : Consumer) (rollback : Option RedisTaskType) :
    Consumer :=
  match consumer.role with
  | .reader => consumer
  | .writer => { consumer with rollback, refused := false }

end Consumer

/-- Where a task is: with its caller, who waits for room in the channel, in
the channel, at a consumer, or at none any more. -/
inductive Place where
  | unused
  | putting
  | queued
  | taken (consumer : Nat)
  | left
  deriving DecidableEq

structure ServiceTask where
  role : Role := .reader
  taskType : RedisTaskType := .get
  waiter : Utils.Future Reply := .pending
  place : Place := .unused
  deriving DecidableEq

namespace ServiceTask

/-- `waiter.set_result(reply)`, unless the waiter is done. -/
def answer (task : ServiceTask) (reply : Reply) : ServiceTask :=
  { task with waiter := task.waiter.setResult reply, place := .left }

def leave (task : ServiceTask) : ServiceTask := { task with place := .left }

end ServiceTask

/-- The rollback that `_handlers` has for a type, as the type whose writes it
undoes; a type without an entry has none. -/
def rollbackEntry (taskType : RedisTaskType) :
    Option (Option RedisTaskType) :=
  let backend : Backend Unit := fun _ => raises
  (handlers backend taskType).map
    (fun handler => handler.2.map (fun _ => taskType))

structure ServiceConfig extends PoolConfig where
  readLimit : Nat := 1024
  writeLimit : Nat := 1024

namespace ServiceConfig

def limit (config : ServiceConfig) : Role → Nat
  | .reader => config.readLimit
  | .writer => config.writeLimit

end ServiceConfig

/-- `queue.full()`; a queue with `maxsize` 0 has no bound. -/
def full {α : Type} (maxsize : Nat) (queue : List α) : Bool :=
  0 < maxsize && maxsize ≤ queue.length

/-- An item of the rollback channel names the type whose rollback is called,
and the task whose data it is called with. -/
structure Service where
  closing : Bool := false
  pool : Pool := {}
  consumers : Nat → Consumer := fun _ => {}
  tasks : Nat → ServiceTask := fun _ => {}
  channel : Role → List Nat := fun _ => []
  rollbackChannel : List (RedisTaskType × Nat) := []

/-- What a consumer does between two awaits.  A coroutine starts, the ping
returns, or raises an exception that is not caught; a task is taken, while
the circuit breaker may be open; the executor returns or raises an exception;
a cancellation arrives; in the drain the next task is taken, and its executor
returns or raises an exception. -/
inductive Work where
  | start
  | pong
  | crash
  | take (broken : Bool)
  | complete (reply : Reply)
  | fail
  | deliver
  | drain
  | drainComplete (reply : Reply)
  | drainFail
  deriving DecidableEq

inductive ServiceEvent where
  | called (task : Nat) (taskType : RedisTaskType)
  | gaveUp (task : Nat)
  | taken (consumer task : Nat)
  | completed (task : Nat) (reply : Reply)
  | resolved (consumer task : Nat) (reply : Reply)
  | enqueued (taskType : RedisTaskType) (task : Nat)
  deriving DecidableEq

/-- What the work of a consumer changes: the consumer itself, its channel,
one task, and the rollback channel. -/
structure Effect where
  consumer : Consumer
  popped : Bool := false
  task : Option (Nat × ServiceTask) := none
  rollback : Option (RedisTaskType × Nat) := none
  events : List ServiceEvent := []

namespace Service

variable (config : ServiceConfig) (service : Service) (index : Nat)

/-- `spawn_reader_task(num)` and `spawn_writer_task(num)`. -/
def spawnTask (role : Role) (num : Nat) : Service :=
  { service with
    pool := service.pool.spawnTask role num
    consumers := fun index =>
      if service.pool.created ≤ index ∧ index < service.pool.created + num
      then { role }
      else service.consumers index }

/-- `put_nowait((rollback, task_data))`; `none` is an exception, because the
channel is full or `task_data` is unbound. -/
def putRollback (taskType : RedisTaskType) (taskData : Option Nat) :
    Option (RedisTaskType × Nat) :=
  if full config.writeLimit service.rollbackChannel then none
  else taskData.map (fun task => (taskType, task))

/-- The branches of a loop after `channel.get()` returned a task. -/
def took (broken : Bool) (number : Nat) : Effect :=
  let consumer := service.consumers index
  let task := service.tasks number
  if task.waiter.done then
    { consumer := consumer.turn service.closing
      popped := true
      task := some (number, task.leave) }
  else
    let loaded := { consumer.load number with status := .running }
    match broken, rollbackEntry task.taskType with
    | false, some rollback =>
        { consumer :=
            { loaded.setRollback rollback with phase := .running number }
          popped := true
          task := some (number, { task with place := .taken index })
          events := [.taken index number] }
    | _, _ =>
        { consumer := loaded.turn service.closing
          popped := true
          task := some (number, task.answer .absent)
          events :=
            [.taken index number, .resolved index number .absent] }

/-- The executor has returned a reply. -/
def completed (number : Nat) (reply : Reply) : Effect :=
  let consumer := service.consumers index
  let task := service.tasks number
  let event : ServiceEvent := .completed number reply
  if task.waiter.done then
    match consumer.rollback with
    | none =>
        { consumer := consumer.turn service.closing
          task := some (number, task.leave)
          events := [event] }
    | some taskType =>
        match service.putRollback config taskType consumer.taskData with
        | some item =>
            { consumer :=
                { consumer with rollback := none }.turn service.closing
              task := some (number, task.leave)
              rollback := some item
              events := [event, .enqueued item.1 item.2] }
        | none =>
            { consumer :=
                { consumer with refused := true }.turn service.closing
              task := some (number, task.leave)
              events := [event] }
  else
    { consumer := consumer.turn service.closing
      task := some (number, task.answer reply)
      events := [event, .resolved index number reply] }

/-- A task whose executor has raised an exception gets `None`. -/
def failed (consumer : Consumer) (number : Nat) : Effect :=
  let task := service.tasks number
  if task.waiter.done then
    { consumer, task := some (number, task.leave) }
  else
    { consumer
      task := some (number, task.answer .absent)
      events := [.resolved index number .absent] }

/-- The handler of the `CancelledError` in a loop, up to the drain. -/
def cancelled (task : Option (Nat × ServiceTask)) : Effect :=
  let consumer := { service.consumers index with cancelling := false }
  if consumer.rebalanceTrap || !service.closing then
    { consumer := { consumer with phase := .ended }, task }
  else
    match consumer.rollback with
    | none => { consumer := { consumer with phase := .sweeping }, task }
    | some taskType =>
        match service.putRollback config taskType consumer.taskData with
        | some item =>
            { consumer := { consumer with phase := .sweeping }
              task
              rollback := some item
              events := [.enqueued item.1 item.2] }
        | none =>
            { consumer := { consumer with phase := .crashed }, task }

/-- The next turn of the drain. -/
def drained : List Nat → Effect
  | [] =>
      { consumer := { service.consumers index with phase := .ended } }
  | number :: _ =>
      let consumer := service.consumers index
      let task := service.tasks number
      if task.waiter.done then
        { consumer, popped := true, task := some (number, task.leave) }
      else
        match rollbackEntry task.taskType with
        | none =>
            { consumer := { consumer with phase := .crashed }
              popped := true
              task := some (number, task.leave) }
        | some rollback =>
            { consumer :=
                { consumer.setRollback rollback with
                  phase := .draining number }
              popped := true
              task := some (number, { task with place := .taken index }) }

/-- The executor of a drained task has returned a reply. -/
def drainCompleted (number : Nat) (reply : Reply) : Effect :=
  let consumer := service.consumers index
  let task := service.tasks number
  let event : ServiceEvent := .completed number reply
  let sweeping := { consumer with phase := .sweeping }
  if task.waiter.done then
    match consumer.rollback with
    | none =>
        { consumer := sweeping
          task := some (number, task.leave)
          events := [event] }
    | some taskType =>
        match service.putRollback config taskType consumer.taskData with
        | some item =>
            { consumer := sweeping
              task := some (number, task.leave)
              rollback := some item
              events := [event, .enqueued item.1 item.2] }
        | none =>
            { consumer := { consumer with phase := .crashed }
              task := some (number, task.leave)
              events := [event] }
  else
    { consumer := sweeping
      task := some (number, task.answer reply)
      events := [event, .resolved index number reply] }

/-- The loops `reader` and `writer`, which differ in their channel and in
the rollback.  A cancelled coroutine goes on with the `CancelledError`. -/
def loop (work : Work) : Option Effect :=
  let consumer := service.consumers index
  match consumer.cancelling, consumer.phase, work with
  | false, .starting, .start =>
      if consumer.status = .initialized then
        some { consumer :=
          { consumer with status := .ready, phase := .pinging } }
      else some { consumer := consumer.turn service.closing }
  | false, .pinging, .pong =>
      some { consumer := consumer.turn service.closing }
  | false, .pinging, .crash =>
      some { consumer := { consumer with phase := .crashed } }
  | false, .idle, .take broken =>
      match service.channel consumer.role with
      | number :: _ => some (service.took index broken number)
      | [] => none
  | false, .running number, .complete reply =>
      some (service.completed config index number reply)
  | false, .running number, .fail =>
      some (service.failed index (consumer.turn service.closing) number)
  | true, .starting, .deliver | true, .pinging, .deliver =>
      some { consumer :=
        { consumer with cancelling := false, phase := .crashed } }
  | true, .idle, .deliver => some (service.cancelled config index none)
  | true, .running number, .deliver =>
      some (service.cancelled config index
        (some (number, (service.tasks number).leave)))
  | true, .draining number, .deliver =>
      some (service.failed index
        { consumer with cancelling := false, phase := .sweeping } number)
  | _, .sweeping, .drain =>
      some (service.drained index (service.channel consumer.role))
  | false, .draining number, .drainComplete reply =>
      some (service.drainCompleted config index number reply)
  | false, .draining number, .drainFail =>
      some (service.failed index { consumer with phase := .sweeping } number)
  | _, _, _ => none

/-- The service after the work of a consumer. -/
def apply (effect : Effect) : Service :=
  let role := (service.consumers index).role
  { service with
    consumers := Function.update service.consumers index effect.consumer
    tasks :=
      match effect.task with
      | some (number, task) => Function.update service.tasks number task
      | none => service.tasks
    channel :=
      if effect.popped then
        Function.update service.channel role (service.channel role).tail
      else service.channel
    rollbackChannel := service.rollbackChannel ++ effect.rollback.toList }

def status (index : Nat) : TaskStatus := (service.consumers index).status

/-- The service after a rebalance.  The deques are no attributes of a service
that is closing, so that it cannot spawn. -/
def rebalanced (pass : Pass) : Service :=
  let moved := { service with
    pool := pass.pool
    consumers := fun index =>
      if index ∈ pass.moved then
        (service.consumers index).redirect pass.role
      else service.consumers index }
  if service.closing then moved else moved.spawnTask pass.role pass.spawn

/-- `__aenter__`. -/
def aenter : Service :=
  let num := truncate (config.maxConnections * config.readerRatio)
  (({} : Service).spawnTask .reader (min num 1).toNat).spawnTask .writer
    (min (config.maxConnections - num) 2).toNat

/-- `__aexit__`, which cancels the consumers that are ready or idle. -/
def aexit : Service :=
  { service with
    closing := true
    consumers := fun index =>
      if index ∈ service.pool.consumers then
        (service.consumers index).cancel .ready
      else service.consumers index }

end Service

/-- A caller makes a task, puts it on a channel and gives up; a consumer
works, or its done-callbacks run; the monitor rebalances and spawns; the
rollback task takes an item; the service closes. -/
inductive ServiceAction where
  | call (task : Nat) (role : Role) (taskType : RedisTaskType)
  | put (task : Nat)
  | giveUp (task : Nat)
  | work (consumer : Nat) (work : Work)
  | callback (consumer : Nat)
  | rebalance (sample : Sample)
  | spawn (role : Role) (num : Nat)
  | undo
  | close

/-- A caller that gives up before the task is on the channel withdraws it. -/
def ServiceTask.giveUp (task : ServiceTask) : Option ServiceTask :=
  match task.place, task.waiter with
  | .unused, _ => none
  | .putting, _ => some task.leave
  | _, .pending => some { task with waiter := .cancelled }
  | _, _ => none

/-- The runs of the service. -/
def serve (config : ServiceConfig) :
    Transition.Step Service ServiceAction ServiceEvent
  | service, .call task role taskType =>
      if service.closing = false ∧ (service.tasks task).place = .unused then
        some ({ service with
          tasks := Function.update service.tasks task
            { role, taskType, place := .putting } },
          [.called task taskType])
      else none
  | service, .put task =>
      let put := service.tasks task
      let queue := service.channel put.role
      if put.place = .putting ∧ full (config.limit put.role) queue = false
      then
        some ({ service with
          tasks := Function.update service.tasks task
            { put with place := .queued }
          channel := Function.update service.channel put.role
            (queue ++ [task]) }, [])
      else none
  | service, .giveUp task =>
      (service.tasks task).giveUp.map (fun left =>
        ({ service with tasks := Function.update service.tasks task left },
          [.gaveUp task]))
  | service, .work index work =>
      if index < service.pool.created then
        (service.loop config index work).map (fun effect =>
          (service.apply index effect, effect.events))
      else none
  | service, .callback index =>
      let consumer := service.consumers index
      if consumer.live = false ∧ consumer.callbacks ≠ [] then
        some ({ service with
          consumers := Function.update service.consumers index
            consumer.runCallbacks }, [])
      else none
  | service, .rebalance sample =>
      (maybeRebalance config.totalConnections service.status sample
        service.pool).map (fun pass => (service.rebalanced pass, []))
  | service, .spawn role num =>
      if service.closing then none
      else some (service.spawnTask role num, [])
  | service, .undo =>
      match service.rollbackChannel with
      | [] => none
      | _ :: items => some ({ service with rollbackChannel := items }, [])
  | service, .close =>
      if service.closing then none else some (service.aexit, [])

end Redis

end TinyChat
