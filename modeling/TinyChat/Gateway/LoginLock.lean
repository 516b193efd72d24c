import Mathlib.Logic.Function.Basic
import TinyChat.Lib.Transition
import TinyChat.Redis.Task

/-!
# The login lock of a session key

`lock_session` takes a lock in Redis with `SETNX`, runs the body of the
handshake and removes the lock with `DEL`; if it is told that the `DEL`
failed, a detached task tries once more.  The handshakes of one session key
run on any number of gateways and share the lock.
-/

namespace TinyChat

namespace Gateway

open Redis

/-- Where a handshake is.  It is `inside` while it runs the branch for a
lock that it has got, and `refused` while it runs the other two. -/
inductive LockPhase where
  | absent
  | acquiring
  | inside
  | refused
  | releasing
  | finished
  deriving DecidableEq

structure Handshake where
  phase : LockPhase := .absent
  setnx : RedisTask := {}
  delete : Option RedisTask := none
  retry : Option RedisTask := none

/-- The commands of a handshake. -/
inductive LockCommand where
  | setnx
  | delete
  | retry
  deriving DecidableEq

/-- What happens to a handshake: it enters `lock_session`, one of its tasks
moves, the call that it awaits returns, a call returns at once because the
channel was blocked for too long, the handshake is cancelled while it waits,
or its body ends. -/
inductive HandshakeMove where
  | enter
  | task (command : LockCommand) (move : TaskMove)
  | proceed
  | block
  | cancel
  | leave

namespace Handshake

def task (handshake : Handshake) : LockCommand → Option RedisTask
  | .setnx =>
      if handshake.phase = .absent then none else some handshake.setnx
  | .delete => handshake.delete
  | .retry => handshake.retry

def withTask (handshake : Handshake) (task : RedisTask) :
    LockCommand → Handshake
  | .setnx => { handshake with setnx := task }
  | .delete => { handshake with delete := some task }
  | .retry => { handshake with retry := some task }

/-- The handshake goes on with the first item that `redis_setnx` returned. -/
def locked (handshake : Handshake) (success : Option Bool) : Handshake :=
  { handshake with
    phase := if success = some true then .inside else .refused }

/-- The handshake goes on with the status that `redis_delete` returned. -/
def released (handshake : Handshake) (success : Bool) : Handshake :=
  { handshake with
    phase := .finished
    retry := if success then none else some {} }

def proceed (handshake : Handshake) : Option Handshake :=
  match handshake.phase with
  | .acquiring =>
      match handshake.setnx.waiter with
      | .pending => none
      | .result data => some (handshake.locked data)
      | .cancelled => some (handshake.locked none)
  | .releasing =>
      match handshake.delete with
      | none => none
      | some task =>
          match task.waiter with
          | .pending => none
          | .result data => some (handshake.released data.isSome)
          | .cancelled => some (handshake.released false)
  | _ => none

/-- `redis_write` returns `None` right after it has put the task. -/
def block (handshake : Handshake) : Option Handshake :=
  match handshake.phase with
  | .acquiring =>
      if handshake.setnx = {} then some (handshake.locked none) else none
  | .releasing =>
      if handshake.delete = some {} then some (handshake.released false)
      else none
  | _ => none

def cancel (handshake : Handshake) : Option Handshake :=
  match handshake.phase with
  | .acquiring =>
      some { handshake with
        phase := .finished
        setnx := { handshake.setnx with waiter := .cancelled } }
  | .releasing => some { handshake with phase := .finished }
  | _ => none

def leave (handshake : Handshake) : Option Handshake :=
  match handshake.phase with
  | .inside =>
      some { handshake with phase := .releasing, delete := some {} }
  | .refused => some { handshake with phase := .finished }
  | _ => none

def advance (handshake : Handshake) : HandshakeMove → Option Handshake
  | .enter =>
      if handshake.phase = .absent then
        some { handshake with phase := .acquiring, setnx := {} }
      else none
  | .task command move =>
      match handshake.task command with
      | none => none
      | some task =>
          (task.move move).map (fun next => handshake.withTask next command)
  | .proceed => handshake.proceed
  | .block => handshake.block
  | .cancel => handshake.cancel
  | .leave => handshake.leave

end Handshake

/-- The lock in Redis and all handshakes.  The key has always the same value;
the model remembers which handshake stored it. -/
structure LoginLock where
  owner : Option Nat := none
  handshakes : Nat → Handshake := fun _ => {}

inductive LockAction where
  | advance (index : Nat) (move : HandshakeMove)
  | execute (index : Nat) (command : LockCommand)

namespace LoginLock

def withHandshake (lock : LoginLock) (index : Nat) (handshake : Handshake) :
    LoginLock :=
  { lock with
    handshakes := Function.update lock.handshakes index handshake }

/-- The reply of a command, and the lock after it. -/
def run (owner : Option Nat) (index : Nat) :
    LockCommand → Bool × Option Nat
  | .setnx =>
      match owner with
      | none => (true, some index)
      | some other => (false, some other)
  | .delete => (owner.isSome, none)
  | .retry => (owner.isSome, none)

def execute (lock : LoginLock) (index : Nat) (command : LockCommand) :
    Option LoginLock :=
  let handshake := lock.handshakes index
  match handshake.task command with
  | none => none
  | some task =>
      let (reply, owner) := run lock.owner index command
      (task.execute reply).map (fun next =>
        { lock.withHandshake index (handshake.withTask next command) with
          owner := owner })

def step : Transition.Step LoginLock LockAction Empty
  | lock, .advance index move =>
      ((lock.handshakes index).advance move).map (fun next =>
        (lock.withHandshake index next, []))
  | lock, .execute index command =>
      (lock.execute index command).map (fun next => (next, []))

end LoginLock

end Gateway

end TinyChat
