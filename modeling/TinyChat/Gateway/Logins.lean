import Mathlib.Logic.Function.Basic
import TinyChat.Lib.Transition
import TinyChat.Redis.Task

/-!
# The logins of one device over all gateways

Every login of a user and device runs `websocket_endpoint` on some gateway:
it takes the login lock, looks for a session of its key in its own process
and then in Redis, kicks that session off if its client agrees, announces
its own gateway in Redis, releases the lock, and only then creates its
reader.  The endpoints, the handlers of kicks and the commands that Redis
executes interleave; each section between two suspension points is one step.

A server shutdown takes the branches that a failure takes, so it needs no
step of its own.
-/

namespace TinyChat

namespace Gateway

open Redis

/-- Why a reader ended.  All exceptions but a disconnection, the normal end
and a shutdown have in common that the endpoint closes the websocket before
it looks at the state of its session. -/
inductive EndCause where
  | disconnected
  | failed
  | kicked
  deriving DecidableEq

/-- Where the endpoint of a login is.  It holds the lock from `upgrading` to
`taking`; `asking` and `askingHere` are the two calls of
`negotiate_kick_off`. -/
inductive LoginPhase where
  | absent
  | upgrading
  | checking
  | asking
  | pushing
  | kicking (addr : Nat)
  | acked
  | activating
  | greeting
  | withdrawing
  | askingHere
  | waiting
  | taking
  | leaving (success : Bool)
  | reading
  | ended (cause : EndCause)
  | closing (cause : EndCause)
  | deactivating
  | returned
  deriving DecidableEq

namespace LoginPhase

/-- The body of `async with lock_session`. -/
def inBody : LoginPhase → Bool
  | .upgrading | .checking | .asking | .pushing | .kicking _ | .acked
  | .activating | .greeting | .withdrawing | .askingHere | .waiting
  | .taking => true
  | _ => false

/-- The session of the login is in `_sessions`. -/
def registered : LoginPhase → Bool
  | .checking | .asking | .pushing | .kicking _ | .acked | .activating
  | .greeting | .taking | .leaving true | .reading | .ended _ => true
  | _ => false

/-- The reader of the login is in `_tasks`. -/
def hasTask : LoginPhase → Bool
  | .reading | .ended _ => true
  | _ => false

/-- The login has left the body, and it has no session and will have
none. -/
def gone : LoginPhase → Bool
  | .leaving false | .closing _ | .deactivating | .returned => true
  | _ => false

end LoginPhase

/-- The commands of a login on the field of its device: the `HSET` of
`activate`, the `HDEL` of `deactivate` and its repetition. -/
inductive FieldCommand where
  | hset
  | hdel
  | retry
  deriving DecidableEq

/-- A login, with the event of a kick that is on its way to a gateway.  The
model remembers the session that the login found and had to kick off, whether
its kick has cancelled a reader, and whether it has succeeded. -/
structure Login where
  gateway : Nat := 0
  phase : LoginPhase := .absent
  kick : Option Nat := none
  hset : Option RedisTask := none
  hdel : Option RedisTask := none
  retry : Option RedisTask := none
  rolledBack : Bool := false
  former : Option Nat := none
  kicked : Bool := false
  completed : Bool := false

/-- What a gateway keeps under the session key: the login whose session is
registered, the one whose reader is in the task table and whether it was
cancelled, and the future of `wait_for_recycle`. -/
structure GatewayTables where
  session : Option Nat := none
  task : Option Nat := none
  cancelled : Bool := false
  waiter : Option (Nat × Bool) := none

namespace GatewayTables

/-- `recycle_session` also resolves the future of the one who waits. -/
def recycle (tables : GatewayTables) : GatewayTables :=
  match tables.session with
  | none => tables
  | some _ =>
      { tables with
        session := none
        waiter := tables.waiter.map (fun waiting => (waiting.1, true)) }

/-- `retrieve_session` -/
def retrieve (tables : GatewayTables) : GatewayTables :=
  { tables with session := none }

/-- `task_manager.cancel` and the entry into `wait_for_recycle`. -/
def cancelAndWait (tables : GatewayTables) (index : Nat) : GatewayTables :=
  { tables with
    cancelled := tables.cancelled || tables.task.isSome
    waiter := some (index, false) }

end GatewayTables

/-- The steps of an endpoint that change nothing but the login. -/
inductive LoginMove where
  | confirm
  | activate
  | activated
  | greeted
  | withdrawn
  | taken
  | quit
  | close (closed : Bool)
  | deactivated
  | task (command : FieldCommand) (move : TaskMove)
  deriving DecidableEq

namespace Login

def task (login : Login) : FieldCommand → Option RedisTask
  | .hset => login.hset
  | .hdel => login.hdel
  | .retry => login.retry

def withTask (login : Login) (task : RedisTask) : FieldCommand → Login
  | .hset => { login with hset := some task }
  | .hdel => { login with hdel := some task }
  | .retry => { login with retry := some task }

/-- `activate` is told that the `HSET` succeeded. -/
def stored (login : Login) : Bool :=
  match login.hset with
  | some { waiter := .result (some _), .. } => true
  | _ => false

/-- `activate` has to wait.  While the `HSET` is still in the write channel,
`redis_write` may return because the channel was blocked for too long. -/
def storing (login : Login) : Bool :=
  match login.hset with
  | some { stage := .queued, .. } => false
  | some { waiter := .pending, .. } => true
  | _ => false

/-- `deactivate` goes on with the outcome of its first `HDEL`. -/
def deactivate (login : Login) (next : LoginPhase) : Option Login :=
  match login.hdel with
  | none => none
  | some task =>
      match task.stage, task.waiter with
      | _, .result (some _) => some { login with phase := next }
      | _, .result none | _, .cancelled | .queued, .pending =>
          some { login with phase := next, retry := some {} }
      | _, .pending => none

/-- The `finally` of the endpoint.  The state of the session may by now be
the state of another connection that uses the session object; only after a
disconnection it is read before anything else can happen. -/
def close (login : Login) (closed : Bool) : Option Login :=
  match login.phase with
  | .closing cause =>
      if closed then
        some { login with phase := .deactivating, hdel := some {} }
      else if cause = .disconnected then none
      else some { login with phase := .returned }
  | _ => none

def move (login : Login) : LoginMove → Option Login
  | .confirm =>
      match login.phase with
      | .asking => some { login with phase := .pushing }
      | _ => none
  | .activate =>
      match login.phase with
      | .acked => some { login with phase := .activating, hset := some {} }
      | _ => none
  | .activated =>
      match login.phase with
      | .activating =>
          if login.stored then some { login with phase := .greeting }
          else none
      | _ => none
  | .greeted =>
      match login.phase with
      | .greeting =>
          some { login with phase := .leaving true, completed := true }
      | _ => none
  | .withdrawn =>
      match login.phase with
      | .withdrawing => login.deactivate (.leaving false)
      | _ => none
  | .taken =>
      match login.phase with
      | .taking =>
          some { login with phase := .leaving true, completed := true }
      | _ => none
  | .quit =>
      match login.phase with
      | .leaving false => some { login with phase := .returned }
      | _ => none
  | .close closed => login.close closed
  | .deactivated =>
      match login.phase with
      | .deactivating => login.deactivate .returned
      | _ => none
  | .task command move =>
      match login.task command with
      | none => none
      | some task =>
          (task.move move).map (fun next => login.withTask next command)

end Login

/-- The lock and the field of the device in Redis, the gateways and the
logins.  The field holds an address; the model remembers for which login. -/
structure Logins where
  lock : Option Nat := none
  field : Option Nat := none
  owner : Option Nat := none
  gateways : Nat → GatewayTables := fun _ => {}
  logins : Nat → Login := fun _ => {}

/-- Besides the moves of an endpoint: it gets the lock, a `DEL` that does not
belong to the holder is executed, the upgrade succeeds, the login fails, the
`HGET` of `check_multi_devices` is executed, the client agrees to kick off a
session of the same process, the push service looks the address up, the
event of a kick is handled, the one who waits is told of the recycling, the
first message to the client is lost, a command or a rollback is executed, the
`DEL` of the holder is executed, the reader is created, ends and has its
callbacks called, and a future of `wait_for_recycle` is given up. -/
inductive LoginsAction where
  | begin (index gateway : Nat)
  | deleteLock
  | upgraded (index : Nat)
  | fail (index : Nat)
  | checked (index : Nat)
  | kickHere (index : Nat)
  | lookup (index : Nat)
  | kick (index : Nat)
  | recycled (index : Nat)
  | unsent (index : Nat)
  | move (index : Nat) (move : LoginMove)
  | execute (index : Nat) (command : FieldCommand)
  | rollback (index : Nat)
  | release (index : Nat)
  | start (index : Nat)
  | finish (index : Nat) (cause : EndCause)
  | callbacks (index : Nat)
  | expire (gateway : Nat)
  deriving DecidableEq

namespace Logins

def withLogin (system : Logins) (index : Nat) (login : Login) : Logins :=
  { system with logins := Function.update system.logins index login }

def withTables (system : Logins) (gateway : Nat) (tables : GatewayTables) :
    Logins :=
  { system with gateways := Function.update system.gateways gateway tables }

/-- The tables of the gateway of a login. -/
def tablesOf (system : Logins) (index : Nat) : GatewayTables :=
  system.gateways (system.logins index).gateway

/-- A login goes on, and the tables of its gateway change. -/
def advance (system : Logins) (index : Nat) (login : Login)
    (tables : GatewayTables) : Logins :=
  (system.withLogin index login).withTables
    (system.logins index).gateway tables

/-- The task under the session key of a gateway is a reader that runs. -/
def runs (system : Logins) (gateway : Nat) : Bool :=
  match (system.gateways gateway).task with
  | none => false
  | some reader => (system.logins reader).phase = .reading

def begin (system : Logins) (index gateway : Nat) : Option Logins :=
  if (system.logins index).phase = .absent ∧ system.lock = none then
    some { system.withLogin index
        { gateway := gateway, phase := .upgrading } with
      lock := some index }
  else none

def upgraded (system : Logins) (index : Nat) : Option Logins :=
  let login := system.logins index
  let tables := system.tablesOf index
  match login.phase, tables.session with
  | .upgrading, none =>
      some (system.advance index { login with phase := .checking }
        { tables with session := some index })
  | .upgrading, some other =>
      some (system.withLogin index
        { login with phase := .askingHere, former := some other })
  | _, _ => none

/-- The branches that return before the login is complete; `activate` has to
have returned. -/
def fail (system : Logins) (index : Nat) : Option Logins :=
  let login := system.logins index
  let tables := system.tablesOf index
  let left := { login with phase := .leaving false }
  match login.phase with
  | .upgrading | .askingHere => some (system.withLogin index left)
  | .waiting =>
      some (system.advance index left { tables with waiter := none })
  | .checking | .asking | .pushing | .kicking _ | .acked =>
      some (system.advance index left tables.recycle)
  | .activating =>
      if login.storing then none
      else some (system.advance index left tables.recycle)
  | .taking => some (system.advance index left tables.retrieve)
  | _ => none

/-- Only whether there is an address matters to `check_multi_devices`. -/
def checked (system : Logins) (index : Nat) : Option Logins :=
  let login := system.logins index
  match login.phase, system.field with
  | .checking, none =>
      some (system.withLogin index
        { login with phase := .activating, hset := some {} })
  | .checking, some addr =>
      some (system.withLogin index
        { login with
          phase := .asking
          former :=
            (system.gateways addr).session.filter (fun other =>
              other ≠ index) })
  | _, _ => none

def kickHere (system : Logins) (index : Nat) : Option Logins :=
  let login := system.logins index
  let tables := system.tablesOf index
  match login.phase, tables.session with
  | .askingHere, none =>
      some (system.withLogin index { login with phase := .leaving false })
  | .askingHere, some _ =>
      some (system.advance index
        { login with
          phase := .waiting
          kicked := login.kicked || system.runs login.gateway }
        (tables.cancelAndWait index))
  | _, _ => none

/-- The push service reads the address; it reports success if there is
none. -/
def lookup (system : Logins) (index : Nat) : Option Logins :=
  let login := system.logins index
  match login.phase, system.field with
  | .pushing, none =>
      some (system.withLogin index { login with phase := .acked })
  | .pushing, some addr =>
      some (system.withLogin index
        { login with phase := .kicking addr, kick := some addr })
  | _, _ => none

/-- `_user_kicked_off_handler`; without a task it acknowledges at once.  The
login may have given up by then. -/
def kick (system : Logins) (index : Nat) : Option Logins :=
  let login := { system.logins index with kick := none }
  match (system.logins index).kick with
  | none => none
  | some addr =>
      let tables := system.gateways addr
      match tables.task, tables.session with
      | none, _ =>
          some (system.withLogin index
            (if login.phase = .kicking addr then
              { login with phase := .acked }
            else login))
      | some _, none => some (system.withLogin index login)
      | some _, some _ =>
          some ((system.withLogin index
            { login with
              kicked := login.kicked || system.runs addr }).withTables addr
                (tables.cancelAndWait index))

/-- `reuse_session` in the same process, or the acknowledgement from
another gateway. -/
def recycled (system : Logins) (index : Nat) : Option Logins :=
  let login := system.logins index
  match login.phase with
  | .waiting =>
      let tables := system.tablesOf index
      if tables.waiter = some (index, true) then
        some { system.advance index { login with phase := .taking }
            { tables with session := some index, waiter := none } with
          owner := some index }
      else none
  | .kicking addr =>
      let tables := system.gateways addr
      if tables.waiter = some (index, true) then
        some ((system.withLogin index { login with phase := .acked }).withTables
          addr { tables with waiter := none })
      else none
  | _ => none

/-- The exception of the first message that is sent to a client. -/
def unsent (system : Logins) (index : Nat) : Option Logins :=
  let login := system.logins index
  match login.phase with
  | .greeting =>
      some (system.advance index
        { login with phase := .withdrawing, hdel := some {} }
        (system.tablesOf index).recycle)
  | _ => none

/-- Redis executes a command; its reply is the number of fields that were
added or removed. -/
def execute (system : Logins) (index : Nat) (command : FieldCommand) :
    Option Logins :=
  let login := system.logins index
  match login.task command with
  | none => none
  | some task =>
      match command with
      | .hset =>
          (task.execute system.field.isNone).map (fun next =>
            { system.withLogin index (login.withTask next command) with
              field := some login.gateway
              owner := some index })
      | _ =>
          (task.execute system.field.isSome).map (fun next =>
            { system.withLogin index (login.withTask next command) with
              field := none
              owner := none })

/-- An `HSET` was executed for a caller that had given up. -/
def rollbackOwed (login : Login) : Bool :=
  match login.hset with
  | some { stage := .executed _, waiter := .cancelled } => !login.rolledBack
  | _ => false

/-- `redis_hset_rollback` -/
def rollback (system : Logins) (index : Nat) : Option Logins :=
  let login := system.logins index
  if rollbackOwed login then
    some { system.withLogin index { login with rolledBack := true } with
      field := none
      owner := none }
  else none

def release (system : Logins) (index : Nat) : Option Logins :=
  let phase := (system.logins index).phase
  if system.lock = some index ∧ phase.inBody = false then
    some { system with lock := none }
  else none

def start (system : Logins) (index : Nat) : Option Logins :=
  let login := system.logins index
  match login.phase with
  | .leaving true =>
      some (system.advance index { login with phase := .reading }
        { system.tablesOf index with task := some index, cancelled := false })
  | _ => none

/-- A reader that was cancelled ends with `CancelledError`. -/
def finish (system : Logins) (index : Nat) (cause : EndCause) :
    Option Logins :=
  let login := system.logins index
  match login.phase with
  | .reading =>
      if (system.tablesOf index).cancelled = decide (cause = .kicked) then
        some (system.withLogin index { login with phase := .ended cause })
      else none
  | _ => none

/-- The callbacks of a reader that has ended. -/
def callbacks (system : Logins) (index : Nat) : Option Logins :=
  let login := system.logins index
  match login.phase with
  | .ended cause =>
      some (system.advance index { login with phase := .closing cause }
        { (system.tablesOf index).recycle with task := none })
  | _ => none

def expire (system : Logins) (gateway : Nat) : Logins :=
  system.withTables gateway
    { system.gateways gateway with waiter := none }

def next (system : Logins) : LoginsAction → Option Logins
  | .begin index gateway => system.begin index gateway
  | .deleteLock => some { system with lock := none }
  | .upgraded index => system.upgraded index
  | .fail index => system.fail index
  | .checked index => system.checked index
  | .kickHere index => system.kickHere index
  | .lookup index => system.lookup index
  | .kick index => system.kick index
  | .recycled index => system.recycled index
  | .unsent index => system.unsent index
  | .move index move =>
      ((system.logins index).move move).map (system.withLogin index)
  | .execute index command => system.execute index command
  | .rollback index => system.rollback index
  | .release index => system.release index
  | .start index => system.start index
  | .finish index cause => system.finish index cause
  | .callbacks index => system.callbacks index
  | .expire gateway => some (system.expire gateway)

def step : Transition.Step Logins LoginsAction Empty
  | system, action => (system.next action).map (fun next => (next, []))

end Logins

end Gateway

end TinyChat
