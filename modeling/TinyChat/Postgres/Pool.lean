import Mathlib.Data.List.Range
import Mathlib.Logic.Function.Basic
import TinyChat.Lib.Transition

/-!
# The pool of connections to postgres

A call acquires a connection from the free ones and binds it, or waits for
one that another call releases.  A connection that is released goes to the
first waiter that still waits; if there is none, it is detached and free
again.
-/

namespace TinyChat

namespace Postgres

/-- What a call is doing, with its connection; a call that waits has a future
of its own, which may get a connection before the call resumes. -/
inductive Call where
  | idle
  | binding (conn : Nat)
  | waiting
  | resolved (conn : Nat)
  | held (conn : Nat)
  | detaching (conn : Nat)
  | ended
  deriving DecidableEq

/-- The connection that a call has to itself. -/
def Call.conn : Call → Option Nat
  | .binding conn => some conn
  | .resolved conn => some conn
  | .held conn => some conn
  | .detaching conn => some conn
  | _ => none

/-- An active pool, and whether a connection has one of the backend. -/
structure ConnectionPool where
  free : List Nat
  used : List Nat := []
  waiters : List Nat := []
  bound : Nat → Bool := fun _ => false
  calls : Nat → Call := fun _ => .idle

/-- The outside decides whether the circuit breaker refuses a call, how a bind
ends, and when a waiter times out or is cancelled. -/
inductive Action where
  | acquire (call : Nat)
  | circuitBroken (call : Nat)
  | bind (call : Nat)
  | bindFails (call : Nat)
  | abandon (call : Nat)
  | resume (call : Nat)
  | release (call : Nat)
  | detached (call : Nat)
  deriving DecidableEq

namespace ConnectionPool

/-- The connections that `initialize` creates. -/
def initialized (capacity : Nat) : ConnectionPool where
  free := List.range capacity

/-- The future of a call is done. -/
def done (pool : ConnectionPool) (waiter : Nat) : Bool :=
  pool.calls waiter ≠ .waiting

def setCall (pool : ConnectionPool) (call : Nat) (state : Call) :
    ConnectionPool :=
  { pool with calls := Function.update pool.calls call state }

/-- `_free.append(conn)`. -/
def append (pool : ConnectionPool) (conn : Nat) : ConnectionPool :=
  { pool with free := pool.free ++ [conn] }

/-- `_used.add(conn)`. -/
def use (pool : ConnectionPool) (conn : Nat) : ConnectionPool :=
  { pool with used := pool.used.insert conn }

/-- `_used.discard(conn)`. -/
def discard (pool : ConnectionPool) (conn : Nat) : ConnectionPool :=
  { pool with used := pool.used.filter (fun other => other ≠ conn) }

/-- The end of a release whose connection is detached. -/
def putBack (pool : ConnectionPool) (call conn : Nat) : ConnectionPool :=
  ((pool.discard conn).append conn).setCall call .ended

/-- A connection is popped and bound; one that is bound already is put back at
once. -/
def acquireFree (pool : ConnectionPool) (call conn : Nat)
    (free : List Nat) : ConnectionPool :=
  let popped := { pool with free }
  if pool.bound conn then (popped.append conn).setCall call .ended
  else popped.setCall call (.binding conn)

/-- The waiters are popped until one is not done; `none` is an
`IndexError`. -/
def popWaiter (pool : ConnectionPool) : List Nat → Option (Nat × List Nat)
  | [] => none
  | waiter :: waiters =>
      if pool.done waiter then pool.popWaiter waiters
      else some (waiter, waiters)

/-- `detach` has no connection of the backend to wait for if there is
none. -/
def detach (pool : ConnectionPool) (call conn : Nat) : ConnectionPool :=
  if pool.bound conn then
    { pool.setCall call (.detaching conn) with
      bound := Function.update pool.bound conn false }
  else pool.putBack call conn

def release (pool : ConnectionPool) (call conn : Nat) : ConnectionPool :=
  if pool.waiters.isEmpty then pool.detach call conn
  else
    match pool.popWaiter pool.waiters with
    | none => { pool with waiters := [] }.detach call conn
    | some (waiter, waiters) =>
        ({ pool with waiters }.setCall call .ended).setCall waiter
          (.resolved conn)

def step : Transition.Step ConnectionPool Action Empty
  | pool, .acquire call =>
      if pool.calls call = .idle then
        match pool.free with
        | [] => some ({ pool with waiters := pool.waiters ++ [call] }.setCall
            call .waiting, [])
        | conn :: free => some (pool.acquireFree call conn free, [])
      else none
  | pool, .circuitBroken call =>
      if pool.calls call = .idle then
        match pool.free with
        | [] => none
        | conn :: free =>
            some (({ pool with free }.append conn).setCall call .ended, [])
      else none
  | pool, .bind call =>
      match pool.calls call with
      | .binding conn =>
          some (({ pool with
            bound := Function.update pool.bound conn true }.use
              conn).setCall call (.held conn), [])
      | _ => none
  | pool, .bindFails call =>
      match pool.calls call with
      | .binding conn => some ((pool.append conn).setCall call .ended, [])
      | _ => none
  | pool, .abandon call =>
      if pool.calls call = .waiting then
        some (pool.setCall call .ended, [])
      else none
  | pool, .resume call =>
      match pool.calls call with
      | .resolved conn =>
          some ((pool.use conn).setCall call (.held conn), [])
      | _ => none
  | pool, .release call =>
      match pool.calls call with
      | .held conn => some (pool.release call conn, [])
      | _ => none
  | pool, .detached call =>
      match pool.calls call with
      | .detaching conn => some (pool.putBack call conn, [])
      | _ => none

end ConnectionPool

end Postgres

end TinyChat
