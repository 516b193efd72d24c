import TinyChat.Lib.Custody
import TinyChat.Postgres.Pool

/-!
# No connection of the pool is lost

Every connection is in exactly one place: among the free ones, or with one
call that binds it, holds it, detaches it, or has got it as a waiter.
-/

namespace TinyChat

namespace Postgres

namespace ConnectionPool

/-- The connections that calls have to themselves. -/
def owned (pool : ConnectionPool) : Nat → Option Nat :=
  Call.conn ∘ pool.calls

/-- The connections below the capacity are in custody. -/
def Conserved (capacity : Nat) (pool : ConnectionPool) : Prop :=
  Custody.Placed (fun conn => conn ∈ List.range capacity) pool.free pool.owned

section

variable {capacity : Nat} {pool next : ConnectionPool} {call conn : Nat}
  {action : Action} {events : List Empty}

theorem owned_setCall (pool : ConnectionPool) (call : Nat) (state : Call) :
    (pool.setCall call state).owned =
      Function.update pool.owned call state.conn :=
  Function.comp_update _ _ _ _

theorem owned_of_call {state : Call} (calls : pool.calls call = state) :
    pool.owned call = state.conn := by
  rw [owned, Function.comp_apply, calls]

theorem Conserved.stay (conserved : Conserved capacity pool)
    {current state : Call} (calls : pool.calls call = current)
    (same : current.conn = state.conn) :
    Conserved capacity (pool.setCall call state) := by
  have owned := owned_of_call calls
  unfold Conserved
  rw [owned_setCall, ← same, ← owned, Function.update_eq_self]
  exact conserved

theorem conserved_initialized (capacity : Nat) :
    Conserved capacity (initialized capacity) :=
  Custody.placed_spare List.nodup_range

theorem Conserved.append (conserved : Conserved capacity pool)
    (held : pool.owned call = some conn) :
    Conserved capacity ((pool.append conn).setCall call .ended) := by
  unfold Conserved
  rw [owned_setCall]
  exact conserved.putBack held

theorem Conserved.rotate {free : List Nat}
    (conserved : Conserved capacity pool) (popped : pool.free = conn :: free)
    (idle : pool.calls call = .idle) :
    Conserved capacity
      (({ pool with free }.append conn).setCall call .ended) := by
  have rotated : Conserved capacity ({ pool with free }.append conn) := by
    unfold Conserved at conserved
    rw [popped] at conserved
    exact Custody.Placed.rotate conserved
  exact rotated.stay idle rfl

theorem Conserved.acquireFree {free : List Nat}
    (conserved : Conserved capacity pool) (popped : pool.free = conn :: free)
    (idle : pool.calls call = .idle) :
    Conserved capacity (pool.acquireFree call conn free) := by
  have empty := owned_of_call idle
  unfold ConnectionPool.acquireFree
  dsimp only
  split
  · exact conserved.rotate popped idle
  · unfold Conserved at conserved ⊢
    rw [popped] at conserved
    rw [owned_setCall]
    exact conserved.take empty

theorem Conserved.putBack (conserved : Conserved capacity pool)
    (held : pool.owned call = some conn) :
    Conserved capacity (pool.putBack call conn) := by
  have discarded : Conserved capacity (pool.discard conn) := conserved
  exact discarded.append held

theorem Conserved.detach (conserved : Conserved capacity pool)
    (held : pool.calls call = .held conn) :
    Conserved capacity (pool.detach call conn) := by
  unfold ConnectionPool.detach
  split
  · exact conserved.stay held rfl
  · exact conserved.putBack (owned_of_call held)

theorem waiting_of_popWaiter {waiters rest : List Nat} {waiter : Nat}
    (popped : pool.popWaiter waiters = some (waiter, rest)) :
    pool.calls waiter = .waiting := by
  induction waiters with
  | nil => cases popped
  | cons first waiters induction =>
      unfold popWaiter at popped
      split at popped
      · exact induction popped
      · rename_i pending
        cases popped
        unfold done at pending
        simpa using pending

theorem Conserved.release (conserved : Conserved capacity pool)
    (held : pool.calls call = .held conn) :
    Conserved capacity (pool.release call conn) := by
  unfold ConnectionPool.release
  split
  · exact conserved.detach held
  · split
    · have emptied : Conserved capacity { pool with waiters := [] } :=
        conserved
      exact emptied.detach held
    · rename_i waiter waiters popped
      have waits := owned_of_call (waiting_of_popWaiter popped)
      unfold Conserved
      rw [owned_setCall, owned_setCall]
      exact conserved.pass (owned_of_call held) waits

theorem Conserved.step (conserved : Conserved capacity pool)
    (stepped : step pool action = some (next, events)) :
    Conserved capacity next := by
  cases action with
  | acquire call =>
      simp only [ConnectionPool.step] at stepped
      split at stepped
      · rename_i idle
        split at stepped
        · cases stepped
          have queued : Conserved capacity
              { pool with waiters := pool.waiters ++ [call] } := conserved
          exact queued.stay idle rfl
        · rename_i conn free popped
          cases stepped
          exact conserved.acquireFree popped idle
      · cases stepped
  | circuitBroken call =>
      simp only [ConnectionPool.step] at stepped
      split at stepped
      · rename_i idle
        split at stepped
        · cases stepped
        · rename_i conn free popped
          cases stepped
          exact conserved.rotate popped idle
      · cases stepped
  | bind call =>
      simp only [ConnectionPool.step] at stepped
      split at stepped
      · rename_i conn binding
        cases stepped
        have used : Conserved capacity ({ pool with
            bound := Function.update pool.bound conn true }.use conn) :=
          conserved
        exact used.stay binding rfl
      · cases stepped
  | bindFails call =>
      simp only [ConnectionPool.step] at stepped
      split at stepped
      · rename_i conn binding
        cases stepped
        exact conserved.append (owned_of_call binding)
      · cases stepped
  | abandon call =>
      simp only [ConnectionPool.step] at stepped
      split at stepped
      · rename_i waiting
        cases stepped
        exact conserved.stay waiting rfl
      · cases stepped
  | resume call =>
      simp only [ConnectionPool.step] at stepped
      split at stepped
      · rename_i conn resolved
        cases stepped
        have used : Conserved capacity (pool.use conn) := conserved
        exact used.stay resolved rfl
      · cases stepped
  | release call =>
      simp only [ConnectionPool.step] at stepped
      split at stepped
      · rename_i conn held
        cases stepped
        exact conserved.release held
      · cases stepped
  | detached call =>
      simp only [ConnectionPool.step] at stepped
      split at stepped
      · rename_i conn detaching
        cases stepped
        exact conserved.putBack (owned_of_call detaching)
      · cases stepped

end

/-- Where a connection of an active pool may be. -/
inductive Place where
  | free (place : Nat)
  | held (call : Nat)
  | handed (call : Nat)
  | binding (call : Nat)
  | detaching (call : Nat)

def At (pool : ConnectionPool) (conn : Nat) : Place → Prop
  | .free place => pool.free[place]? = some conn
  | .held call => pool.calls call = .held conn
  | .handed call => pool.calls call = .resolved conn
  | .binding call => pool.calls call = .binding conn
  | .detaching call => pool.calls call = .detaching conn

/-- A free connection is spare, the others are with a call. -/
def Place.custody : Place → Custody.Place Nat
  | .free place => .spare place
  | .held call => .owner call
  | .handed call => .owner call
  | .binding call => .owner call
  | .detaching call => .owner call

section

variable {capacity : Nat} {pool : ConnectionPool} {conn : Nat}
  {place other : Place}

theorem At.custody (here : pool.At conn place) :
    Custody.At pool.free pool.owned conn place.custody := by
  cases place with
  | free place => exact here
  | held call => exact owned_of_call here
  | handed call => exact owned_of_call here
  | binding call => exact owned_of_call here
  | detaching call => exact owned_of_call here

theorem At.eq_of_custody (here : pool.At conn place)
    (there : pool.At conn other) (same : place.custody = other.custody) :
    place = other := by
  cases place <;> cases other <;> simp_all [At, Place.custody]

theorem exists_at {position : Custody.Place Nat}
    (here : Custody.At pool.free pool.owned conn position) :
    ∃ place, pool.At conn place := by
  cases position with
  | spare index => exact ⟨.free index, here⟩
  | owner call =>
      have held : (pool.calls call).conn = some conn := here
      cases calls : pool.calls call with
      | binding other =>
          rw [calls, Call.conn, Option.some.injEq] at held
          exact ⟨.binding call, by rw [At, calls, held]⟩
      | resolved other =>
          rw [calls, Call.conn, Option.some.injEq] at held
          exact ⟨.handed call, by rw [At, calls, held]⟩
      | held other =>
          rw [calls, Call.conn, Option.some.injEq] at held
          exact ⟨.held call, by rw [At, calls, held]⟩
      | detaching other =>
          rw [calls, Call.conn, Option.some.injEq] at held
          exact ⟨.detaching call, by rw [At, calls, held]⟩
      | _ =>
          rw [calls] at held
          cases held

theorem Conserved.unique (conserved : Conserved capacity pool)
    (created : conn < capacity) : ∃! place, pool.At conn place := by
  obtain ⟨position, here, only⟩ :=
    Custody.Placed.unique conserved (List.mem_range.mpr created)
  obtain ⟨place, found⟩ := exists_at here
  refine ⟨place, found, ?_⟩
  intro other there
  apply At.eq_of_custody there found
  rw [only _ there.custody, only _ found.custody]

theorem conserved_of_run {trace : List Empty}
    (run : Transition.AnyRun step (initialized capacity) trace pool) :
    Conserved capacity pool := by
  apply run.state_invariant (conserved_initialized capacity)
  intro events pool next action holds _ stepped
  exact holds.step stepped

/-- The connections of an active pool are conserved in every run. -/
theorem run_conserved {trace : List Empty}
    (run : Transition.AnyRun step (initialized capacity) trace pool)
    (created : conn < capacity) : ∃! place, pool.At conn place :=
  (conserved_of_run run).unique created

theorem run_conserved_handed : ∃ (pool : ConnectionPool),
    (∃! place, pool.At 0 place) ∧ pool.At 0 (.handed 2) := by
  have reached : ∃ trace pool, Transition.AnyRun step (initialized 1) trace
      pool ∧ pool.calls 2 = .resolved 0 := by
    apply Transition.Run.exists_state_of_exec
      [.acquire 0, .bind 0, .acquire 1, .acquire 2, .abandon 1, .release 0]
    decide +kernel
  obtain ⟨trace, pool, run, handed⟩ := reached
  exact ⟨pool, run_conserved run (by decide), handed⟩

end

end ConnectionPool

end Postgres

end TinyChat
