import TinyChat.Postgres.PoolCustody

/-!
# Waiters of the pool that are not woken up

A call should not wait while a connection is free.  A release looks for
waiters before it detaches the connection and not after it, and a bind that
fails does not look for them at all.
-/

namespace TinyChat

namespace Postgres

/-- The future of a call is pending. -/
def Call.waits : Call → Bool
  | .waiting => true
  | _ => false

theorem Call.ne_waiting {state : Call} (other : state.waits = false) :
    state ≠ .waiting := by
  intro same
  rw [same] at other
  cases other

namespace ConnectionPool

/-- No acquire is inside `bind` and no release inside `detach`. -/
def Quiet (pool : ConnectionPool) : Prop :=
  ∀ call conn, pool.calls call ≠ .binding conn ∧
    pool.calls call ≠ .detaching conn

/-- A future in the queue of the waiters is not done. -/
def pending (pool : ConnectionPool) : Bool :=
  pool.waiters.any (fun waiter => !pool.done waiter)

/-- A connection is free while a waiter still waits. -/
def lost (pool : ConnectionPool) : Bool :=
  !pool.free.isEmpty && pool.pending

/-- A connection is only put back while no waiter waits. -/
def wakes (pool : ConnectionPool) : Action → Bool
  | .bindFails _ => !pool.pending
  | .detached _ => !pool.pending
  | _ => true

section

variable {capacity : Nat} {pool next : ConnectionPool} {call conn : Nat}
  {action : Action} {events : List Empty}

theorem pending_iff : pool.pending = true ↔
    ∃ waiter ∈ pool.waiters, pool.calls waiter = .waiting := by
  simp [pending, done]

theorem lost_iff : pool.lost = true ↔
    pool.free ≠ [] ∧ pool.pending = true := by
  simp [lost]

theorem pending_setCall {state : Call}
    (waits : (pool.setCall call state).pending = true)
    (other : state.waits = false) :
    pool.pending = true := by
  obtain ⟨waiter, member, waiting⟩ := pending_iff.mp waits
  refine pending_iff.mpr ⟨waiter, member, ?_⟩
  unfold setCall at waiting
  dsimp only at waiting
  rw [Function.update_apply] at waiting
  split at waiting
  · exact absurd waiting (Call.ne_waiting other)
  · exact waiting

theorem lost_setCall {state : Call} (other : state.waits = false)
    (kept : pool.lost ≠ true) : (pool.setCall call state).lost ≠ true := by
  intro lost
  obtain ⟨free, waits⟩ := lost_iff.mp lost
  exact kept (lost_iff.mpr ⟨free, pending_setCall waits other⟩)

theorem pending_setCall_iff {state : Call} (other : state.waits = false)
    (before : (pool.calls call).waits = false) :
    (pool.setCall call state).pending = true ↔ pool.pending = true := by
  refine ⟨fun waits => pending_setCall waits other, ?_⟩
  intro waits
  obtain ⟨waiter, member, waiting⟩ := pending_iff.mp waits
  refine pending_iff.mpr ⟨waiter, member, ?_⟩
  unfold setCall
  dsimp only
  rw [Function.update_of_ne]
  · exact waiting
  · intro same
    rw [same] at waiting
    exact Call.ne_waiting before waiting

/-- A connection is put back by a call that has ended: a waiter is overlooked
if there is one. -/
theorem lost_append (before : (pool.calls call).waits = false) :
    ((pool.append conn).setCall call .ended).lost = true ↔
      pool.pending = true := by
  have same : ((pool.append conn).setCall call .ended).pending = true ↔
      (pool.append conn).pending = true := pending_setCall_iff rfl before
  rw [lost_iff, same]
  refine and_iff_right ?_
  unfold append setCall
  simp

theorem lost_putBack (before : (pool.calls call).waits = false) :
    (pool.putBack call conn).lost = true ↔ pool.pending = true := by
  have discarded : ((pool.discard conn).calls call).waits = false := before
  exact lost_append discarded

theorem popWaiter_rest {waiters rest : List Nat} {waiter : Nat}
    (popped : pool.popWaiter waiters = some (waiter, rest)) :
    ∀ other ∈ rest, other ∈ waiters := by
  induction waiters with
  | nil => cases popped
  | cons first waiters induction =>
      unfold popWaiter at popped
      intro other member
      split at popped
      · exact List.mem_cons_of_mem _ (induction popped other member)
      · cases popped
        exact List.mem_cons_of_mem _ member

theorem lost_detach (held : pool.calls call = .held conn)
    (nobody : pool.pending ≠ true) :
    (pool.detach call conn).lost ≠ true := by
  unfold detach
  split
  · intro lost
    obtain ⟨_, waits⟩ := lost_iff.mp lost
    have detaches : (pool.setCall call (.detaching conn)).pending = true :=
      waits
    exact nobody (pending_setCall detaches rfl)
  · rw [ne_eq, lost_putBack]
    · exact nobody
    · rw [held]
      rfl

theorem lost_release (held : pool.calls call = .held conn)
    (kept : pool.lost ≠ true) : (pool.release call conn).lost ≠ true := by
  unfold release
  split
  · rename_i empty
    apply lost_detach held
    intro waits
    obtain ⟨waiter, member, _⟩ := pending_iff.mp waits
    rw [List.isEmpty_iff.mp empty] at member
    cases member
  · split
    · have emptied : ({ pool with waiters := [] } :
          ConnectionPool).pending ≠ true := Bool.false_ne_true
      exact lost_detach held emptied
    · rename_i waiter waiters popped
      intro lost
      obtain ⟨free, waits⟩ := lost_iff.mp lost
      apply kept
      refine lost_iff.mpr ⟨free, ?_⟩
      have passed : ((({ pool with waiters } : ConnectionPool).setCall call
          .ended).setCall waiter (.resolved conn)).pending = true := waits
      have before := pending_setCall (pending_setCall passed rfl) rfl
      obtain ⟨other, member, waiting⟩ := pending_iff.mp before
      exact pending_iff.mpr
        ⟨other, popWaiter_rest popped other member, waiting⟩

/-- A waiter is overlooked exactly when a connection is put back while it
waits. -/
theorem lost_step (kept : pool.lost ≠ true)
    (stepped : step pool action = some (next, events)) :
    next.lost = true ↔ pool.wakes action = false := by
  cases action with
  | acquire call =>
      refine iff_of_false ?_ Bool.false_ne_true.symm
      simp only [step] at stepped
      split at stepped
      · rename_i idle
        split at stepped
        · rename_i empty
          cases stepped
          intro lost
          exact (lost_iff.mp lost).1 empty
        · rename_i conn free popped
          have nobody : pool.pending ≠ true := by
            intro waits
            apply kept
            refine lost_iff.mpr ⟨?_, waits⟩
            rw [popped]
            exact List.cons_ne_nil _ _
          cases stepped
          unfold acquireFree
          dsimp only
          split
          · rw [lost_append]
            · exact nobody
            · rw [idle]
              rfl
          · intro lost
            have binds : (({ pool with free } : ConnectionPool).setCall call
                (.binding conn)).pending = true := (lost_iff.mp lost).2
            have waits := pending_setCall binds rfl
            exact nobody waits
      · cases stepped
  | circuitBroken call =>
      refine iff_of_false ?_ Bool.false_ne_true.symm
      simp only [step] at stepped
      split at stepped
      · rename_i idle
        split at stepped
        · cases stepped
        · rename_i conn free popped
          cases stepped
          rw [lost_append]
          · intro waits
            apply kept
            refine lost_iff.mpr ⟨?_, waits⟩
            rw [popped]
            exact List.cons_ne_nil _ _
          · rw [idle]
            rfl
      · cases stepped
  | bind call =>
      refine iff_of_false ?_ Bool.false_ne_true.symm
      simp only [step] at stepped
      split at stepped
      · rename_i conn binding
        cases stepped
        have used : ({ pool with
            bound := Function.update pool.bound conn true } :
              ConnectionPool).lost ≠ true := kept
        exact lost_setCall rfl used
      · cases stepped
  | bindFails call =>
      simp only [step] at stepped
      split at stepped
      · rename_i conn binding
        cases stepped
        rw [lost_append, wakes, Bool.not_eq_false']
        rw [binding]
        rfl
      · cases stepped
  | abandon call =>
      refine iff_of_false ?_ Bool.false_ne_true.symm
      simp only [step] at stepped
      split at stepped
      · cases stepped
        exact lost_setCall rfl kept
      · cases stepped
  | resume call =>
      refine iff_of_false ?_ Bool.false_ne_true.symm
      simp only [step] at stepped
      split at stepped
      · rename_i conn resolved
        cases stepped
        have used : (pool.use conn).lost ≠ true := kept
        exact lost_setCall rfl used
      · cases stepped
  | release call =>
      refine iff_of_false ?_ Bool.false_ne_true.symm
      simp only [step] at stepped
      split at stepped
      · rename_i conn held
        cases stepped
        exact lost_release held kept
      · cases stepped
  | detached call =>
      simp only [step] at stepped
      split at stepped
      · rename_i conn detaching
        cases stepped
        rw [lost_putBack, wakes, Bool.not_eq_false']
        rw [detaching]
        rfl
      · cases stepped

/-- No wake-up is lost as long as connections are only put back while no
waiter waits, be the pool quiet or not. -/
theorem run_awake {trace : List Empty}
    (run : Transition.Run step (fun pool action => pool.wakes action = true)
      (initialized capacity) trace pool) :
    ¬(pool.free ≠ [] ∧
      ∃ waiter ∈ pool.waiters, pool.calls waiter = .waiting) := by
  have kept : pool.lost ≠ true := by
    apply run.state_invariant
    · intro lost
      exact absurd (lost_iff.mp lost).2 Bool.false_ne_true
    · intro events pool next action holds wakes stepped lost
      have overlooks := (lost_step holds stepped).mp lost
      rw [wakes] at overlooks
      cases overlooks
  rw [← pending_iff, ← lost_iff]
  exact kept

theorem quiet_of_free (conserved : Conserved capacity pool)
    (free : ∀ conn ∈ List.range capacity, conn ∈ pool.free) : pool.Quiet := by
  intro call conn
  have unowned : ∀ state, pool.calls call = state →
      state.conn ≠ some conn := by
    intro state calls held
    have owns := (owned_of_call calls).trans held
    have created := (conserved.all conn).mpr (.inr ⟨call, owns⟩)
    exact conserved.apart conn (free conn created) call owns
  constructor
  · intro binding
    exact unowned _ binding rfl
  · intro detaching
    exact unowned _ detaching rfl

theorem run_awake_handed : ∃ pool : ConnectionPool, pool.free = [0] ∧
    ¬(pool.free ≠ [] ∧
      ∃ waiter ∈ pool.waiters, pool.calls waiter = .waiting) := by
  have reached : ∃ trace pool, Transition.Run step
      (fun pool action => pool.wakes action = true) (initialized 1) trace
      pool ∧ pool.free = [0] := by
    apply Transition.Run.exists_state_of_exec
      [.acquire 0, .bind 0, .acquire 1, .release 0, .resume 1, .release 1,
        .detached 1]
    decide +kernel
  obtain ⟨trace, pool, run, free⟩ := reached
  exact ⟨pool, free, run_awake run⟩

/-- A call comes to wait while the only connection is detached. -/
theorem release_overlooks : ∃ trace pool,
    Transition.AnyRun step (initialized 1) trace pool ∧ pool.Quiet ∧
      pool.free ≠ [] ∧
        ∃ waiter ∈ pool.waiters, pool.calls waiter = .waiting := by
  have reached : ∃ trace pool, Transition.AnyRun step (initialized 1) trace
      pool ∧ pool.free = [0] ∧ pool.waiters = [1] ∧
        pool.calls 1 = .waiting := by
    apply Transition.Run.exists_state_of_exec
      [.acquire 0, .bind 0, .release 0, .acquire 1, .detached 0]
    decide +kernel
  obtain ⟨trace, pool, run, free, waiters, waiting⟩ := reached
  have quiet : pool.Quiet := by
    apply quiet_of_free (conserved_of_run run)
    rw [free]
    decide
  refine ⟨trace, pool, run, quiet, ?_, 1, ?_, waiting⟩
  · rw [free]
    exact List.cons_ne_nil _ _
  · rw [waiters]
    exact List.mem_singleton_self _

/-- A bind fails while a call waits for the only connection. -/
theorem bindFails_overlooks : ∃ trace pool,
    Transition.AnyRun step (initialized 1) trace pool ∧ pool.Quiet ∧
      pool.lost = true := by
  have reached : ∃ trace pool, Transition.AnyRun step (initialized 1) trace
      pool ∧ pool.free = [0] ∧ pool.lost = true := by
    apply Transition.Run.exists_state_of_exec
      [.acquire 0, .acquire 1, .bindFails 0]
    decide +kernel
  obtain ⟨trace, pool, run, free, lost⟩ := reached
  refine ⟨trace, pool, run, ?_, lost⟩
  apply quiet_of_free (conserved_of_run run)
  rw [free]
  decide

end

end ConnectionPool

end Postgres

end TinyChat
