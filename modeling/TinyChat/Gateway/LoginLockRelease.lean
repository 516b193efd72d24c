import TinyChat.Gateway.LoginLockSafety

/-!
# Release of the login lock

No expiry protects the lock, so it stays until a `DEL` is executed.  The
handshake that stored it owes this `DEL`: it goes on as long as it learns
that its `SETNX` was executed and not all of its attempts get lost.
-/

namespace TinyChat

namespace Redis

namespace RedisTask

variable {task next : RedisTask} {move : TaskMove}

/-- The move gives up a command that was not executed. -/
def Drops (task : RedisTask) : TaskMove → Prop
  | .take => task.waiter ≠ .pending
  | .lose => True
  | .refuse => True
  | .reply => False
  | .fail => False
  | .timeout => False

instance (task : RedisTask) : ∀ move, Decidable (task.Drops move)
  | .take => inferInstanceAs (Decidable (task.waiter ≠ .pending))
  | .lose => .isTrue trivial
  | .refuse => .isTrue trivial
  | .reply => .isFalse id
  | .fail => .isFalse id
  | .timeout => .isFalse id

theorem InFlight.moved (inFlight : task.InFlight)
    (moved : Moved task move next) : next.InFlight ∨ task.Drops move := by
  cases moved with
  | taken queued pending => exact Or.inl (Or.inr rfl)
  | skipped queued done => exact Or.inr done
  | lost sent => exact Or.inr trivial
  | replied executed pending => exact Or.inl inFlight
  | failed started pending => exact Or.inl inFlight
  | refused queued pending => exact Or.inr trivial
  | timedOut pending => exact Or.inl inFlight

/-- A command that was neither executed nor given up is in flight. -/
theorem inFlight_of_stage (unexecuted : ∀ reply, task.stage ≠ .executed reply)
    (kept : task.stage ≠ .dropped) : task.InFlight := by
  cases stage : task.stage with
  | queued => exact Or.inl stage
  | sent => exact Or.inr stage
  | executed reply => exact absurd stage (unexecuted reply)
  | dropped => exact absurd stage kept

end RedisTask

end Redis

namespace Gateway

open Redis Transition

namespace Handshake

variable {handshake next : Handshake} {move : HandshakeMove}

/-- There is a task whose command was not given up. -/
def Kept : Option RedisTask → Prop
  | none => False
  | some task => task.stage ≠ .dropped

instance : ∀ task, Decidable (Kept task)
  | none => .isFalse id
  | some task => inferInstanceAs (Decidable (task.stage ≠ .dropped))

/-- There is a task whose command the move gives up. -/
def GivesUp : Option RedisTask → TaskMove → Prop
  | none, _ => False
  | some task, move => task.Drops move

instance : ∀ task move, Decidable (GivesUp task move)
  | none, _ => .isFalse id
  | some task, move => inferInstanceAs (Decidable (task.Drops move))

/-- The handshake does not forget that it has stored the lock: it learns the
reply of a `SETNX` that was executed, and an attempt to remove the lock is
given up only if there is or will be another one. -/
def Remembers (handshake : Handshake) : HandshakeMove → Prop
  | .task .setnx move =>
      move = .fail ∨ move = .timeout →
        handshake.setnx.stage ≠ .executed true
  | .task .delete move =>
      GivesUp handshake.delete move →
        handshake.phase = .releasing ∨ Kept handshake.retry
  | .task .retry move =>
      GivesUp handshake.retry move → Kept handshake.delete
  | .cancel =>
      (handshake.phase = .acquiring →
        handshake.setnx.stage ≠ .executed true) ∧
      (handshake.phase = .releasing → Kept handshake.delete)
  | .enter => True
  | .proceed => True
  | .block => True
  | .leave => True

instance (handshake : Handshake) :
    ∀ move, Decidable (handshake.Remembers move)
  | .task .setnx move =>
      inferInstanceAs (Decidable (move = .fail ∨ move = .timeout → _))
  | .task .delete move =>
      inferInstanceAs (Decidable (GivesUp handshake.delete move → _))
  | .task .retry move =>
      inferInstanceAs (Decidable (GivesUp handshake.retry move → _))
  | .cancel => inferInstanceAs (Decidable (_ ∧ _))
  | .enter => .isTrue trivial
  | .proceed => .isTrue trivial
  | .block => .isTrue trivial
  | .leave => .isTrue trivial

/-- The command of the task, if there is one, was not executed. -/
def Unexecuted (task : Option RedisTask) : Prop :=
  ∀ found, task = some found → ∀ reply, found.stage ≠ .executed reply

theorem unexecuted_fresh : Unexecuted (some {}) := by
  rintro found ⟨⟩ reply
  exact nofun

theorem Unexecuted.moved {task : Option RedisTask}
    (unexecuted : Unexecuted task) {earlier later : RedisTask}
    {taskMove : TaskMove} (found : task = some earlier)
    (moved : earlier.Moved taskMove later) : Unexecuted (some later) := by
  rintro found' ⟨⟩ reply executed
  exact unexecuted earlier found reply (moved.executed_iff.mp executed)

/-- What a handshake still has to do about the lock that it has stored. -/
structure Owes (handshake : Handshake) : Prop where
  stored : handshake.setnx.stage = .executed true
  delete : Unexecuted handshake.delete
  retry : Unexecuted handshake.retry
  goesOn : (handshake.phase = .acquiring ∧
      (handshake.setnx.waiter = .pending ∨
        handshake.setnx.waiter = .result (some true))) ∨
    handshake.phase = .inside ∨ handshake.phase = .releasing ∨
    (handshake.phase = .finished ∧ ∃ command task, command ≠ .setnx ∧
      handshake.task command = some task ∧ task.InFlight)

theorem Owes.unexecuted (owes : Owes handshake) {command : LockCommand}
    (other : command ≠ .setnx) : Unexecuted (handshake.task command) := by
  cases command with
  | setnx => exact absurd rfl other
  | delete => exact owes.delete
  | retry => exact owes.retry

theorem Owes.inFlight_of_kept (owes : Owes handshake)
    {command : LockCommand} (kept : Kept (handshake.task command))
    (other : command ≠ .setnx) :
    ∃ task, handshake.task command = some task ∧ task.InFlight := by
  cases found : handshake.task command with
  | none =>
      rw [found] at kept
      exact absurd kept id
  | some task =>
      rw [found] at kept
      have unexecuted := owes.unexecuted other task found
      exact ⟨task, rfl, RedisTask.inFlight_of_stage unexecuted kept⟩

theorem Owes.told (owes : Owes handshake) {later : RedisTask}
    {taskMove : TaskMove}
    (remembers : handshake.Remembers (.task .setnx taskMove))
    (waits : handshake.setnx.waiter = .pending ∨
      handshake.setnx.waiter = .result (some true))
    (moved : handshake.setnx.Moved taskMove later) :
    later.waiter = .pending ∨ later.waiter = .result (some true) := by
  have stored := owes.stored
  cases moved with
  | taken queued pending => exact waits
  | skipped queued done => exact waits
  | lost sent => exact waits
  | replied executed pending =>
      rw [stored] at executed
      cases executed
      exact Or.inr rfl
  | failed started pending =>
      exact absurd stored (remembers (Or.inl rfl))
  | refused queued pending =>
      rw [stored] at queued
      cases queued
  | timedOut pending => exact absurd stored (remembers (Or.inr rfl))

/-- After the release at least one attempt to remove the lock remains. -/
theorem Owes.attempts (owes : Owes handshake) {command : LockCommand}
    {task later : RedisTask} {taskMove : TaskMove}
    (remembers : handshake.Remembers (.task command taskMove))
    (finished : handshake.phase = .finished) (other : command ≠ .setnx)
    (found : handshake.task command = some task) (inFlight : task.InFlight)
    (moved : task.Moved taskMove later) :
    ∃ attempt remaining, attempt ≠ .setnx ∧
      (handshake.withTask later command).task attempt = some remaining ∧
      remaining.InFlight := by
  rcases inFlight.moved moved with stays | drops
  · exact ⟨command, later, other, task_withTask_self found, stays⟩
  · cases command with
    | setnx => exact absurd rfl other
    | delete =>
        simp only [Handshake.task] at found
        simp only [Remembers, found, GivesUp, finished] at remembers
        rcases remembers drops with releasing | kept
        · cases releasing
        · have kept : Kept (handshake.task .retry) := kept
          obtain ⟨remaining, found, inFlight⟩ :=
            owes.inFlight_of_kept kept LockCommand.noConfusion
          exact ⟨.retry, remaining, LockCommand.noConfusion, found,
            inFlight⟩
    | retry =>
        simp only [Handshake.task] at found
        simp only [Remembers, found, GivesUp] at remembers
        have kept : Kept (handshake.task .delete) := remembers drops
        obtain ⟨remaining, found, inFlight⟩ :=
          owes.inFlight_of_kept kept LockCommand.noConfusion
        exact ⟨.delete, remaining, LockCommand.noConfusion, found, inFlight⟩

/-- A move of one of the tasks: the reply of the `SETNX` arrives, and of the
two attempts to remove the lock at least one remains. -/
theorem Owes.moved (owes : Owes handshake) {command : LockCommand}
    {task later : RedisTask} {taskMove : TaskMove}
    (remembers : handshake.Remembers (.task command taskMove))
    (found : handshake.task command = some task)
    (moved : task.Moved taskMove later) :
    Owes (handshake.withTask later command) := by
  constructor
  · cases command with
    | setnx =>
        obtain ⟨_, rfl⟩ := task_setnx_eq_some.mp found
        exact moved.executed_iff.mpr owes.stored
    | delete => exact owes.stored
    | retry => exact owes.stored
  · cases command with
    | setnx => exact owes.delete
    | delete => exact (owes.delete.moved found moved)
    | retry => exact owes.delete
  · cases command with
    | setnx => exact owes.retry
    | delete => exact owes.retry
    | retry => exact (owes.retry.moved found moved)
  · rw [withTask_phase]
    rcases owes.goesOn with acquiring | inside | releasing | finished
    · left
      cases command with
      | setnx =>
          obtain ⟨_, rfl⟩ := task_setnx_eq_some.mp found
          exact ⟨acquiring.1, owes.told remembers acquiring.2 moved⟩
      | delete => exact acquiring
      | retry => exact acquiring
    · exact Or.inr (Or.inl inside)
    · exact Or.inr (Or.inr (Or.inl releasing))
    · obtain ⟨finished, other, task', isOther, found', inFlight⟩ := finished
      right; right; right
      refine ⟨finished, ?_⟩
      by_cases same : other = command
      · subst same
        rw [found] at found'
        cases found'
        exact owes.attempts remembers finished isOther found inFlight moved
      · refine ⟨other, task', isOther, ?_, inFlight⟩
        rw [task_withTask_other same]
        exact found'

theorem Owes.not_absent (owes : Owes handshake) :
    handshake.phase ≠ .absent ∧ handshake.phase ≠ .refused := by
  rcases owes.goesOn with ⟨acquiring, _⟩ | inside | releasing | ⟨finished, _⟩
  · simp [acquiring]
  · simp [inside]
  · simp [releasing]
  · simp [finished]

theorem Owes.repeats (owes : Owes handshake) :
    Owes { handshake with phase := .finished, retry := some {} } := by
  constructor
  · exact owes.stored
  · exact owes.delete
  · exact unexecuted_fresh
  · right; right; right
    exact ⟨rfl, .retry, {}, nofun, rfl, Or.inl rfl⟩

theorem Owes.advanced (owes : Owes handshake)
    (coherent : Coherent handshake) (remembers : handshake.Remembers move)
    (advanced : Advanced handshake move next) : Owes next := by
  have stored := owes.stored
  cases advanced with
  | entered absent => exact absurd absent owes.not_absent.1
  | moved found moved => exact owes.moved remembers found moved
  | granted acquiring told =>
      exact ⟨stored, owes.delete, owes.retry, Or.inr (Or.inl rfl)⟩
  | denied acquiring done told =>
      rcases owes.goesOn with ⟨_, waits⟩ | inside | releasing | ⟨finished, _⟩
      · rcases waits with pending | granted
        · exact absurd pending done
        · exact absurd granted told
      · simp [acquiring] at inside
      · simp [acquiring] at releasing
      · simp [acquiring] at finished
  | @deleted task reply releasing found told =>
      have listed : handshake.task .delete = some task := found
      have executed := coherent.honest listed reply told
      exact absurd executed (owes.delete task found reply)
  | repeated releasing found => exact owes.repeats
  | blockedEntry acquiring fresh =>
      rw [fresh] at stored
      cases stored
  | blockedExit releasing fresh => exact owes.repeats
  | cancelledEntry acquiring =>
      exact absurd stored (remembers.1 acquiring)
  | cancelledExit releasing =>
      have kept : Kept (handshake.task .delete) := remembers.2 releasing
      obtain ⟨task, found, inFlight⟩ := owes.inFlight_of_kept kept nofun
      refine ⟨stored, owes.delete, owes.retry, ?_⟩
      right; right; right
      exact ⟨rfl, .delete, task, nofun, found, inFlight⟩
  | left inside =>
      exact ⟨stored, unexecuted_fresh, owes.retry,
        Or.inr (Or.inr (Or.inl rfl))⟩
  | turnedAway refused => exact absurd refused owes.not_absent.2

/-- A handshake that waits for the reply of its `SETNX` has to remove the
lock that the `SETNX` stores. -/
theorem Coherent.owes_of_stored (coherent : Coherent handshake)
    (acquiring : handshake.phase = .acquiring)
    (pending : handshake.setnx.waiter = .pending) :
    Owes (handshake.withTask
      { handshake.setnx with stage := .executed true } .setnx) := by
  constructor
  · rfl
  · intro task found
    have ended := coherent.deletes
      (Option.ne_none_iff_exists'.mpr ⟨task, found⟩)
    simp [acquiring] at ended
  · intro task found
    have ended := coherent.retries
      (Option.ne_none_iff_exists'.mpr ⟨task, found⟩)
    simp [acquiring] at ended
  · exact Or.inl ⟨acquiring, Or.inl pending⟩

/-- Neither is the handshake between its start and its end, nor is one of its
commands in flight. -/
def Quiescent (handshake : Handshake) : Prop :=
  (handshake.phase = .absent ∨ handshake.phase = .finished) ∧
    ∀ command task, handshake.task command = some task → ¬ task.InFlight

theorem Owes.not_quiescent (owes : Owes handshake) :
    ¬ handshake.Quiescent := by
  rintro ⟨ended, still⟩
  rcases owes.goesOn with ⟨acquiring, _⟩ | inside | releasing | finished
  · simp [acquiring] at ended
  · simp [inside] at ended
  · simp [releasing] at ended
  · obtain ⟨_, command, task, _, found, inFlight⟩ := finished
    exact still command task found inFlight

end Handshake

namespace LoginLock

variable {lock next : LoginLock} {action : LockAction}

/-- No handshake forgets a lock that it has stored, and a `SETNX` stores the
lock only for a handshake that still waits for it. -/
def Remembered (lock : LoginLock) : LockAction → Prop
  | .advance index move => (lock.handshakes index).Remembers move
  | .execute index .setnx =>
      lock.owner = none →
        (lock.handshakes index).phase = .acquiring ∧
          (lock.handshakes index).setnx.waiter = .pending
  | .execute _ .delete => True
  | .execute _ .retry => True

instance (lock : LoginLock) : ∀ action, Decidable (lock.Remembered action)
  | .advance index move =>
      inferInstanceAs (Decidable ((lock.handshakes index).Remembers move))
  | .execute _ .setnx => inferInstanceAs (Decidable (_ → _))
  | .execute _ .delete => .isTrue trivial
  | .execute _ .retry => .isTrue trivial

/-- The handshake that stored the lock owes its removal. -/
def Accounted (lock : LoginLock) : Prop :=
  ∀ index, (lock.handshakes index).Coherent ∧
    (lock.owner = some index → (lock.handshakes index).Owes)

theorem accounted_initial : Accounted {} := by
  intro index
  exact ⟨Handshake.coherent_absent, nofun⟩

theorem Accounted.advance (accounted : Accounted lock) {index : Nat}
    {move : HandshakeMove} {later : Handshake}
    (remembers : (lock.handshakes index).Remembers move)
    (advanced : (lock.handshakes index).Advanced move later) :
    Accounted (lock.withHandshake index later) := by
  intro other
  by_cases same : other = index
  · subst same
    obtain ⟨coherent, owed⟩ := accounted other
    rw [withHandshake_self]
    refine ⟨coherent.advanced advanced, ?_⟩
    intro owns
    exact (owed owns).advanced coherent remembers advanced
  · rw [withHandshake_other same]
    exact accounted other

theorem Accounted.coherent_execute (accounted : Accounted lock)
    {index : Nat} {command : LockCommand} {task : RedisTask}
    (found : (lock.handshakes index).task command = some task)
    (sent : task.stage = .sent) (reply : Bool) (other : Nat) :
    ((lock.withHandshake index
      ((lock.handshakes index).withTask
        { task with stage := .executed reply } command)).handshakes
          other).Coherent := by
  by_cases same : other = index
  · subst same
    obtain ⟨coherent, _⟩ := accounted other
    have honest := (coherent.honest found).executed sent reply
    rw [withHandshake_self]
    exact coherent.withTask found honest
  · rw [withHandshake_other same]
    exact (accounted other).1

theorem Accounted.owes_executeSetnx (accounted : Accounted lock)
    {index other : Nat} {task : RedisTask}
    (remembered : lock.Remembered (.execute index .setnx))
    (found : (lock.handshakes index).task .setnx = some task)
    (sent : task.stage = .sent)
    (owns : (run lock.owner index .setnx).2 = some other) :
    ((lock.withHandshake index
      ((lock.handshakes index).withTask
        { task with stage := .executed (run lock.owner index .setnx).1 }
        .setnx)).handshakes other).Owes := by
  obtain ⟨_, rfl⟩ := Handshake.task_setnx_eq_some.mp found
  cases owned : lock.owner with
  | none =>
      simp only [run, owned] at owns ⊢
      cases owns
      rw [withHandshake_self]
      obtain ⟨acquiring, pending⟩ := remembered owned
      exact (accounted index).1.owes_of_stored acquiring pending
  | some owner =>
      simp only [run, owned] at owns
      cases owns
      have owes := (accounted other).2 owned
      have differs : other ≠ index := by
        rintro rfl
        have stored := owes.stored
        rw [sent] at stored
        cases stored
      rw [withHandshake_other differs]
      exact owes

theorem Accounted.step (accounted : Accounted lock)
    (remembered : lock.Remembered action)
    (stepped : Stepped lock action next) : Accounted next := by
  cases stepped with
  | advanced advanced => exact accounted.advance remembered advanced
  | @executed index command task found sent =>
      intro other
      refine ⟨accounted.coherent_execute found sent _ other, ?_⟩
      cases command with
      | setnx => exact accounted.owes_executeSetnx remembered found sent
      | delete => exact nofun
      | retry => exact nofun

/-- The lock is absent whenever no handshake is on its way and no command is
in flight, in every run in which no handshake forgets the lock. -/
theorem released_when_quiescent {trace : List Empty}
    (run : Run step Remembered {} trace lock)
    (quiescent : ∀ index, (lock.handshakes index).Quiescent) :
    lock.owner = none := by
  have accounted : Accounted lock := by
    apply run.state_invariant accounted_initial
    intro events lock next action accounted remembered stepped
    exact accounted.step remembered (step_stepped stepped)
  cases owned : lock.owner with
  | none => rfl
  | some index =>
      have owes := (accounted index).2 owned
      exact absurd (quiescent index) owes.not_quiescent

/-- The handshake that takes a step. -/
def actor : LockAction → Nat
  | .advance index _ => index
  | .execute index _ => index

theorem untouched {only other : Nat} {trace : List Empty}
    (run : Run step (fun _ action => actor action = only) {} trace lock)
    (differs : other ≠ only) : lock.handshakes other = {} := by
  apply run.state_invariant
  · rfl
  · intro events lock next action absent sole stepped
    cases step_stepped stepped with
    | advanced advanced =>
        subst sole
        rw [← absent]
        exact withHandshake_other differs _
    | executed found sent =>
        subst sole
        rw [← absent]
        exact withHandshake_other differs _

theorem quiescent_absent : Handshake.Quiescent {} := by
  refine ⟨Or.inl rfl, ?_⟩
  intro command task found
  cases command <;> cases found

/-- A handshake of which no command can be executed any more. -/
def Settled (handshake : Handshake) : Prop :=
  handshake.phase = .finished ∧ ¬ handshake.setnx.InFlight ∧
    (∀ task ∈ handshake.delete, ¬ task.InFlight) ∧
    ∀ task ∈ handshake.retry, ¬ task.InFlight

instance (handshake : Handshake) : Decidable (Settled handshake) :=
  inferInstanceAs (Decidable (_ ∧ _ ∧ _ ∧ _))

theorem Settled.quiescent {handshake : Handshake}
    (settled : Settled handshake) : handshake.Quiescent := by
  obtain ⟨finished, setnx, delete, retry⟩ := settled
  refine ⟨Or.inr finished, ?_⟩
  intro command task found
  cases command with
  | setnx =>
      obtain ⟨_, rfl⟩ := Handshake.task_setnx_eq_some.mp found
      exact setnx
  | delete => exact delete task found
  | retry => exact retry task found

/-- If only one handshake took steps, it decides whether all are
quiescent. -/
theorem quiescent_of_settled {only : Nat} {trace : List Empty}
    (run : Run step (fun _ action => actor action = only) {} trace lock)
    (settled : Settled (lock.handshakes only)) (index : Nat) :
    (lock.handshakes index).Quiescent := by
  by_cases same : index = only
  · rw [same]
    exact settled.quiescent
  · rw [untouched run same]
    exact quiescent_absent

/-- The only handshake loses its first `DEL` and repeats it. -/
theorem released_when_quiescent_retry :
    ∃ trace lock, Run step Remembered {} trace lock ∧
      (lock.handshakes 0).setnx.stage = .executed true ∧
      (∀ index, (lock.handshakes index).Quiescent) ∧
      lock.owner = none := by
  have ran : ∃ trace lock, Run step
      (fun lock action => lock.Remembered action ∧ actor action = 0) {}
      trace lock ∧ ((lock.handshakes 0).setnx.stage = .executed true ∧
        Settled (lock.handshakes 0)) := by
    apply Run.exists_state_of_exec
      (enters 0 ++ [LockAction.advance 0 .leave,
        .advance 0 (.task .delete .take),
        .advance 0 (.task .delete .lose), .advance 0 (.task .delete .fail),
        .advance 0 .proceed, .advance 0 (.task .retry .take),
        .execute 0 .retry])
    decide
  obtain ⟨trace, lock, run, stored, settled⟩ := ran
  have quiescent := quiescent_of_settled
    (run.mono fun _ _ both => both.2) settled
  have remembered := run.mono fun _ _ both => both.1
  exact ⟨trace, lock, remembered, stored, quiescent,
    released_when_quiescent remembered quiescent⟩

/-- The `SETNX` is executed, but its caller has given up. -/
theorem lock_left_behind :
    ∃ trace lock, AnyRun step {} trace lock ∧
      (∀ index, (lock.handshakes index).Quiescent) ∧
      lock.owner ≠ none := by
  have ran : ∃ trace lock, Run step (fun _ action => actor action = 0) {}
      trace lock ∧ (Settled (lock.handshakes 0) ∧ lock.owner ≠ none) := by
    apply Run.exists_state_of_exec
      [.advance 0 .enter, .advance 0 (.task .setnx .take),
        .advance 0 (.task .setnx .timeout), .execute 0 .setnx,
        .advance 0 .proceed, .advance 0 .leave]
    decide
  obtain ⟨trace, lock, run, settled, left⟩ := ran
  exact ⟨trace, lock, run.any, quiescent_of_settled run settled, left⟩

end LoginLock

end Gateway

end TinyChat
