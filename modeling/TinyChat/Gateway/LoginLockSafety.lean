import TinyChat.Gateway.LoginLock

/-!
# Exclusion and release of the login lock

The lock carries no owner, so a `DEL` removes whatever lock it finds.  A
handshake excludes the others as long as no `DEL` of another one removes its
lock.  The lock is left behind if a `SETNX` is executed for a caller that has
given up, or if both attempts to remove the lock get lost.
-/

namespace TinyChat

namespace Gateway

open Redis Transition

namespace Handshake

variable {handshake next : Handshake} {move : HandshakeMove}

/-- Everything that can happen to a handshake apart from the execution of its
commands. -/
inductive Advanced (handshake : Handshake) :
    HandshakeMove → Handshake → Prop where
  | entered : handshake.phase = .absent →
      Advanced handshake .enter
        { handshake with phase := .acquiring, setnx := {} }
  | moved {command : LockCommand} {task later : RedisTask}
      {taskMove : TaskMove} :
      handshake.task command = some task → task.Moved taskMove later →
      Advanced handshake (.task command taskMove)
        (handshake.withTask later command)
  | granted : handshake.phase = .acquiring →
      handshake.setnx.waiter = .result (some true) →
      Advanced handshake .proceed { handshake with phase := .inside }
  | denied : handshake.phase = .acquiring →
      handshake.setnx.waiter ≠ .pending →
      handshake.setnx.waiter ≠ .result (some true) →
      Advanced handshake .proceed { handshake with phase := .refused }
  | deleted {task : RedisTask} {reply : Bool} :
      handshake.phase = .releasing → handshake.delete = some task →
      task.waiter = .result (some reply) →
      Advanced handshake .proceed
        { handshake with phase := .finished, retry := none }
  | repeated {task : RedisTask} :
      handshake.phase = .releasing → handshake.delete = some task →
      Advanced handshake .proceed
        { handshake with phase := .finished, retry := some {} }
  | blockedEntry : handshake.phase = .acquiring → handshake.setnx = {} →
      Advanced handshake .block { handshake with phase := .refused }
  | blockedExit : handshake.phase = .releasing →
      handshake.delete = some {} →
      Advanced handshake .block
        { handshake with phase := .finished, retry := some {} }
  | cancelledEntry : handshake.phase = .acquiring →
      Advanced handshake .cancel
        { handshake with
          phase := .finished
          setnx := { handshake.setnx with waiter := .cancelled } }
  | cancelledExit : handshake.phase = .releasing →
      Advanced handshake .cancel { handshake with phase := .finished }
  | left : handshake.phase = .inside →
      Advanced handshake .leave
        { handshake with phase := .releasing, delete := some {} }
  | turnedAway : handshake.phase = .refused →
      Advanced handshake .leave { handshake with phase := .finished }

theorem proceed_advanced (proceeds : handshake.proceed = some next) :
    Advanced handshake .proceed next := by
  unfold proceed at proceeds
  split at proceeds
  · rename_i acquiring
    split at proceeds
    · cases proceeds
    · rename_i data told
      cases proceeds
      by_cases success : data = some true
      · subst success
        exact .granted acquiring told
      · simp only [locked, if_neg success]
        refine .denied acquiring ?_ ?_
        · rw [told]
          exact nofun
        · rw [told]
          intro same
          exact success (Waiter.result.inj same)
    · rename_i cancelled
      cases proceeds
      refine .denied acquiring ?_ ?_
      · rw [cancelled]
        exact nofun
      · rw [cancelled]
        exact nofun
  · rename_i releasing
    split at proceeds
    · cases proceeds
    · rename_i task found
      split at proceeds
      · cases proceeds
      · rename_i data told
        cases proceeds
        cases data with
        | none => exact .repeated releasing found
        | some reply => exact .deleted releasing found told
      · cases proceeds
        exact .repeated releasing found
  · cases proceeds

theorem block_advanced (blocked : handshake.block = some next) :
    Advanced handshake .block next := by
  unfold block at blocked
  split at blocked
  · rename_i acquiring
    split at blocked
    · rename_i fresh
      cases blocked
      exact .blockedEntry acquiring fresh
    · cases blocked
  · rename_i releasing
    split at blocked
    · rename_i fresh
      cases blocked
      exact .blockedExit releasing fresh
    · cases blocked
  · cases blocked

theorem advance_advanced (advanced : handshake.advance move = some next) :
    Advanced handshake move next := by
  cases move with
  | enter =>
      simp only [advance] at advanced
      split at advanced
      · rename_i absent
        cases advanced
        exact .entered absent
      · cases advanced
  | task command taskMove =>
      simp only [advance] at advanced
      split at advanced
      · cases advanced
      · rename_i task found
        obtain ⟨later, moved, rfl⟩ := Option.map_eq_some_iff.mp advanced
        exact .moved found (RedisTask.move_moved moved)
  | proceed => exact proceed_advanced advanced
  | block => exact block_advanced advanced
  | cancel =>
      simp only [advance, cancel] at advanced
      split at advanced
      · rename_i acquiring
        cases advanced
        exact .cancelledEntry acquiring
      · rename_i releasing
        cases advanced
        exact .cancelledExit releasing
      · cases advanced
  | leave =>
      simp only [advance, leave] at advanced
      split at advanced
      · rename_i inside
        cases advanced
        exact .left inside
      · rename_i refused
        cases advanced
        exact .turnedAway refused
      · cases advanced

/-- What is true of every handshake. -/
structure Coherent (handshake : Handshake) : Prop where
  honest : ∀ {command task}, handshake.task command = some task →
    task.Honest
  deletes : handshake.delete ≠ none →
    handshake.phase = .releasing ∨ handshake.phase = .finished
  releases : handshake.phase = .releasing → handshake.delete ≠ none
  retries : handshake.retry ≠ none → handshake.phase = .finished

/-- The handshake is inside, or it is about to learn that it may enter. -/
def Holds (handshake : Handshake) : Prop :=
  handshake.phase = .inside ∨
    (handshake.phase = .acquiring ∧
      handshake.setnx.stage = .executed true)

instance (handshake : Handshake) : Decidable handshake.Holds :=
  inferInstanceAs (Decidable (_ ∨ _))

theorem coherent_absent : Coherent {} := by
  constructor
  · intro command task found
    cases command <;> cases found
  · intro deletes
    exact absurd rfl deletes
  · intro releasing
    cases releasing
  · intro retries
    exact absurd rfl retries

theorem task_setnx_eq_some {task : RedisTask} :
    handshake.task .setnx = some task ↔
      handshake.phase ≠ .absent ∧ handshake.setnx = task := by
  simp [Handshake.task]

@[simp] theorem withTask_phase (task : RedisTask) (command : LockCommand) :
    (handshake.withTask task command).phase = handshake.phase := by
  cases command <;> rfl

theorem task_withTask_self {command : LockCommand} {task later : RedisTask}
    (found : handshake.task command = some task) :
    (handshake.withTask later command).task command = some later := by
  cases command with
  | setnx =>
      obtain ⟨present, _⟩ := task_setnx_eq_some.mp found
      exact task_setnx_eq_some.mpr ⟨present, rfl⟩
  | delete => rfl
  | retry => rfl

theorem task_withTask_other {command other : LockCommand}
    (differs : other ≠ command) (later : RedisTask) :
    (handshake.withTask later command).task other = handshake.task other := by
  cases command <;> cases other <;>
    first
    | exact absurd rfl differs
    | rfl

theorem Coherent.setnx_honest (coherent : Coherent handshake)
    (present : handshake.phase ≠ .absent) : handshake.setnx.Honest :=
  coherent.honest (task_setnx_eq_some.mpr ⟨present, rfl⟩)

/-- The commands other than `SETNX` exist only after the body. -/
theorem Coherent.ended (coherent : Coherent handshake)
    {command : LockCommand} (other : command ≠ .setnx) {task : RedisTask}
    (found : handshake.task command = some task) :
    handshake.phase = .releasing ∨ handshake.phase = .finished := by
  cases command with
  | setnx => exact absurd rfl other
  | delete =>
      apply coherent.deletes
      intro missing
      simp only [Handshake.task] at found
      rw [missing] at found
      cases found
  | retry =>
      right
      apply coherent.retries
      intro missing
      simp only [Handshake.task] at found
      rw [missing] at found
      cases found

theorem Coherent.withTask (coherent : Coherent handshake)
    {command : LockCommand} {task later : RedisTask}
    (found : handshake.task command = some task) (honest : later.Honest) :
    Coherent (handshake.withTask later command) := by
  constructor
  · intro other task' found'
    by_cases same : other = command
    · subst same
      rw [task_withTask_self found] at found'
      cases found'
      exact honest
    · rw [task_withTask_other same] at found'
      exact coherent.honest found'
  · intro deletes
    rw [withTask_phase]
    cases command with
    | setnx => exact coherent.deletes deletes
    | delete =>
        apply coherent.ended _ found
        exact nofun
    | retry => exact coherent.deletes deletes
  · intro releasing
    rw [withTask_phase] at releasing
    cases command with
    | setnx => exact coherent.releases releasing
    | delete => exact nofun
    | retry => exact coherent.releases releasing
  · intro retries
    rw [withTask_phase]
    cases command with
    | setnx => exact coherent.retries retries
    | delete => exact coherent.retries retries
    | retry =>
        apply coherent.retries
        simp only [Handshake.task] at found
        rw [found]
        exact nofun

/-- Before the end of its body a handshake has no task but its `SETNX`. -/
theorem Coherent.beforeBody (coherent : Coherent handshake)
    {phase : LockPhase} {setnx : RedisTask}
    (earlier : handshake.phase ≠ .releasing ∧ handshake.phase ≠ .finished)
    (inBody : phase ≠ .releasing) (honest : setnx.Honest) :
    Coherent { handshake with phase := phase, setnx := setnx } := by
  constructor
  · intro command task found
    cases command with
    | setnx =>
        obtain ⟨_, rfl⟩ := task_setnx_eq_some.mp found
        exact honest
    | delete =>
        apply coherent.honest
        exact show handshake.task .delete = some task from found
    | retry =>
        apply coherent.honest
        exact show handshake.task .retry = some task from found
  · intro deletes
    rcases coherent.deletes deletes with releasing | finished
    · exact absurd releasing earlier.1
    · exact absurd finished earlier.2
  · intro releasing
    exact absurd releasing inBody
  · intro retries
    exact absurd (coherent.retries retries) earlier.2

theorem Coherent.finish (coherent : Coherent handshake)
    {retry : Option RedisTask} (present : handshake.phase ≠ .absent)
    (honest : ∀ task, retry = some task → task.Honest) :
    Coherent { handshake with phase := .finished, retry := retry } := by
  constructor
  · intro command task found
    cases command with
    | setnx =>
        obtain ⟨_, rfl⟩ := task_setnx_eq_some.mp found
        exact coherent.setnx_honest present
    | delete =>
        apply coherent.honest
        exact show handshake.task .delete = some task from found
    | retry => exact honest task found
  · exact fun _ => Or.inr rfl
  · intro releasing
    cases releasing
  · exact fun _ => rfl

theorem Coherent.left (coherent : Coherent handshake)
    (inside : handshake.phase = .inside) :
    Coherent { handshake with
      phase := .releasing
      delete := some {} } := by
  constructor
  · intro command task found
    cases command with
    | setnx =>
        obtain ⟨_, rfl⟩ := task_setnx_eq_some.mp found
        exact coherent.setnx_honest (by simp [inside])
    | delete =>
        cases found
        exact RedisTask.honest_fresh
    | retry =>
        apply coherent.honest
        exact show handshake.task .retry = some task from found
  · exact fun _ => Or.inl rfl
  · exact fun _ => nofun
  · intro retries
    have ended := coherent.retries retries
    simp [inside] at ended

theorem Coherent.advanced (coherent : Coherent handshake)
    (advanced : Advanced handshake move next) : Coherent next := by
  cases advanced with
  | entered absent =>
      apply coherent.beforeBody
      · simp [absent]
      · exact nofun
      · exact RedisTask.honest_fresh
  | moved found moved =>
      exact coherent.withTask found ((coherent.honest found).moved moved)
  | granted acquiring told =>
      apply coherent.beforeBody
      · simp [acquiring]
      · exact nofun
      · exact coherent.setnx_honest (by simp [acquiring])
  | denied acquiring done told =>
      apply coherent.beforeBody
      · simp [acquiring]
      · exact nofun
      · exact coherent.setnx_honest (by simp [acquiring])
  | deleted releasing found told =>
      apply coherent.finish
      · simp [releasing]
      · exact nofun
  | repeated releasing found =>
      apply coherent.finish
      · simp [releasing]
      · rintro task ⟨⟩
        exact RedisTask.honest_fresh
  | blockedEntry acquiring fresh =>
      apply coherent.beforeBody
      · simp [acquiring]
      · exact nofun
      · exact coherent.setnx_honest (by simp [acquiring])
  | blockedExit releasing fresh =>
      apply coherent.finish
      · simp [releasing]
      · rintro task ⟨⟩
        exact RedisTask.honest_fresh
  | cancelledEntry acquiring =>
      apply coherent.beforeBody
      · simp [acquiring]
      · exact nofun
      · exact nofun
  | cancelledExit releasing =>
      apply coherent.finish
      · simp [releasing]
      · intro task found
        apply coherent.honest
        exact show handshake.task .retry = some task from found
  | left inside => exact coherent.left inside
  | turnedAway refused =>
      apply coherent.finish
      · simp [refused]
      · intro task found
        apply coherent.honest
        exact show handshake.task .retry = some task from found

/-- Nothing but the execution of its `SETNX` makes a handshake a holder. -/
theorem Coherent.holds_of_advanced (coherent : Coherent handshake)
    (advanced : Advanced handshake move next) (holds : next.Holds) :
    handshake.Holds := by
  cases advanced with
  | entered absent => simp [Holds] at holds
  | @moved command task later taskMove found moved =>
      cases command with
      | setnx =>
          obtain ⟨_, rfl⟩ := task_setnx_eq_some.mp found
          rcases holds with inside | ⟨acquiring, executed⟩
          · exact Or.inl inside
          · exact Or.inr ⟨acquiring, moved.executed_iff.mp executed⟩
      | delete => exact holds
      | retry => exact holds
  | granted acquiring told =>
      have honest := coherent.setnx_honest (by simp [acquiring])
      exact Or.inr ⟨acquiring, honest true told⟩
  | denied acquiring done told => simp [Holds] at holds
  | deleted releasing found told => simp [Holds] at holds
  | repeated releasing found => simp [Holds] at holds
  | blockedEntry acquiring fresh => simp [Holds] at holds
  | blockedExit releasing fresh => simp [Holds] at holds
  | cancelledEntry acquiring => simp [Holds] at holds
  | cancelledExit releasing => simp [Holds] at holds
  | left inside => simp [Holds] at holds
  | turnedAway refused => simp [Holds] at holds

end Handshake

namespace LoginLock

variable {lock next : LoginLock} {action : LockAction}

@[simp] theorem withHandshake_self (index : Nat) (handshake : Handshake) :
    (lock.withHandshake index handshake).handshakes index = handshake := by
  simp [withHandshake]

theorem withHandshake_other {index other : Nat} (differs : other ≠ index)
    (handshake : Handshake) :
    (lock.withHandshake index handshake).handshakes other =
      lock.handshakes other := by
  simp [withHandshake, differs]

/-- Everything that a step can do. -/
inductive Stepped (lock : LoginLock) : LockAction → LoginLock → Prop where
  | advanced {index : Nat} {move : HandshakeMove} {later : Handshake} :
      (lock.handshakes index).Advanced move later →
      Stepped lock (.advance index move) (lock.withHandshake index later)
  | executed {index : Nat} {command : LockCommand} {task : RedisTask} :
      (lock.handshakes index).task command = some task →
      task.stage = .sent →
      Stepped lock (.execute index command)
        { lock.withHandshake index
            ((lock.handshakes index).withTask
              { task with
                stage := .executed (run lock.owner index command).1 }
              command) with
          owner := (run lock.owner index command).2 }

theorem step_stepped {events : List Empty}
    (stepped : step lock action = some (next, events)) :
    Stepped lock action next := by
  cases action with
  | advance index move =>
      simp only [step] at stepped
      obtain ⟨later, advanced, same⟩ := Option.map_eq_some_iff.mp stepped
      cases same
      exact .advanced (Handshake.advance_advanced advanced)
  | execute index command =>
      simp only [step] at stepped
      obtain ⟨result, executed, same⟩ := Option.map_eq_some_iff.mp stepped
      cases same
      simp only [execute] at executed
      split at executed
      · cases executed
      · rename_i task found
        obtain ⟨later, done, rfl⟩ := Option.map_eq_some_iff.mp executed
        obtain ⟨sent, rfl⟩ := RedisTask.execute_eq_some done
        exact .executed found sent

/-- The handshake that stored the lock is inside or is about to learn that
it may enter. -/
def Held (lock : LoginLock) : Prop :=
  ∃ holder, lock.owner = some holder ∧ (lock.handshakes holder).Holds

instance (lock : LoginLock) : Decidable lock.Held :=
  match owned : lock.owner with
  | none => .isFalse (by simp [Held, owned])
  | some holder =>
      decidable_of_iff (lock.handshakes holder).Holds
        (by simp [Held, owned])

/-- No `DEL` is executed while the lock is held. -/
def SparesHolder (lock : LoginLock) : LockAction → Prop
  | .advance _ _ => True
  | .execute _ command => command = .setnx ∨ ¬ lock.Held

instance (lock : LoginLock) :
    ∀ action, Decidable (lock.SparesHolder action)
  | .advance _ _ => .isTrue trivial
  | .execute _ command =>
      inferInstanceAs (Decidable (command = .setnx ∨ ¬ lock.Held))

/-- Every holder owns the lock. -/
def Exclusive (lock : LoginLock) : Prop :=
  ∀ index, (lock.handshakes index).Coherent ∧
    ((lock.handshakes index).Holds → lock.owner = some index)

theorem exclusive_initial : Exclusive {} := by
  intro index
  refine ⟨Handshake.coherent_absent, ?_⟩
  intro holds
  simp [Handshake.Holds] at holds

theorem Exclusive.advance (exclusive : Exclusive lock) {index : Nat}
    {move : HandshakeMove} {later : Handshake}
    (advanced : (lock.handshakes index).Advanced move later) :
    Exclusive (lock.withHandshake index later) := by
  intro other
  by_cases same : other = index
  · subst same
    obtain ⟨coherent, owns⟩ := exclusive other
    rw [withHandshake_self]
    refine ⟨coherent.advanced advanced, ?_⟩
    intro holds
    exact owns (coherent.holds_of_advanced advanced holds)
  · rw [withHandshake_other same]
    exact exclusive other

/-- A `SETNX` gives the lock to its handshake only if nobody holds it. -/
theorem Exclusive.executeSetnx (exclusive : Exclusive lock) {index : Nat}
    {task : RedisTask}
    (found : (lock.handshakes index).task .setnx = some task)
    (sent : task.stage = .sent) :
    Exclusive { lock.withHandshake index
        ((lock.handshakes index).withTask
          { task with
            stage := .executed (run lock.owner index .setnx).1 } .setnx) with
      owner := (run lock.owner index .setnx).2 } := by
  have honest := ((exclusive index).1.honest found).executed sent
  obtain ⟨_, rfl⟩ := Handshake.task_setnx_eq_some.mp found
  intro other
  by_cases same : other = index
  · subst same
    simp only [withHandshake_self]
    refine ⟨?_, ?_⟩
    · exact (exclusive other).1.withTask found (honest _)
    · intro holds
      cases owned : lock.owner with
      | none => simp [run]
      | some owner =>
          simp only [run, owned] at holds ⊢
          rcases holds with inside | ⟨_, executed⟩
          · rw [← owned]
            exact (exclusive other).2 (Or.inl inside)
          · cases executed
  · simp only [withHandshake_other same]
    refine ⟨(exclusive other).1, ?_⟩
    intro holds
    have owned := (exclusive other).2 holds
    simp [run, owned]

/-- A `DEL` may remove any lock that nobody holds. -/
theorem Exclusive.executeDelete (exclusive : Exclusive lock) {index : Nat}
    {command : LockCommand} {task : RedisTask} (reply : Bool)
    (other : command ≠ .setnx) (free : ¬ lock.Held)
    (found : (lock.handshakes index).task command = some task)
    (sent : task.stage = .sent) :
    Exclusive { lock.withHandshake index
        ((lock.handshakes index).withTask
          { task with stage := .executed reply } command) with
      owner := none } := by
  intro someone
  by_cases same : someone = index
  · subst same
    simp only [withHandshake_self]
    obtain ⟨coherent, _⟩ := exclusive someone
    have honest := (coherent.honest found).executed sent reply
    refine ⟨coherent.withTask found honest, ?_⟩
    intro holds
    rcases coherent.ended other found with releasing | finished
    · cases command <;>
        simp_all [Handshake.Holds, Handshake.withTask]
    · cases command <;>
        simp_all [Handshake.Holds, Handshake.withTask]
  · simp only [withHandshake_other same]
    refine ⟨(exclusive someone).1, ?_⟩
    intro holds
    exact absurd ⟨someone, (exclusive someone).2 holds, holds⟩ free

theorem Exclusive.step (exclusive : Exclusive lock)
    (spares : lock.SparesHolder action)
    (stepped : Stepped lock action next) : Exclusive next := by
  cases stepped with
  | advanced advanced => exact exclusive.advance advanced
  | @executed index command task found sent =>
      cases command with
      | setnx => exact exclusive.executeSetnx found sent
      | delete =>
          rcases spares with setnx | free
          · cases setnx
          · exact exclusive.executeDelete _ nofun free found sent
      | retry =>
          rcases spares with setnx | free
          · cases setnx
          · exact exclusive.executeDelete _ nofun free found sent

/-- As long as no `DEL` removes the lock of a holder, at most one handshake
is inside. -/
theorem inside_unique {trace : List Empty}
    (run : Run step SparesHolder {} trace lock) {first second : Nat}
    (firstInside : (lock.handshakes first).phase = .inside)
    (secondInside : (lock.handshakes second).phase = .inside) :
    first = second := by
  have exclusive : Exclusive lock := by
    apply run.state_invariant exclusive_initial
    intro events lock next action exclusive spares stepped
    exact exclusive.step spares (step_stepped stepped)
  have firstOwns := (exclusive first).2 (Or.inl firstInside)
  have secondOwns := (exclusive second).2 (Or.inl secondInside)
  rw [firstOwns] at secondOwns
  exact Option.some.inj secondOwns

/-- The actions of a handshake that gets the lock. -/
def enters (index : Nat) : List LockAction :=
  [.advance index .enter, .advance index (.task .setnx .take),
    .execute index .setnx, .advance index (.task .setnx .reply),
    .advance index .proceed]

/-- The actions of a handshake that ends and whose `DEL` is executed. -/
def releases (index : Nat) : List LockAction :=
  [.advance index .leave, .advance index (.task .delete .take),
    .execute index .delete]

/-- Two handshakes enter one after the other. -/
theorem inside_unique_twice :
    ∃ trace lock, Run step SparesHolder {} trace lock ∧
      (lock.handshakes 0).phase = .finished ∧
      (lock.handshakes 1).phase = .inside ∧
      ∀ other, (lock.handshakes other).phase = .inside → 1 = other := by
  have entered : ∃ trace lock, Run step SparesHolder {} trace lock ∧
      ((lock.handshakes 0).phase = .finished ∧
        (lock.handshakes 1).phase = .inside) := by
    apply Run.exists_state_of_exec
      (enters 0 ++ releases 0 ++ [LockAction.advance 0 (.task .delete .reply),
        .advance 0 .proceed] ++ enters 1)
    decide
  obtain ⟨trace, lock, run, finished, inside⟩ := entered
  refine ⟨trace, lock, run, finished, inside, ?_⟩
  intro other otherInside
  exact inside_unique run inside otherInside

/-- The reply of a `DEL` comes too late, so that its handshake repeats it;
meanwhile another handshake has taken the lock. -/
theorem inside_twice_after_retry :
    ∃ trace lock, AnyRun step {} trace lock ∧
      (lock.handshakes 1).phase = .inside ∧
      (lock.handshakes 2).phase = .inside := by
  apply Run.exists_state_of_exec
    (enters 0 ++ releases 0 ++ [LockAction.advance 0 (.task .delete .timeout),
      .advance 0 .proceed] ++ enters 1 ++
      [LockAction.advance 0 (.task .retry .take), .execute 0 .retry] ++
      enters 2)
  decide

end LoginLock

end Gateway

end TinyChat
