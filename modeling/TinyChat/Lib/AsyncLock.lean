import Mathlib.Data.List.Perm.Basic

/-!
# A lock between cooperative tasks

The lock of an event loop: at most one task holds it, the others wait in
their order of arrival.  A released lock is not taken by a newcomer while
somebody waits for it.
-/

structure AsyncLock (τ : Type) where
  holder : Option τ := none
  waiters : List τ := []

namespace AsyncLock

variable {τ : Type}

/-- Whether an acquisition succeeds without suspending. -/
def available (lock : AsyncLock τ) : Bool :=
  lock.holder.isNone && lock.waiters.isEmpty

def hold (lock : AsyncLock τ) (task : τ) : AsyncLock τ :=
  { lock with holder := some task }

def wait (lock : AsyncLock τ) (task : τ) : AsyncLock τ :=
  { lock with waiters := lock.waiters ++ [task] }

def release (lock : AsyncLock τ) : AsyncLock τ :=
  { lock with holder := none }

/-- Give the lock to the waiter at a position, if nobody holds it. -/
def resume (lock : AsyncLock τ) (index : Nat) : Option (τ × AsyncLock τ) :=
  match lock.holder, lock.waiters[index]? with
  | none, some task =>
      some (task,
        { holder := some task, waiters := lock.waiters.eraseIdx index })
  | _, _ => none

/-- The tasks that hold the lock or wait for it, in the order in which they
leave it. -/
def tasks (lock : AsyncLock τ) : List τ :=
  lock.holder.toList ++ lock.waiters

theorem available_iff (lock : AsyncLock τ) :
    lock.available = true ↔ lock.holder = none ∧ lock.waiters = [] := by
  simp [available]

@[simp] theorem hold_holder (lock : AsyncLock τ) (task : τ) :
    (lock.hold task).holder = some task := rfl

@[simp] theorem hold_waiters (lock : AsyncLock τ) (task : τ) :
    (lock.hold task).waiters = lock.waiters := rfl

@[simp] theorem wait_holder (lock : AsyncLock τ) (task : τ) :
    (lock.wait task).holder = lock.holder := rfl

@[simp] theorem wait_waiters (lock : AsyncLock τ) (task : τ) :
    (lock.wait task).waiters = lock.waiters ++ [task] := rfl

@[simp] theorem release_holder (lock : AsyncLock τ) :
    lock.release.holder = none := rfl

@[simp] theorem release_waiters (lock : AsyncLock τ) :
    lock.release.waiters = lock.waiters := rfl

theorem tasks_wait (lock : AsyncLock τ) (task : τ) :
    (lock.wait task).tasks = lock.tasks ++ [task] := by
  simp [tasks]

theorem tasks_hold {lock : AsyncLock τ} (task : τ)
    (free : lock.available = true) : (lock.hold task).tasks = [task] := by
  obtain ⟨_, empty⟩ := lock.available_iff.mp free
  simp [tasks, empty]

theorem tasks_of_held {lock : AsyncLock τ} {task : τ}
    (held : lock.holder = some task) :
    lock.tasks = task :: lock.release.tasks := by
  simp [tasks, held]

theorem mem_tasks_of_held {lock : AsyncLock τ} {task : τ}
    (held : lock.holder = some task) : task ∈ lock.tasks := by
  rw [tasks_of_held held]
  exact List.mem_cons_self

theorem mem_tasks_of_release {lock : AsyncLock τ} {task : τ}
    (member : task ∈ lock.release.tasks) : task ∈ lock.tasks := by
  simp only [tasks, release_holder, Option.toList_none, release_waiters,
    List.nil_append] at member
  exact List.mem_append.mpr (Or.inr member)

theorem mem_tasks_wait {lock : AsyncLock τ} {task other : τ}
    (member : other ∈ (lock.wait task).tasks) :
    other ∈ lock.tasks ∨ other = task := by
  rw [tasks_wait] at member
  rcases List.mem_append.mp member with earlier | new
  · exact Or.inl earlier
  · exact Or.inr (List.mem_singleton.mp new)

theorem mem_tasks_hold {lock : AsyncLock τ} {task other : τ}
    (free : lock.available = true)
    (member : other ∈ (lock.hold task).tasks) : other = task := by
  rw [tasks_hold task free] at member
  exact List.mem_singleton.mp member

theorem resume_eq_some {lock resumed : AsyncLock τ} {index : Nat} {task : τ}
    (success : lock.resume index = some (task, resumed)) :
    lock.holder = none ∧ lock.waiters[index]? = some task ∧
      resumed.holder = some task ∧
      resumed.waiters = lock.waiters.eraseIdx index := by
  unfold resume at success
  split at success
  · rename_i waiting unheld present
    simp only [Option.some.injEq, Prod.mk.injEq] at success
    obtain ⟨rfl, rfl⟩ := success
    exact ⟨unheld, present, rfl, rfl⟩
  · cases success

/-- Resuming a waiter reorders the tasks of the lock and loses none. -/
theorem tasks_resume {lock resumed : AsyncLock τ} {index : Nat} {task : τ}
    (success : lock.resume index = some (task, resumed)) :
    resumed.tasks.Perm lock.tasks := by
  obtain ⟨unheld, present, held, rest⟩ := resume_eq_some success
  obtain ⟨bound, rfl⟩ := List.getElem?_eq_some_iff.mp present
  simp only [tasks, unheld, held, rest, Option.toList_some,
    Option.toList_none, List.nil_append, List.singleton_append]
  exact List.getElem_cons_eraseIdx_perm bound

theorem mem_tasks_of_resume {lock resumed : AsyncLock τ} {index : Nat}
    {task other : τ} (success : lock.resume index = some (task, resumed))
    (member : other ∈ resumed.tasks) : other ∈ lock.tasks :=
  (tasks_resume success).mem_iff.mp member

theorem mem_tasks_of_resumed {lock resumed : AsyncLock τ} {index : Nat}
    {task : τ} (success : lock.resume index = some (task, resumed)) :
    task ∈ lock.tasks := by
  obtain ⟨_, _, held, _⟩ := resume_eq_some success
  exact mem_tasks_of_resume success (mem_tasks_of_held held)

/-- The lock is fair when it resumes the first waiter. -/
theorem tasks_resume_first {lock resumed : AsyncLock τ} {task : τ}
    (success : lock.resume 0 = some (task, resumed)) :
    resumed.tasks = lock.tasks := by
  obtain ⟨unheld, present, held, rest⟩ := resume_eq_some success
  cases waiting : lock.waiters with
  | nil => simp [waiting] at present
  | cons first others =>
      simp only [waiting, List.getElem?_cons_zero, Option.some.injEq]
        at present
      simp [tasks, unheld, held, rest, waiting, present]

end AsyncLock
