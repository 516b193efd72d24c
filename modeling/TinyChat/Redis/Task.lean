/-!
# Write tasks of the Redis service

A caller of `redis_write` puts a task on the write channel and waits for its
`waiter` until a timeout.  A writer takes the task, sends the command and
resolves the waiter.  Whether the command is executed and what the caller is
told are two things: a task whose caller gave up is skipped only as long as
no writer has taken it.
-/

namespace TinyChat

namespace Redis

/-- Where the command of a task is. -/
inductive Stage where
  | queued
  | sent
  | executed (reply : Bool)
  | dropped
  deriving DecidableEq

/-- The future of a task; a result of `none` reports a failure, and the
caller cancels it when its time is over. -/
inductive Waiter where
  | pending
  | result (data : Option Bool)
  | cancelled
  deriving DecidableEq

structure RedisTask where
  stage : Stage := .queued
  waiter : Waiter := .pending
  deriving DecidableEq

/-- What can happen to a task besides the execution of its command: a writer
takes it, the command is lost on the way, the writer reports the reply or an
exception, the service is closing, or the caller's time is over. -/
inductive TaskMove where
  | take
  | lose
  | reply
  | fail
  | refuse
  | timeout
  deriving DecidableEq

namespace RedisTask

/-- The command may still be executed. -/
def InFlight (task : RedisTask) : Prop :=
  task.stage = .queued ∨ task.stage = .sent

instance (task : RedisTask) : Decidable task.InFlight :=
  inferInstanceAs (Decidable (_ ∨ _))

def move (task : RedisTask) : TaskMove → Option RedisTask
  | .take =>
      match task.stage, task.waiter with
      | .queued, .pending => some { task with stage := .sent }
      | .queued, _ => some { task with stage := .dropped }
      | _, _ => none
  | .lose =>
      match task.stage with
      | .sent => some { task with stage := .dropped }
      | _ => none
  | .reply =>
      match task.stage, task.waiter with
      | .executed reply, .pending =>
          some { task with waiter := .result (some reply) }
      | _, _ => none
  | .fail =>
      match task.stage, task.waiter with
      | .queued, _ => none
      | _, .pending => some { task with waiter := .result none }
      | _, _ => none
  | .refuse =>
      match task.stage, task.waiter with
      | .queued, .pending =>
          some { stage := .dropped, waiter := .result none }
      | _, _ => none
  | .timeout =>
      match task.waiter with
      | .pending => some { task with waiter := .cancelled }
      | _ => none

/-- The writer waits for the reply of a command that Redis executes. -/
def execute (task : RedisTask) (reply : Bool) : Option RedisTask :=
  match task.stage with
  | .sent => some { task with stage := .executed reply }
  | _ => none

/-- Everything that a move can do to a task. -/
inductive Moved (task : RedisTask) : TaskMove → RedisTask → Prop where
  | taken : task.stage = .queued → task.waiter = .pending →
      Moved task .take { task with stage := .sent }
  | skipped : task.stage = .queued → task.waiter ≠ .pending →
      Moved task .take { task with stage := .dropped }
  | lost : task.stage = .sent →
      Moved task .lose { task with stage := .dropped }
  | replied {reply : Bool} : task.stage = .executed reply →
      task.waiter = .pending →
      Moved task .reply { task with waiter := .result (some reply) }
  | failed : task.stage ≠ .queued → task.waiter = .pending →
      Moved task .fail { task with waiter := .result none }
  | refused : task.stage = .queued → task.waiter = .pending →
      Moved task .refuse { stage := .dropped, waiter := .result none }
  | timedOut : task.waiter = .pending →
      Moved task .timeout { task with waiter := .cancelled }

variable {task next : RedisTask}

theorem move_moved {move : TaskMove} (moved : task.move move = some next) :
    Moved task move next := by
  obtain ⟨stage, waiter⟩ := task
  cases move with
  | take =>
      cases stage with
      | queued =>
          cases waiter with
          | pending =>
              cases moved
              exact .taken rfl rfl
          | result data =>
              cases moved
              exact .skipped rfl nofun
          | cancelled =>
              cases moved
              exact .skipped rfl nofun
      | sent => cases moved
      | executed reply => cases moved
      | dropped => cases moved
  | lose =>
      cases stage with
      | sent =>
          cases moved
          exact .lost rfl
      | queued => cases moved
      | executed reply => cases moved
      | dropped => cases moved
  | reply =>
      cases stage with
      | executed reply =>
          cases waiter with
          | pending =>
              cases moved
              exact .replied rfl rfl
          | result data => cases moved
          | cancelled => cases moved
      | queued => cases moved
      | sent => cases moved
      | dropped => cases moved
  | fail =>
      cases waiter with
      | pending =>
          cases stage with
          | queued => cases moved
          | sent =>
              cases moved
              exact .failed nofun rfl
          | executed reply =>
              cases moved
              exact .failed nofun rfl
          | dropped =>
              cases moved
              exact .failed nofun rfl
      | result data => cases stage <;> cases moved
      | cancelled => cases stage <;> cases moved
  | refuse =>
      cases stage with
      | queued =>
          cases waiter with
          | pending =>
              cases moved
              exact .refused rfl rfl
          | result data => cases moved
          | cancelled => cases moved
      | sent => cases moved
      | executed reply => cases moved
      | dropped => cases moved
  | timeout =>
      cases waiter with
      | pending =>
          cases moved
          exact .timedOut rfl
      | result data => cases moved
      | cancelled => cases moved

theorem Moved.stage_eq {move : TaskMove} (moved : Moved task move next) :
    next.stage = task.stage ∨ next.stage = .dropped ∨
      (task.stage = .queued ∧ next.stage = .sent) := by
  cases moved with
  | taken queued pending => exact Or.inr (Or.inr ⟨queued, rfl⟩)
  | skipped queued done => exact Or.inr (Or.inl rfl)
  | lost sent => exact Or.inr (Or.inl rfl)
  | replied executed pending => exact Or.inl rfl
  | failed started pending => exact Or.inl rfl
  | refused queued pending => exact Or.inr (Or.inl rfl)
  | timedOut pending => exact Or.inl rfl

theorem Moved.executed_iff {move : TaskMove} (moved : Moved task move next)
    {reply : Bool} :
    next.stage = .executed reply ↔ task.stage = .executed reply := by
  cases moved with
  | taken queued pending => simp [queued]
  | skipped queued done => simp [queued]
  | lost sent => simp [sent]
  | replied executed pending => rfl
  | failed started pending => rfl
  | refused queued pending => simp [queued]
  | timedOut pending => rfl

theorem execute_eq_some {reply : Bool}
    (executed : task.execute reply = some next) :
    task.stage = .sent ∧ next = { task with stage := .executed reply } := by
  unfold execute at executed
  split at executed
  · rename_i sent
    cases executed
    exact ⟨sent, rfl⟩
  · cases executed

/-- A reply that was told is the reply of the command. -/
def Honest (task : RedisTask) : Prop :=
  ∀ reply, task.waiter = .result (some reply) → task.stage = .executed reply

theorem honest_fresh : Honest {} := by
  intro reply told
  cases told

theorem Honest.moved (honest : task.Honest) {move : TaskMove}
    (moved : Moved task move next) : next.Honest := by
  intro reply told
  rw [moved.executed_iff]
  cases moved with
  | taken queued pending => exact honest reply told
  | skipped queued done => exact honest reply told
  | lost sent => exact honest reply told
  | replied executed pending =>
      cases told
      exact executed
  | failed started pending => cases told
  | refused queued pending => cases told
  | timedOut pending => cases told

theorem Honest.executed (honest : task.Honest) (sent : task.stage = .sent)
    (reply : Bool) :
    Honest { task with stage := .executed reply } := by
  intro other told
  have impossible := honest other told
  rw [sent] at impossible
  cases impossible

end RedisTask

end Redis

end TinyChat
