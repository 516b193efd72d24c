import Mathlib.Data.Int.Basic
import TinyChat.Redis.Task

/-!
# A counter with rollbacks

`redis_incr` is a write task whose command increments a counter.  When a
writer finds that the caller of a command that it has executed has gone, it
queues a `DECR`.  A writer that is cancelled while its service is closing
queues the `DECR` of its last command, whoever has taken its reply.
-/

namespace TinyChat

namespace Redis

/-- Where the rollback of a command is. -/
inductive Rollback where
  | none
  | queued
  | executed
  | lost
  deriving DecidableEq

/-- An `INCR` task, with the value in the reply of its command. -/
structure IncrTask where
  task : RedisTask := {}
  value : Int := 0
  rollback : Rollback := .none

/-- A counter, and all tasks that were put on write channels for it. -/
structure RedisCounter where
  value : Int := 0
  tasks : Nat → Option IncrTask := fun _ => .none

/-- A task is put on a write channel, it makes a move, or Redis executes its
command; a writer queues a rollback because the caller has gone, or because
the service is closing; Redis executes the rollback, or it is lost. -/
inductive CounterAction where
  | issue (task : Nat)
  | move (task : Nat) (move : TaskMove)
  | execute (task : Nat)
  | schedule (task : Nat)
  | close (task : Nat)
  | rollback (task : Nat)
  | lose (task : Nat)

namespace RedisCounter

def withTask (counter : RedisCounter) (task : Nat) (incr : IncrTask) :
    RedisCounter :=
  { counter with tasks := Function.update counter.tasks task (some incr) }

/-- What a task can do to the counter. -/
def act (increment : Int) (counter : RedisCounter) :
    CounterAction → Option RedisCounter
  | .issue task =>
      match counter.tasks task with
      | .none => some (counter.withTask task {})
      | some _ => .none
  | .move task move =>
      (counter.tasks task).bind (fun incr =>
        (incr.task.move move).map (fun moved =>
          counter.withTask task { incr with task := moved }))
  | .execute task =>
      (counter.tasks task).bind (fun incr =>
        (incr.task.execute true).map (fun executed =>
          { counter.withTask task
              { incr with
                task := executed
                value := counter.value + increment } with
            value := counter.value + increment }))
  | .schedule task =>
      (counter.tasks task).bind (fun incr =>
        if incr.task.stage = .executed true ∧
            incr.task.waiter = .cancelled ∧ incr.rollback = .none then
          some (counter.withTask task { incr with rollback := .queued })
        else .none)
  | .close task =>
      (counter.tasks task).bind (fun incr =>
        if incr.task.stage ≠ .queued ∧ incr.rollback = .none then
          some (counter.withTask task { incr with rollback := .queued })
        else .none)
  | .rollback task =>
      (counter.tasks task).bind (fun incr =>
        if incr.rollback = .queued then
          some
            { counter.withTask task { incr with rollback := .executed } with
              value := counter.value - increment }
        else .none)
  | .lose task =>
      (counter.tasks task).bind (fun incr =>
        if incr.rollback = .queued then
          some (counter.withTask task { incr with rollback := .lost })
        else .none)

end RedisCounter

/-- The command was executed and was not rolled back. -/
def IncrTask.Held (incr : IncrTask) : Prop :=
  incr.task.stage = .executed true ∧ incr.rollback ≠ .executed

/-- A rollback takes back the last increment, whose caller has gone. -/
def RedisCounter.TakesBackLast (counter : RedisCounter) :
    CounterAction → Prop
  | .rollback task => ∀ incr ∈ counter.tasks task,
      incr.task.stage = .executed true ∧
        incr.task.waiter = .cancelled ∧ incr.value = counter.value
  | _ => True

/-- The values that were returned and not taken back are different. -/
structure RedisCounter.Sound (increment : Int) (counter : RedisCounter) :
    Prop where
  nonneg : 0 ≤ counter.value
  multiple : increment ∣ counter.value
  replies : ∀ task incr reply, counter.tasks task = some incr →
    incr.task.stage = .executed reply → reply = true
  honest : ∀ task incr, counter.tasks task = some incr → incr.task.Honest
  undone : ∀ task incr, counter.tasks task = some incr →
    incr.rollback = .executed → incr.task.waiter = .cancelled
  bounds : ∀ task incr, counter.tasks task = some incr → incr.Held →
    increment ≤ incr.value ∧ incr.value ≤ counter.value ∧
      increment ∣ incr.value
  distinct : ∀ task other incr same, counter.tasks task = some incr →
    counter.tasks other = some same → incr.Held → same.Held →
    incr.value = same.value → task = other

theorem RedisTask.Moved.done {task next : RedisTask} {move : TaskMove}
    (moved : RedisTask.Moved task move next)
    (done : task.waiter ≠ .pending) : next.waiter = task.waiter := by
  cases moved with
  | taken queued pending | replied executed pending
  | failed started pending | refused queued pending
  | timedOut pending => exact absurd pending done
  | skipped queued done => rfl
  | lost sent => rfl

namespace RedisCounter

variable {increment : Int} {counter next : RedisCounter}

theorem sound_initial (increment : Int) : Sound increment {} where
  nonneg := Int.le_refl 0
  multiple := Int.dvd_zero increment
  replies := by
    intro task incr reply found
    cases found
  honest := by
    intro task incr found
    cases found
  undone := by
    intro task incr found
    cases found
  bounds := by
    intro task incr found
    cases found
  distinct := by
    intro task other incr same found
    cases found

theorem tasks_withTask {task other : Nat} {incr found : IncrTask}
    (listed : (counter.withTask task incr).tasks other = some found) :
    other = task ∧ found = incr ∨
      other ≠ task ∧ counter.tasks other = some found := by
  by_cases same : other = task
  · subst same
    simp only [withTask, Function.update_self, Option.some.injEq] at listed
    exact .inl ⟨rfl, listed.symm⟩
  · simp only [withTask, Function.update_of_ne same] at listed
    exact .inr ⟨same, listed⟩

/-- A task changes, and holds a value only if it has held it. -/
theorem Sound.withTask (sound : Sound increment counter) {task : Nat}
    {incr : IncrTask} (value : Int) (nonneg : 0 ≤ value)
    (multiple : increment ∣ value)
    (replies : ∀ reply, incr.task.stage = .executed reply → reply = true)
    (honest : incr.task.Honest)
    (undone : incr.rollback = .executed → incr.task.waiter = .cancelled)
    (bounds : incr.Held → increment ≤ incr.value ∧ incr.value ≤ value ∧
      increment ∣ incr.value)
    (others : ∀ other found, other ≠ task →
      counter.tasks other = some found → found.Held →
      found.value ≤ value ∧ (incr.Held → incr.value ≠ found.value)) :
    Sound increment { counter.withTask task incr with value := value } := by
  constructor
  case nonneg => exact nonneg
  case multiple => exact multiple
  case replies =>
    intro other found reply listed
    rcases tasks_withTask listed with ⟨rfl, rfl⟩ | ⟨-, before⟩
    · exact replies reply
    · exact sound.replies other found reply before
  case honest =>
    intro other found listed
    rcases tasks_withTask listed with ⟨rfl, rfl⟩ | ⟨-, before⟩
    · exact honest
    · exact sound.honest other found before
  case undone =>
    intro other found listed
    rcases tasks_withTask listed with ⟨rfl, rfl⟩ | ⟨-, before⟩
    · exact undone
    · exact sound.undone other found before
  case bounds =>
    intro other found listed held
    rcases tasks_withTask listed with ⟨rfl, rfl⟩ | ⟨different, before⟩
    · exact bounds held
    · obtain ⟨lower, -, divides⟩ := sound.bounds other found before held
      exact ⟨lower, (others other found different before held).1, divides⟩
  case distinct =>
    intro first second one two listed also held too same
    rcases tasks_withTask listed with ⟨rfl, rfl⟩ | ⟨different, before⟩
    · rcases tasks_withTask also with ⟨rfl, rfl⟩ | ⟨apart, earlier⟩
      · rfl
      · exact absurd same ((others second two apart earlier too).2 held)
    · rcases tasks_withTask also with ⟨rfl, rfl⟩ | ⟨apart, earlier⟩
      · exact absurd same.symm
          ((others first one different before held).2 too)
      · exact sound.distinct first second one two before earlier held too
          same

theorem Sound.retask (sound : Sound increment counter) {task : Nat}
    {before incr : IncrTask} (listed : counter.tasks task = some before)
    (held : incr.Held → before.Held) (value : incr.value = before.value)
    (replies : ∀ reply, incr.task.stage = .executed reply → reply = true)
    (honest : incr.task.Honest)
    (undone : incr.rollback = .executed →
      incr.task.waiter = .cancelled) :
    Sound increment (counter.withTask task incr) := by
  refine sound.withTask counter.value sound.nonneg sound.multiple replies
    honest undone ?_ ?_
  · intro now
    rw [value]
    exact sound.bounds task before listed (held now)
  · intro other found different elsewhere also
    refine ⟨(sound.bounds other found elsewhere also).2.1, ?_⟩
    intro now same
    rw [value] at same
    exact different (sound.distinct task other before found listed
      elsewhere (held now) also same).symm

theorem Sound.reschedule (sound : Sound increment counter) {task : Nat}
    {incr : IncrTask} {rollback : Rollback}
    (listed : counter.tasks task = some incr)
    (before : incr.rollback ≠ .executed) (after : rollback ≠ .executed) :
    Sound increment
      (counter.withTask task { incr with rollback := rollback }) := by
  refine sound.retask listed ?_ rfl ?_ ?_ ?_
  · exact fun held => ⟨held.1, before⟩
  · exact fun reply => sound.replies task incr reply listed
  · exact sound.honest task incr listed
  · exact fun undone => absurd undone after

theorem le_sub_of_dvd {small large : Int} (less : small < large)
    (one : increment ∣ small) (two : increment ∣ large) :
    small ≤ large - increment := by
  have apart := Int.le_of_dvd (Int.sub_pos_of_lt less)
    (Int.dvd_sub two one)
  omega

theorem Sound.issue (sound : Sound increment counter) (task : Nat) :
    Sound increment (counter.withTask task {}) := by
  refine sound.withTask counter.value sound.nonneg sound.multiple ?_
    RedisTask.honest_fresh ?_ ?_ ?_
  · intro reply executed
    cases executed
  · intro undone
    cases undone
  · intro held
    cases held.1
  · intro other found different elsewhere also
    refine ⟨(sound.bounds other found elsewhere also).2.1, ?_⟩
    intro held
    cases held.1

theorem Sound.act (positive : 0 < increment)
    (sound : Sound increment counter) {action : CounterAction}
    (last : counter.TakesBackLast action)
    (acted : counter.act increment action = some next) :
    Sound increment next := by
  cases action with
  | issue task =>
      simp only [RedisCounter.act] at acted
      split at acted
      · cases acted
        exact sound.issue task
      · cases acted
  | move task move =>
      obtain ⟨incr, listed, acted⟩ := Option.bind_eq_some_iff.mp acted
      obtain ⟨moved, happened, rfl⟩ := Option.map_eq_some_iff.mp acted
      have changed := RedisTask.move_moved happened
      refine sound.retask listed ?_ rfl ?_ ?_ ?_
      · intro held
        exact ⟨changed.executed_iff.mp held.1, held.2⟩
      · intro reply executed
        exact sound.replies task incr reply listed
          (changed.executed_iff.mp executed)
      · exact (sound.honest task incr listed).moved changed
      · intro undone
        have gone := sound.undone task incr listed undone
        refine (changed.done ?_).trans gone
        rw [gone]
        exact fun same => Waiter.noConfusion same
  | execute task =>
      obtain ⟨incr, listed, acted⟩ := Option.bind_eq_some_iff.mp acted
      obtain ⟨executed, happened, rfl⟩ := Option.map_eq_some_iff.mp acted
      obtain ⟨sent, rfl⟩ := RedisTask.execute_eq_some happened
      have nonneg := sound.nonneg
      have divides : increment ∣ counter.value + increment :=
        Int.dvd_add sound.multiple (Int.dvd_refl increment)
      refine sound.withTask _ (by omega) divides ?_ ?_ ?_ ?_ ?_
      · intro reply executed
        cases executed
        rfl
      · exact (sound.honest task incr listed).executed sent true
      · exact sound.undone task incr listed
      · intro _
        refine ⟨?_, Int.le_refl _, divides⟩
        exact Int.le_add_of_nonneg_left nonneg
      · intro other found different elsewhere also
        have bound := (sound.bounds other found elsewhere also).2.1
        refine ⟨by omega, ?_⟩
        intro _ same
        simp only at same
        omega
  | schedule task =>
      obtain ⟨incr, listed, acted⟩ := Option.bind_eq_some_iff.mp acted
      split at acted
      · rename_i enabled
        cases acted
        refine sound.reschedule listed ?_ ?_
        · rw [enabled.2.2]
          exact fun same => Rollback.noConfusion same
        · exact fun same => Rollback.noConfusion same
      · cases acted
  | close task =>
      obtain ⟨incr, listed, acted⟩ := Option.bind_eq_some_iff.mp acted
      split at acted
      · rename_i enabled
        cases acted
        refine sound.reschedule listed ?_ ?_
        · rw [enabled.2]
          exact fun same => Rollback.noConfusion same
        · exact fun same => Rollback.noConfusion same
      · cases acted
  | rollback task =>
      obtain ⟨incr, listed, acted⟩ := Option.bind_eq_some_iff.mp acted
      split at acted
      · rename_i queued
        cases acted
        obtain ⟨executed, gone, current⟩ := last incr listed
        have held : incr.Held := by
          refine ⟨executed, ?_⟩
          rw [queued]
          exact fun same => Rollback.noConfusion same
        obtain ⟨lower, -, divides⟩ := sound.bounds task incr listed held
        refine sound.withTask _ (by omega)
          (Int.dvd_sub sound.multiple (Int.dvd_refl increment)) ?_ ?_ ?_
          ?_ ?_
        · exact fun reply => sound.replies task incr reply listed
        · exact sound.honest task incr listed
        · exact fun _ => gone
        · exact fun now => absurd rfl now.2
        · intro other found different elsewhere also
          obtain ⟨-, upper, multiple⟩ :=
            sound.bounds other found elsewhere also
          have apart : found.value ≠ counter.value := by
            intro same
            rw [← current] at same
            exact different (sound.distinct other task found incr elsewhere
              listed also held same)
          refine ⟨?_, fun now => absurd rfl now.2⟩
          exact le_sub_of_dvd (Int.lt_iff_le_and_ne.mpr ⟨upper, apart⟩)
            multiple sound.multiple
      · cases acted
  | lose task =>
      obtain ⟨incr, listed, acted⟩ := Option.bind_eq_some_iff.mp acted
      split at acted
      · rename_i queued
        cases acted
        refine sound.reschedule listed ?_ ?_
        · rw [queued]
          exact fun same => Rollback.noConfusion same
        · exact fun same => Rollback.noConfusion same
      · cases acted

/-- Everything but a new task changes one of the tasks.  The result of a
waiter that is done stays, and so does the value of a command that is not
under way. -/
theorem act_withTask {action : CounterAction}
    (acted : counter.act increment action = some next)
    (old : ∀ task, action ≠ .issue task) :
    ∃ task incr changed, counter.tasks task = some incr ∧
      next.tasks = (counter.withTask task changed).tasks ∧
      (incr.task.waiter ≠ .pending →
        changed.task.waiter = incr.task.waiter) ∧
      (incr.task.stage ≠ .sent → changed.value = incr.value) := by
  cases action with
  | issue task => exact absurd rfl (old task)
  | move task move =>
      obtain ⟨incr, listed, acted⟩ := Option.bind_eq_some_iff.mp acted
      obtain ⟨moved, happened, rfl⟩ := Option.map_eq_some_iff.mp acted
      exact ⟨task, incr, _, listed, rfl,
        (RedisTask.move_moved happened).done, fun _ => rfl⟩
  | execute task =>
      obtain ⟨incr, listed, acted⟩ := Option.bind_eq_some_iff.mp acted
      obtain ⟨executed, happened, rfl⟩ := Option.map_eq_some_iff.mp acted
      obtain ⟨sent, rfl⟩ := RedisTask.execute_eq_some happened
      exact ⟨task, incr, _, listed, rfl, fun _ => rfl,
        fun started => absurd sent started⟩
  | schedule task | close task | rollback task | lose task =>
      obtain ⟨incr, listed, acted⟩ := Option.bind_eq_some_iff.mp acted
      split at acted
      · cases acted
        exact ⟨task, incr, _, listed, rfl, fun _ => rfl, fun _ => rfl⟩
      · cases acted

theorem act_none {action : CounterAction}
    (acted : counter.act increment action = some next)
    (old : ∀ task, action ≠ .issue task) {task : Nat}
    (missing : counter.tasks task = .none) :
    next.tasks task = .none := by
  obtain ⟨changed, incr, later, listed, same, -, -⟩ :=
    act_withTask acted old
  have different : task ≠ changed := by
    rintro rfl
    rw [missing] at listed
    cases listed
  rw [same]
  exact (Function.update_of_ne different ..).trans missing

theorem Sound.act_told (sound : Sound increment counter)
    {action : CounterAction}
    (acted : counter.act increment action = some next)
    (old : ∀ task, action ≠ .issue task) {task : Nat} {incr : IncrTask}
    {reply : Bool} (listed : counter.tasks task = some incr)
    (told : incr.task.waiter = .result (some reply)) :
    ∃ later, next.tasks task = some later ∧
      later.task.waiter = .result (some reply) ∧
      later.value = incr.value := by
  obtain ⟨changed, before, later, present, same, waiter, value⟩ :=
    act_withTask acted old
  by_cases here : task = changed
  · subst here
    rw [listed] at present
    cases present
    refine ⟨later, ?_, ?_, ?_⟩
    · rw [same]
      exact Function.update_self ..
    · rw [waiter, told]
      rw [told]
      exact fun same => Waiter.noConfusion same
    · apply value
      rw [sound.honest task incr listed reply told]
      exact fun same => Stage.noConfusion same
  · refine ⟨incr, ?_, told, rfl⟩
    rw [same]
    exact (Function.update_of_ne here ..).trans listed

theorem Sound.held_of_told (sound : Sound increment counter) {task : Nat}
    {incr : IncrTask} {reply : Bool}
    (listed : counter.tasks task = some incr)
    (told : incr.task.waiter = .result (some reply)) : incr.Held := by
  have executed := sound.honest task incr listed reply told
  rw [sound.replies task incr reply listed executed] at executed
  refine ⟨executed, ?_⟩
  intro undone
  rw [sound.undone task incr listed undone] at told
  cases told

end RedisCounter

end Redis

end TinyChat
