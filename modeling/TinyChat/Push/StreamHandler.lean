import TinyChat.Lib.Table
import TinyChat.Lib.Transition

/-!
# The handler tasks of a push channel

`stream_handler` starts a task for every event that it reads and keeps it in
`consumers` under the delivery id of the event.  The callback that takes the
task out again reads the variable `delivery_id` of the loop when it runs, not
when the task is started.
-/

namespace TinyChat

namespace Push

/-- A task that is `finished` has its done-callback scheduled, and one that
is `released` has run it. -/
inductive TaskState where
  | running
  | finished
  | released
  deriving DecidableEq

structure HandlerTask where
  deliveryId : Nat
  state : TaskState := .running
  deriving DecidableEq

/-- Where `stream_handler` is: it reads the stream, has an event and waits
for the limiter, or has left the loop. -/
inductive StreamPhase where
  | reading
  | checking (deliveryId : Nat)
  | exited
  deriving DecidableEq

/-- The tasks are numbered in the order in which they are created. -/
structure StreamHandler where
  /-- The variable of the loop that the callbacks share. -/
  deliveryId : Option Nat := none
  tasks : List HandlerTask := []
  consumers : Table Nat Nat := []
  phase : StreamPhase := .reading

/-- What can be observed: which tasks `connect` cancels and waits for. -/
inductive StreamEvent where
  | cancelled (tasks : List Nat)
  deriving DecidableEq

/-- An event is received, the limiter lets the loop create a task for it, the
loop ends (with the stream, by a shutdown or since no handler is known for
the event), a task finishes, its callback runs, or `connect` looks at the
tasks. -/
inductive StreamAction where
  | receive (deliveryId : Nat)
  | start
  | exit
  | finish (task : Nat)
  | callback (task : Nat)
  | connect
  deriving DecidableEq

namespace StreamHandler

def setTask (handler : StreamHandler) (task : Nat) (entry : HandlerTask)
    (state : TaskState) : StreamHandler :=
  { handler with tasks := handler.tasks.set task { entry with state } }

/-- `task.done()`. -/
def done (handler : StreamHandler) (task : Nat) : Bool :=
  (handler.tasks[task]?).all (fun entry => entry.state ≠ .running)

/-- What `connect` collects. -/
def toCancel (handler : StreamHandler) : List Nat :=
  (handler.consumers.map Prod.snd).filter (fun task => !handler.done task)

/-- `create_task` and the entry in `consumers`. -/
def startTask (handler : StreamHandler) (deliveryId : Nat) :
    StreamHandler :=
  { handler with
    tasks := handler.tasks ++ [{ deliveryId }]
    consumers := handler.consumers.assign deliveryId handler.tasks.length
    phase := .reading }

/-- `consumers.pop(delivery_id, None)`. -/
def popCurrent (handler : StreamHandler) : StreamHandler :=
  match handler.deliveryId with
  | none => handler
  | some deliveryId =>
      { handler with consumers := handler.consumers.pop deliveryId }

def step : Transition.Step StreamHandler StreamAction StreamEvent
  | handler, .receive deliveryId =>
      if handler.phase = .reading then
        some ({ handler with
            deliveryId := some deliveryId
            phase := .checking deliveryId }, [])
      else none
  | handler, .start =>
      match handler.phase with
      | .checking deliveryId => some (handler.startTask deliveryId, [])
      | _ => none
  | handler, .exit => some ({ handler with phase := .exited }, [])
  | handler, .finish task =>
      match handler.tasks[task]? with
      | some entry =>
          if entry.state = .running then
            some (handler.setTask task entry .finished, [])
          else none
      | none => none
  | handler, .callback task =>
      match handler.tasks[task]? with
      | some entry =>
          if entry.state = .finished then
            some ((handler.setTask task entry .released).popCurrent, [])
          else none
      | none => none
  | handler, .connect => some (handler, [.cancelled handler.toCancel])

/-- The task has not finished. -/
def Unfinished (handler : StreamHandler) (task : Nat) : Prop :=
  ∃ entry, handler.tasks[task]? = some entry ∧ entry.state = .running

/-- `consumers` has the unfinished tasks under their delivery ids, and nothing
else. -/
def Tracked (handler : StreamHandler) : Prop :=
  ∀ deliveryId task, handler.consumers.lookup deliveryId = some task ↔
    ∃ entry, handler.tasks[task]? = some entry ∧
      entry.deliveryId = deliveryId ∧ entry.state = .running

/-- All done-callbacks have run. -/
def Settled (handler : StreamHandler) : Prop :=
  ∀ entry ∈ handler.tasks, entry.state ≠ .finished

instance (handler : StreamHandler) : Decidable handler.Settled :=
  inferInstanceAs (Decidable (∀ entry ∈ handler.tasks, _))

/-- A callback runs while the loop still has the event of its task, and no
task is started under the id of one whose callback has not run. -/
def OneAtATime (handler : StreamHandler) : StreamAction → Prop
  | .callback task =>
      (handler.tasks[task]?).map HandlerTask.deliveryId = handler.deliveryId
  | .start =>
      ∀ entry ∈ handler.tasks, entry.state ≠ .released →
        handler.phase ≠ .checking entry.deliveryId
  | _ => True

instance (handler : StreamHandler) :
    (action : StreamAction) → Decidable (handler.OneAtATime action)
  | .callback task =>
      inferInstanceAs (Decidable
        ((handler.tasks[task]?).map HandlerTask.deliveryId =
          handler.deliveryId))
  | .start =>
      inferInstanceAs (Decidable (∀ entry ∈ handler.tasks, _ → _))
  | .receive _ | .exit | .finish _ | .connect => .isTrue trivial

/-- The entries that are still to be popped: those of the tasks whose
callback has not run. -/
def Followed (handler : StreamHandler) : Prop :=
  ∀ deliveryId task, handler.consumers.lookup deliveryId = some task ↔
    ∃ entry, handler.tasks[task]? = some entry ∧
      entry.deliveryId = deliveryId ∧ entry.state ≠ .released

section

variable {handler next : StreamHandler} {entry : HandlerTask}
  {task deliveryId : Nat}

theorem setTask_get (found : handler.tasks[task]? = some entry)
    (state : TaskState) (other : Nat) :
    (handler.setTask task entry state).tasks[other]? =
      if other = task then some { entry with state }
      else handler.tasks[other]? := by
  have bound : task < handler.tasks.length :=
    (List.getElem?_eq_some_iff.mp found).1
  by_cases same : other = task
  · rw [if_pos same, same]
    exact List.getElem?_set_self bound
  · rw [if_neg same]
    exact List.getElem?_set_ne (Ne.symm same)

theorem startTask_get (handler : StreamHandler) (deliveryId other : Nat) :
    (handler.startTask deliveryId).tasks[other]? =
      if other = handler.tasks.length then some { deliveryId }
      else handler.tasks[other]? := by
  by_cases same : other = handler.tasks.length
  · rw [if_pos same, same]
    exact List.getElem?_concat_length
  · rw [if_neg same]
    by_cases old : other < handler.tasks.length
    · exact List.getElem?_append_left old
    · have beyond : (handler.startTask deliveryId).tasks.length ≤ other := by
        simp only [startTask, List.length_append, List.length_singleton]
        omega
      rw [List.getElem?_eq_none beyond, List.getElem?_eq_none (by omega)]

theorem popCurrent_lookup (handler : StreamHandler) (deliveryId : Nat) :
    handler.popCurrent.consumers.lookup deliveryId =
      if handler.deliveryId = some deliveryId then none
      else handler.consumers.lookup deliveryId := by
  unfold popCurrent
  cases handler.deliveryId with
  | none => rfl
  | some current =>
      change (handler.consumers.pop current).lookup deliveryId = _
      rw [Table.lookup_pop]
      simp only [Option.some.injEq, eq_comm]

theorem popCurrent_tasks (handler : StreamHandler) :
    handler.popCurrent.tasks = handler.tasks := by
  unfold popCurrent
  cases handler.deliveryId with
  | none => rfl
  | some current => rfl

theorem Followed.congr (followed : handler.Followed)
    (consumers : next.consumers = handler.consumers)
    (tasks : next.tasks = handler.tasks) : next.Followed := by
  intro deliveryId task
  rw [consumers, tasks]
  exact followed deliveryId task

theorem Followed.finish (followed : handler.Followed)
    (found : handler.tasks[task]? = some entry)
    (unreleased : entry.state ≠ .released) :
    (handler.setTask task entry .finished).Followed := by
  intro deliveryId other
  change handler.consumers.lookup deliveryId = some other ↔ _
  rw [followed, setTask_get found]
  by_cases same : other = task
  · subst same
    rw [if_pos rfl, found]
    constructor
    · rintro ⟨_, ⟨⟩, own, -⟩
      exact ⟨_, rfl, own, TaskState.noConfusion⟩
    · rintro ⟨_, ⟨⟩, own, -⟩
      exact ⟨_, rfl, own, unreleased⟩
  · rw [if_neg same]

/-- A task is followed from its start on exactly if its id is free. -/
theorem Followed.start_iff (followed : handler.Followed) :
    (handler.startTask deliveryId).Followed ↔
      ∀ entry ∈ handler.tasks, entry.state ≠ .released →
        entry.deliveryId ≠ deliveryId := by
  have assigned : ∀ other,
      (handler.startTask deliveryId).consumers.lookup other =
        if other = deliveryId then some handler.tasks.length
        else handler.consumers.lookup other := by
    intro other
    exact Table.lookup_assign _ _ _ _
  constructor
  · intro after entry member unreleased own
    obtain ⟨place, found⟩ := List.getElem?_of_mem member
    have bound := (List.getElem?_eq_some_iff.mp found).1
    have kept := (after deliveryId place).mpr
      ⟨entry, by rw [startTask_get, if_neg (by omega), found], own,
        unreleased⟩
    rw [assigned, if_pos rfl, Option.some.injEq] at kept
    omega
  · intro free other place
    rw [assigned, startTask_get]
    by_cases same : other = deliveryId
    · subst same
      rw [if_pos rfl]
      constructor
      · rintro ⟨⟩
        exact ⟨_, if_pos rfl, rfl, TaskState.noConfusion⟩
      · rintro ⟨entry, found, own, unreleased⟩
        split at found
        · rename_i new
          rw [new]
        · exact absurd own
            (free entry (List.mem_of_getElem? found) unreleased)
    · rw [if_neg same, followed]
      constructor
      · rintro ⟨entry, found, own, unreleased⟩
        have bound := (List.getElem?_eq_some_iff.mp found).1
        exact ⟨entry, (if_neg (by omega)).trans found, own, unreleased⟩
      · rintro ⟨entry, found, own, unreleased⟩
        split at found
        · cases found
          exact absurd own.symm same
        · exact ⟨entry, found, own, unreleased⟩

/-- A callback takes out its own task exactly if the loop still has the event
of the task. -/
theorem Followed.callback_iff (followed : handler.Followed)
    (found : handler.tasks[task]? = some entry)
    (unreleased : entry.state ≠ .released) :
    ((handler.setTask task entry .released).popCurrent).Followed ↔
      some entry.deliveryId = handler.deliveryId := by
  have own : handler.consumers.lookup entry.deliveryId = some task :=
    (followed _ _).mpr ⟨entry, found, rfl, unreleased⟩
  have popped : ∀ other,
      (handler.setTask task entry .released).popCurrent.consumers.lookup
        other = if handler.deliveryId = some other then none
          else handler.consumers.lookup other := popCurrent_lookup _
  constructor
  · intro after
    by_contra different
    have kept := (after entry.deliveryId task).mp (by
      rw [popped, if_neg (Ne.symm different)]
      exact own)
    obtain ⟨released, foundAfter, -, still⟩ := kept
    rw [popCurrent_tasks, setTask_get found, if_pos rfl] at foundAfter
    cases foundAfter
    exact still rfl
  · intro current deliveryId other
    rw [popped, popCurrent_tasks, setTask_get found, ← current]
    by_cases same : entry.deliveryId = deliveryId
    · subst same
      rw [if_pos rfl]
      constructor
      · rintro ⟨⟩
      · rintro ⟨later, foundLater, ownLater, still⟩
        split at foundLater
        · cases foundLater
          exact absurd rfl still
        · rename_i different
          have both := (followed entry.deliveryId other).mpr
            ⟨later, foundLater, ownLater, still⟩
          rw [own, Option.some.injEq] at both
          exact absurd both.symm different
    · rw [if_neg (fun equal => same (Option.some.inj equal)), followed]
      constructor
      · rintro ⟨later, foundLater, ownLater, still⟩
        refine ⟨later, ?_, ownLater, still⟩
        rw [if_neg, foundLater]
        rintro rfl
        rw [found, Option.some.injEq] at foundLater
        exact same (foundLater ▸ ownLater)
      · rintro ⟨later, foundLater, ownLater, still⟩
        split at foundLater
        · cases foundLater
          exact absurd rfl still
        · exact ⟨later, foundLater, ownLater, still⟩

/-- From a state in which the tasks are followed, a step leads to another one
exactly if it meets the condition. -/
theorem step_followed_iff {action : StreamAction}
    {events : List StreamEvent} (followed : handler.Followed)
    (stepped : step handler action = some (next, events)) :
    next.Followed ↔ handler.OneAtATime action := by
  cases action with
  | receive deliveryId =>
      simp only [step, Option.ite_none_right_eq_some] at stepped
      cases stepped.2
      exact iff_of_true (followed.congr rfl rfl) trivial
  | start =>
      simp only [step] at stepped
      split at stepped
      · rename_i deliveryId waiting
        cases stepped
        rw [followed.start_iff]
        simp only [OneAtATime, waiting, Ne, StreamPhase.checking.injEq,
          eq_comm]
      · cases stepped
  | exit =>
      cases stepped
      exact iff_of_true (followed.congr rfl rfl) trivial
  | finish task =>
      simp only [step] at stepped
      split at stepped
      · rename_i entry found
        split at stepped
        · rename_i running
          cases stepped
          refine iff_of_true (followed.finish found ?_) trivial
          rw [running]
          exact TaskState.noConfusion
        · cases stepped
      · cases stepped
  | callback task =>
      simp only [step] at stepped
      split at stepped
      · rename_i entry found
        split at stepped
        · rename_i finished
          cases stepped
          rw [followed.callback_iff found (by
            rw [finished]
            exact TaskState.noConfusion)]
          simp only [OneAtATime, found, Option.map_some]
        · cases stepped
      · cases stepped
  | connect =>
      cases stepped
      exact iff_of_true followed trivial

theorem followed_of_run {trace : List StreamEvent}
    (run : Transition.Run step OneAtATime {} trace handler) :
    handler.Followed := by
  apply run.state_invariant
  · intro deliveryId task
    constructor
    · intro found
      cases found
    · rintro ⟨entry, found, -⟩
      cases found
  · intro events handler next action followed permitted stepped
    exact (step_followed_iff followed stepped).mpr permitted

theorem Followed.tracked (followed : handler.Followed)
    (settled : handler.Settled) : handler.Tracked := by
  intro deliveryId task
  rw [followed]
  constructor
  · rintro ⟨entry, found, own, unreleased⟩
    refine ⟨entry, found, own, ?_⟩
    have unfinished := settled entry (List.mem_of_getElem? found)
    cases state : entry.state with
    | running => rfl
    | finished => exact absurd state unfinished
    | released => exact absurd state unreleased
  · rintro ⟨entry, found, own, running⟩
    refine ⟨entry, found, own, ?_⟩
    rw [running]
    exact TaskState.noConfusion

/-- What is tracked is cancelled, and nothing else. -/
theorem Tracked.mem_toCancel (tracked : handler.Tracked) (task : Nat) :
    task ∈ handler.toCancel ↔ handler.Unfinished task := by
  rw [toCancel, List.mem_filter, done]
  constructor
  · rintro ⟨-, running⟩
    cases found : handler.tasks[task]? with
    | none => simp [found] at running
    | some entry =>
        refine ⟨entry, found, ?_⟩
        simpa [found] using running
  · rintro ⟨entry, found, running⟩
    constructor
    · have listed := (tracked entry.deliveryId task).mpr
        ⟨entry, found, rfl, running⟩
      exact List.mem_map_of_mem (Table.mem_of_lookup listed)
    · simp [found, running]

end

/-- As long as every callback runs while the loop still has the event of its
task, `consumers` has exactly the unfinished tasks whenever all callbacks have
run, and `connect` cancels them all. -/
theorem run_tracked {trace : List StreamEvent} {handler : StreamHandler}
    (run : Transition.Run step OneAtATime {} trace handler)
    (settled : handler.Settled) :
    handler.Tracked ∧
      ∀ task, task ∈ handler.toCancel ↔ handler.Unfinished task := by
  have tracked := (followed_of_run run).tracked settled
  exact ⟨tracked, tracked.mem_toCancel⟩

/-- The second of two tasks ends first; `connect` cancels the other one. -/
theorem run_tracked_overlapping :
    ∃ trace handler, Transition.Run step OneAtATime {} trace handler ∧
      handler.Settled ∧ handler.toCancel = [0] ∧
      handler.Tracked ∧
        ∀ task, task ∈ handler.toCancel ↔ handler.Unfinished task := by
  have ran : ∃ trace handler, Transition.Run step OneAtATime {} trace
      handler ∧ handler.Settled ∧ handler.toCancel = [0] := by
    apply Transition.Run.exists_state_of_exec
      [.receive 1, .start, .receive 2, .start, .finish 1, .callback 1]
    decide
  obtain ⟨trace, handler, run, settled, cancels⟩ := ran
  exact ⟨trace, handler, run, settled, cancels, run_tracked run settled⟩

/-- The first of two tasks ends first: its callback takes out the entry of the
second one, which `connect` then neither cancels nor waits for. -/
theorem earlier_task_pops_later : ¬ ∀ (trace : List StreamEvent)
    (handler : StreamHandler),
    Transition.AnyRun step {} trace handler → handler.Settled →
      handler.Tracked ∧
        ∀ task, task ∈ handler.toCancel ↔ handler.Unfinished task := by
  intro always
  have ran : ∃ trace handler, Transition.AnyRun step {} trace handler ∧
      handler.Settled ∧ handler.toCancel = [] ∧
        handler.tasks[1]? = some { deliveryId := 2 } := by
    apply Transition.Run.exists_state_of_exec
      [.receive 1, .start, .receive 2, .start, .finish 0, .callback 0]
    decide
  obtain ⟨trace, handler, run, settled, cancels, running⟩ := ran
  have listed := ((always trace handler run settled).2 1).mpr
    ⟨_, running, rfl⟩
  rw [cancels] at listed
  cases listed

end StreamHandler

end Push

end TinyChat
