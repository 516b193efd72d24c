import TinyChat.Redis.Service

/-!
# Steps of the workers

One relation lists everything that the work of a consumer can change.  The
invariants of the service are proved by cases on it and on the other actions.
-/

namespace TinyChat

namespace Redis

/-- The coroutine is in its loop, and not in the drain. -/
def Phase.InLoop : Phase → Prop
  | .idle | .running _ => True
  | _ => False

instance : DecidablePred Phase.InLoop
  | .idle | .running _ => .isTrue trivial
  | .starting | .pinging | .sweeping | .draining _ | .ended | .crashed =>
      .isFalse id

namespace Consumer

/-- The consumer has taken the task and has not finished it. -/
def Holds (consumer : Consumer) (task : Nat) : Prop :=
  consumer.phase = .running task ∨ consumer.phase = .draining task

section

variable (consumer : Consumer) (closing : Bool) (task : Nat)
  (rollback : Option RedisTaskType)

theorem turn_cases :
    (closing = true ∨ consumer.rebalanceTrap = true) ∧
        consumer.turn closing = { consumer with phase := .ended } ∨
      (closing = false ∧ consumer.rebalanceTrap = false) ∧
        consumer.turn closing =
          { consumer with status := .idle, phase := .idle } := by
  rw [turn]
  split
  · rename_i stops
    exact .inl ⟨Bool.or_eq_true_iff.mp stops, rfl⟩
  · rename_i goes
    exact .inr ⟨Bool.or_eq_false_iff.mp (Bool.not_eq_true _ ▸ goes), rfl⟩

@[simp] theorem turn_role :
    (consumer.turn closing).role = consumer.role := by
  rw [turn]
  split <;> rfl

@[simp] theorem turn_rebalanceTrap :
    (consumer.turn closing).rebalanceTrap = consumer.rebalanceTrap := by
  rw [turn]
  split <;> rfl

@[simp] theorem turn_cancelling :
    (consumer.turn closing).cancelling = consumer.cancelling := by
  rw [turn]
  split <;> rfl

@[simp] theorem turn_callbacks :
    (consumer.turn closing).callbacks = consumer.callbacks := by
  rw [turn]
  split <;> rfl

@[simp] theorem turn_rollback :
    (consumer.turn closing).rollback = consumer.rollback := by
  rw [turn]
  split <;> rfl

@[simp] theorem turn_taskData :
    (consumer.turn closing).taskData = consumer.taskData := by
  rw [turn]
  split <;> rfl

@[simp] theorem turn_refused :
    (consumer.turn closing).refused = consumer.refused := by
  rw [turn]
  split <;> rfl

@[simp] theorem load_role : (consumer.load task).role = consumer.role := by
  rw [load]
  split <;> rfl

@[simp] theorem load_rebalanceTrap :
    (consumer.load task).rebalanceTrap = consumer.rebalanceTrap := by
  rw [load]
  split <;> rfl

@[simp] theorem load_cancelling :
    (consumer.load task).cancelling = consumer.cancelling := by
  rw [load]
  split <;> rfl

@[simp] theorem load_callbacks :
    (consumer.load task).callbacks = consumer.callbacks := by
  rw [load]
  split <;> rfl

@[simp] theorem setRollback_role :
    (consumer.setRollback rollback).role = consumer.role := by
  rw [setRollback]
  split <;> rfl

@[simp] theorem setRollback_rebalanceTrap :
    (consumer.setRollback rollback).rebalanceTrap =
      consumer.rebalanceTrap := by
  rw [setRollback]
  split <;> rfl

@[simp] theorem setRollback_cancelling :
    (consumer.setRollback rollback).cancelling = consumer.cancelling := by
  rw [setRollback]
  split <;> rfl

@[simp] theorem setRollback_callbacks :
    (consumer.setRollback rollback).callbacks = consumer.callbacks := by
  rw [setRollback]
  split <;> rfl

@[simp] theorem cancel_phase (flag : TaskStatus) :
    (consumer.cancel flag).phase = consumer.phase := by
  rw [cancel]
  split <;> rfl

@[simp] theorem redirect_phase (role : Role) :
    (consumer.redirect role).phase = consumer.phase :=
  cancel_phase consumer .idle

end

/-- A cancellation has reached the consumer in its loop; the task that it was
executing is abandoned. -/
def Interrupted (consumer : Consumer) (tasks : Nat → ServiceTask)
    (abandoned : Option (Nat × ServiceTask)) : Prop :=
  consumer.phase = .idle ∧ abandoned = none ∨
    ∃ number, consumer.phase = .running number ∧
      abandoned = some (number, (tasks number).leave)

end Consumer

/-- Everything that the work of a consumer can change. -/
inductive Effected (config : ServiceConfig) (service : Service)
    (index : Nat) (consumer : Consumer) : Work → Effect → Prop where
  | started : consumer.cancelling = false → consumer.phase = .starting →
      consumer.status = .initialized →
      Effected config service index consumer .start
        { consumer :=
          { consumer with status := .ready, phase := .pinging } }
  | resumed : consumer.cancelling = false → consumer.phase = .starting →
      consumer.status ≠ .initialized →
      Effected config service index consumer .start
        { consumer := consumer.turn service.closing }
  | ponged : consumer.cancelling = false → consumer.phase = .pinging →
      Effected config service index consumer .pong
        { consumer := consumer.turn service.closing }
  | crashed : consumer.cancelling = false → consumer.phase = .pinging →
      Effected config service index consumer .crash
        { consumer := { consumer with phase := .crashed } }
  | killed : consumer.cancelling = true →
      consumer.phase = .starting ∨ consumer.phase = .pinging →
      Effected config service index consumer .deliver
        { consumer :=
          { consumer with cancelling := false, phase := .crashed } }
  | skipped {broken : Bool} {number : Nat} {rest : List Nat} :
      consumer.cancelling = false → consumer.phase = .idle →
      service.channel consumer.role = number :: rest →
      (service.tasks number).waiter.done = true →
      Effected config service index consumer (.take broken)
        { consumer := consumer.turn service.closing
          popped := true
          task := some (number, (service.tasks number).leave) }
  | rejected {broken : Bool} {number : Nat} {rest : List Nat} :
      consumer.cancelling = false → consumer.phase = .idle →
      service.channel consumer.role = number :: rest →
      (service.tasks number).waiter.done = false →
      Effected config service index consumer (.take broken)
        { consumer :=
            { consumer.load number with status := .running }.turn
              service.closing
          popped := true
          task := some (number, (service.tasks number).answer .absent)
          events :=
            [.taken index number, .resolved index number .absent] }
  | ran {number : Nat} {rest : List Nat}
      {rollback : Option RedisTaskType} :
      consumer.cancelling = false → consumer.phase = .idle →
      service.channel consumer.role = number :: rest →
      (service.tasks number).waiter.done = false →
      rollbackEntry (service.tasks number).taskType = some rollback →
      Effected config service index consumer (.take false)
        { consumer :=
            { ({ consumer.load number with
                status := .running } : Consumer).setRollback rollback with
              phase := .running number }
          popped := true
          task := some (number,
            { service.tasks number with place := .taken index })
          events := [.taken index number] }
  | replied {number : Nat} {reply : Reply} :
      consumer.cancelling = false → consumer.phase = .running number →
      (service.tasks number).waiter.done = false →
      Effected config service index consumer (.complete reply)
        { consumer := consumer.turn service.closing
          task := some (number, (service.tasks number).answer reply)
          events :=
            [.completed number reply, .resolved index number reply] }
  | ignored {number : Nat} {reply : Reply} :
      consumer.cancelling = false → consumer.phase = .running number →
      (service.tasks number).waiter.done = true →
      consumer.rollback = none →
      Effected config service index consumer (.complete reply)
        { consumer := consumer.turn service.closing
          task := some (number, (service.tasks number).leave)
          events := [.completed number reply] }
  | undone {number : Nat} {reply : Reply} {taskType : RedisTaskType}
      {item : RedisTaskType × Nat} :
      consumer.cancelling = false → consumer.phase = .running number →
      (service.tasks number).waiter.done = true →
      consumer.rollback = some taskType →
      service.putRollback config taskType consumer.taskData = some item →
      Effected config service index consumer (.complete reply)
        { consumer :=
            { consumer with rollback := none }.turn service.closing
          task := some (number, (service.tasks number).leave)
          rollback := some item
          events :=
            [.completed number reply, .enqueued item.1 item.2] }
  | refused {number : Nat} {reply : Reply} {taskType : RedisTaskType} :
      consumer.cancelling = false → consumer.phase = .running number →
      (service.tasks number).waiter.done = true →
      consumer.rollback = some taskType →
      service.putRollback config taskType consumer.taskData = none →
      Effected config service index consumer (.complete reply)
        { consumer :=
            { consumer with refused := true }.turn service.closing
          task := some (number, (service.tasks number).leave)
          events := [.completed number reply] }
  | failed {number : Nat} :
      consumer.cancelling = false → consumer.phase = .running number →
      Effected config service index consumer .fail
        (service.failed index (consumer.turn service.closing) number)
  | stopped {task : Option (Nat × ServiceTask)} :
      consumer.cancelling = true →
      consumer.Interrupted service.tasks task →
      consumer.rebalanceTrap = true ∨ service.closing = false →
      Effected config service index consumer .deliver
        { consumer := { consumer with cancelling := false, phase := .ended }
          task }
  | swept {task : Option (Nat × ServiceTask)} :
      consumer.cancelling = true →
      consumer.Interrupted service.tasks task →
      consumer.rebalanceTrap = false → service.closing = true →
      consumer.rollback = none →
      Effected config service index consumer .deliver
        { consumer :=
            { consumer with cancelling := false, phase := .sweeping }
          task }
  | sweptUndone {task : Option (Nat × ServiceTask)}
      {taskType : RedisTaskType} {item : RedisTaskType × Nat} :
      consumer.cancelling = true →
      consumer.Interrupted service.tasks task →
      consumer.rebalanceTrap = false → service.closing = true →
      consumer.rollback = some taskType →
      service.putRollback config taskType consumer.taskData = some item →
      Effected config service index consumer .deliver
        { consumer :=
            { consumer with cancelling := false, phase := .sweeping }
          task
          rollback := some item
          events := [.enqueued item.1 item.2] }
  | sweptRefused {task : Option (Nat × ServiceTask)}
      {taskType : RedisTaskType} :
      consumer.cancelling = true →
      consumer.Interrupted service.tasks task →
      consumer.rebalanceTrap = false → service.closing = true →
      consumer.rollback = some taskType →
      service.putRollback config taskType consumer.taskData = none →
      Effected config service index consumer .deliver
        { consumer :=
            { consumer with cancelling := false, phase := .crashed }
          task }
  | drainInterrupted {number : Nat} :
      consumer.cancelling = true → consumer.phase = .draining number →
      Effected config service index consumer .deliver
        (service.failed index
          { consumer with cancelling := false, phase := .sweeping } number)
  | drainEnded : consumer.phase = .sweeping →
      Effected config service index consumer .drain
        { consumer := { consumer with phase := .ended } }
  | drainSkipped {number : Nat} {rest : List Nat} :
      consumer.phase = .sweeping →
      service.channel consumer.role = number :: rest →
      (service.tasks number).waiter.done = true →
      Effected config service index consumer .drain
        { consumer
          popped := true
          task := some (number, (service.tasks number).leave) }
  | drainCrashed {number : Nat} {rest : List Nat} :
      consumer.phase = .sweeping →
      service.channel consumer.role = number :: rest →
      Effected config service index consumer .drain
        { consumer := { consumer with phase := .crashed }
          popped := true
          task := some (number, (service.tasks number).leave) }
  | drainTook {number : Nat} {rest : List Nat}
      {rollback : Option RedisTaskType} :
      consumer.phase = .sweeping →
      service.channel consumer.role = number :: rest →
      (service.tasks number).waiter.done = false →
      rollbackEntry (service.tasks number).taskType = some rollback →
      Effected config service index consumer .drain
        { consumer :=
            { consumer.setRollback rollback with
              phase := .draining number }
          popped := true
          task := some (number,
            { service.tasks number with place := .taken index }) }
  | drainReplied {number : Nat} {reply : Reply} :
      consumer.cancelling = false → consumer.phase = .draining number →
      (service.tasks number).waiter.done = false →
      Effected config service index consumer (.drainComplete reply)
        { consumer := { consumer with phase := .sweeping }
          task := some (number, (service.tasks number).answer reply)
          events :=
            [.completed number reply, .resolved index number reply] }
  | drainIgnored {number : Nat} {reply : Reply} :
      consumer.cancelling = false → consumer.phase = .draining number →
      (service.tasks number).waiter.done = true →
      consumer.rollback = none →
      Effected config service index consumer (.drainComplete reply)
        { consumer := { consumer with phase := .sweeping }
          task := some (number, (service.tasks number).leave)
          events := [.completed number reply] }
  | drainUndone {number : Nat} {reply : Reply}
      {taskType : RedisTaskType} {item : RedisTaskType × Nat} :
      consumer.cancelling = false → consumer.phase = .draining number →
      (service.tasks number).waiter.done = true →
      consumer.rollback = some taskType →
      service.putRollback config taskType consumer.taskData = some item →
      Effected config service index consumer (.drainComplete reply)
        { consumer := { consumer with phase := .sweeping }
          task := some (number, (service.tasks number).leave)
          rollback := some item
          events :=
            [.completed number reply, .enqueued item.1 item.2] }
  | drainRefused {number : Nat} {reply : Reply}
      {taskType : RedisTaskType} :
      consumer.cancelling = false → consumer.phase = .draining number →
      (service.tasks number).waiter.done = true →
      consumer.rollback = some taskType →
      service.putRollback config taskType consumer.taskData = none →
      Effected config service index consumer (.drainComplete reply)
        { consumer := { consumer with phase := .crashed }
          task := some (number, (service.tasks number).leave)
          events := [.completed number reply] }
  | drainFailed {number : Nat} :
      consumer.cancelling = false → consumer.phase = .draining number →
      Effected config service index consumer .drainFail
        (service.failed index { consumer with phase := .sweeping } number)

namespace Effected

variable {config : ServiceConfig} {service : Service} {index number : Nat}

theorem took {broken : Bool} {rest : List Nat}
    (goes : (service.consumers index).cancelling = false)
    (idle : (service.consumers index).phase = .idle)
    (first : service.channel (service.consumers index).role =
      number :: rest) :
    Effected config service index (service.consumers index) (.take broken)
      (service.took index broken number) := by
  simp only [Service.took]
  split
  · rename_i done
    exact .skipped goes idle first done
  · rename_i pending
    rw [Bool.not_eq_true] at pending
    split
    · rename_i entry
      exact .ran goes idle first pending entry
    · exact .rejected goes idle first pending

theorem completed {reply : Reply}
    (goes : (service.consumers index).cancelling = false)
    (running : (service.consumers index).phase = .running number) :
    Effected config service index (service.consumers index)
      (.complete reply) (service.completed config index number reply) := by
  simp only [Service.completed]
  split
  · rename_i done
    split
    · rename_i nothing
      exact .ignored goes running done nothing
    · rename_i taskType pending
      split
      · rename_i item put
        exact .undone goes running done pending put
      · rename_i put
        exact .refused goes running done pending put
  · rename_i pending
    exact .replied goes running (Bool.not_eq_true _ ▸ pending)

theorem cancelled {task : Option (Nat × ServiceTask)}
    (arrives : (service.consumers index).cancelling = true)
    (interrupted :
      (service.consumers index).Interrupted service.tasks task) :
    Effected config service index (service.consumers index) .deliver
      (service.cancelled config index task) := by
  simp only [Service.cancelled]
  split
  · rename_i stops
    rw [Bool.or_eq_true_iff, Bool.not_eq_true'] at stops
    exact .stopped arrives interrupted stops
  · rename_i drains
    rw [Bool.not_eq_true, Bool.or_eq_false_iff, Bool.not_eq_false'] at drains
    split
    · rename_i nothing
      exact .swept arrives interrupted drains.1 drains.2 nothing
    · rename_i taskType pending
      split
      · rename_i item put
        exact .sweptUndone arrives interrupted drains.1 drains.2 pending put
      · rename_i put
        exact .sweptRefused arrives interrupted drains.1 drains.2 pending put

theorem drained
    (sweeping : (service.consumers index).phase = .sweeping) :
    Effected config service index (service.consumers index) .drain
      (service.drained index
        (service.channel (service.consumers index).role)) := by
  cases queue : service.channel (service.consumers index).role with
  | nil => exact .drainEnded sweeping
  | cons number rest =>
      simp only [Service.drained]
      split
      · rename_i done
        exact .drainSkipped sweeping queue done
      · rename_i pending
        split
        · exact .drainCrashed sweeping queue
        · rename_i rollback entry
          exact .drainTook sweeping queue (Bool.not_eq_true _ ▸ pending)
            entry

theorem drainCompleted {reply : Reply}
    (goes : (service.consumers index).cancelling = false)
    (draining : (service.consumers index).phase = .draining number) :
    Effected config service index (service.consumers index)
      (.drainComplete reply)
      (service.drainCompleted config index number reply) := by
  simp only [Service.drainCompleted]
  split
  · rename_i done
    split
    · rename_i nothing
      exact .drainIgnored goes draining done nothing
    · rename_i taskType pending
      split
      · rename_i item put
        exact .drainUndone goes draining done pending put
      · rename_i put
        exact .drainRefused goes draining done pending put
  · rename_i pending
    exact .drainReplied goes draining (Bool.not_eq_true _ ▸ pending)

end Effected

theorem loop_effected {config : ServiceConfig} {service : Service}
    {index : Nat} {work : Work} {effect : Effect}
    (looped : service.loop config index work = some effect) :
    Effected config service index (service.consumers index) work
      effect := by
  simp only [Service.loop] at looped
  split at looped
  · rename_i goes starting
    split at looped
    · rename_i initialized
      cases looped
      exact .started goes starting initialized
    · rename_i ready
      cases looped
      exact .resumed goes starting ready
  · rename_i goes pinging
    cases looped
    exact .ponged goes pinging
  · rename_i goes pinging
    cases looped
    exact .crashed goes pinging
  · rename_i goes idle
    split at looped
    · rename_i first
      cases looped
      exact .took goes idle first
    · cases looped
  · rename_i goes running
    cases looped
    exact .completed goes running
  · rename_i goes running
    cases looped
    exact .failed goes running
  · rename_i arrives starting
    cases looped
    exact .killed arrives (.inl starting)
  · rename_i arrives pinging
    cases looped
    exact .killed arrives (.inr pinging)
  · rename_i arrives idle
    cases looped
    exact .cancelled arrives (.inl ⟨idle, rfl⟩)
  · rename_i arrives running
    cases looped
    exact .cancelled arrives (.inr ⟨_, running, rfl⟩)
  · rename_i arrives draining
    cases looped
    exact .drainInterrupted arrives draining
  · rename_i sweeping
    cases looped
    exact .drained sweeping
  · rename_i goes draining
    cases looped
    exact .drainCompleted goes draining
  · rename_i goes draining
    cases looped
    exact .drainFailed goes draining
  · cases looped

theorem spawnTask_old {service : Service} {role : Role} {num index : Nat}
    (old : index < service.pool.created) :
    (service.spawnTask role num).consumers index =
      service.consumers index :=
  if_neg (by omega)

theorem spawnTask_new {service : Service} {role : Role} {num index : Nat}
    (new : service.pool.created ≤ index ∧
      index < service.pool.created + num) :
    (service.spawnTask role num).consumers index = { role } :=
  if_pos new

theorem spawnTask_phase (service : Service) (role : Role)
    (num index : Nat) :
    ((service.spawnTask role num).consumers index).phase = .starting ∨
      ((service.spawnTask role num).consumers index).phase =
        (service.consumers index).phase := by
  simp only [Service.spawnTask]
  split
  · exact .inl rfl
  · exact .inr rfl

/-- Everything that a step of the service can do. -/
inductive Served (config : ServiceConfig) (service : Service) :
    ServiceAction → Service → List ServiceEvent → Prop where
  | called {task : Nat} {role : Role} {taskType : RedisTaskType} :
      service.closing = false → (service.tasks task).place = .unused →
      Served config service (.call task role taskType)
        { service with
          tasks := Function.update service.tasks task
            { role, taskType, place := .putting } }
        [.called task taskType]
  | put {task : Nat} : (service.tasks task).place = .putting →
      Served config service (.put task)
        { service with
          tasks := Function.update service.tasks task
            { service.tasks task with place := .queued }
          channel := Function.update service.channel
            (service.tasks task).role
            (service.channel (service.tasks task).role ++ [task]) } []
  | withdrew {task : Nat} : (service.tasks task).place = .putting →
      Served config service (.giveUp task)
        { service with
          tasks := Function.update service.tasks task
            (service.tasks task).leave } [.gaveUp task]
  | gaveUp {task : Nat} : (service.tasks task).place ≠ .unused →
      (service.tasks task).place ≠ .putting →
      (service.tasks task).waiter = .pending →
      Served config service (.giveUp task)
        { service with
          tasks := Function.update service.tasks task
            { service.tasks task with waiter := .cancelled } }
        [.gaveUp task]
  | worked {index : Nat} {work : Work} {effect : Effect} :
      index < service.pool.created →
      Effected config service index (service.consumers index) work effect →
      Served config service (.work index work)
        (service.apply index effect) effect.events
  | calledBack {index : Nat} :
      (service.consumers index).live = false →
      (service.consumers index).callbacks ≠ [] →
      Served config service (.callback index)
        { service with
          consumers := Function.update service.consumers index
            (service.consumers index).runCallbacks } []
  | rebalanced {sample : Sample} {pass : Pass} :
      maybeRebalance config.totalConnections service.status sample
        service.pool = some pass →
      Rebalanced config.totalConnections service.status service.pool pass →
      Served config service (.rebalance sample) (service.rebalanced pass) []
  | spawned {role : Role} {num : Nat} : service.closing = false →
      Served config service (.spawn role num)
        (service.spawnTask role num) []
  | undid {item : RedisTaskType × Nat}
      {items : List (RedisTaskType × Nat)} :
      service.rollbackChannel = item :: items →
      Served config service .undo
        { service with rollbackChannel := items } []
  | closed : service.closing = false →
      Served config service .close service.aexit []

theorem giveUp_cases {task left : ServiceTask}
    (gaveUp : task.giveUp = some left) :
    task.place = .putting ∧ left = task.leave ∨
      (task.place ≠ .unused ∧ task.place ≠ .putting ∧
        task.waiter = .pending) ∧
          left = { task with waiter := .cancelled } := by
  simp only [ServiceTask.giveUp] at gaveUp
  split at gaveUp
  · cases gaveUp
  · rename_i putting
    cases gaveUp
    exact .inl ⟨putting, rfl⟩
  · rename_i pending used withdrawn
    cases gaveUp
    exact .inr ⟨⟨used, withdrawn, pending⟩, rfl⟩
  · cases gaveUp

theorem serve_served {config : ServiceConfig} {service next : Service}
    {action : ServiceAction} {events : List ServiceEvent}
    (stepped : serve config service action = some (next, events)) :
    Served config service action next events := by
  cases action with
  | call task role taskType =>
      simp only [serve] at stepped
      split at stepped
      · rename_i enabled
        cases stepped
        exact .called enabled.1 enabled.2
      · cases stepped
  | put task =>
      simp only [serve] at stepped
      split at stepped
      · rename_i enabled
        cases stepped
        exact .put enabled.1
      · cases stepped
  | giveUp task =>
      obtain ⟨left, gaveUp, equality⟩ := Option.map_eq_some_iff.mp stepped
      cases equality
      rcases giveUp_cases gaveUp with
        ⟨putting, rfl⟩ | ⟨⟨used, sent, pending⟩, rfl⟩
      · exact .withdrew putting
      · exact .gaveUp used sent pending
  | work index work =>
      simp only [serve] at stepped
      split at stepped
      · rename_i created
        obtain ⟨effect, looped, equality⟩ :=
          Option.map_eq_some_iff.mp stepped
        cases equality
        exact .worked created (loop_effected looped)
      · cases stepped
  | callback index =>
      simp only [serve] at stepped
      split at stepped
      · rename_i enabled
        cases stepped
        exact .calledBack enabled.1 enabled.2
      · cases stepped
  | rebalance sample =>
      obtain ⟨pass, passed, equality⟩ := Option.map_eq_some_iff.mp stepped
      cases equality
      exact .rebalanced passed (maybeRebalance_rebalanced passed)
  | spawn role num =>
      simp only [serve] at stepped
      split at stepped
      · cases stepped
      · rename_i opened
        cases stepped
        exact .spawned (Bool.not_eq_true _ ▸ opened)
  | undo =>
      simp only [serve] at stepped
      split at stepped
      · cases stepped
      · rename_i item items pending
        cases stepped
        exact .undid pending
  | close =>
      simp only [serve] at stepped
      split at stepped
      · cases stepped
      · rename_i opened
        cases stepped
        exact .closed (Bool.not_eq_true _ ▸ opened)

end Redis

end TinyChat
