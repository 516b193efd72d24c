import TinyChat.Redis.TaskLife

/-!
# Rollbacks that the writers enqueue

A writer undoes a write whose caller has given up before the reply came.  The
rollback and the data of the last task survive in its variables, where the
handler of a cancellation and the drain read them again.
-/

namespace TinyChat

namespace Redis

open Transition

/-- What is enqueued undoes a write that was executed, whose caller has given
up, and whose waiter nobody has resolved. -/
def OwnRollback (before : List ServiceEvent) : ServiceEvent → Prop
  | .enqueued taskType task =>
      .called task taskType ∈ before ∧
        (∃ reply, .completed task reply ∈ before) ∧
        .gaveUp task ∈ before ∧
        ∀ index reply, .resolved index task reply ∉ before
  | _ => True

/-- Only writes that nobody was told about are rolled back. -/
structure OnlyUnreported (trace : List ServiceEvent) : Prop where
  own : EachEvent OwnRollback [] trace
  apart : ∀ taskType task, .enqueued taskType task ∈ trace →
    ∀ index reply, .resolved index task reply ∉ trace

/-- The task that is executed in the drain. -/
def Phase.drained : Phase → Option Nat
  | .draining task => some task
  | _ => none

/-- A closing writer has no rollback in its variables when it is cancelled,
but one that the full channel refused, or the channel is full; and the drain
enqueues nothing. -/
def DrainsNothing (config : ServiceConfig) (service : Service) :
    ServiceAction → Prop
  | .work index .deliver =>
      let consumer := service.consumers index
      consumer.phase.InLoop → consumer.rebalanceTrap = true ∨
        service.closing = false ∨ consumer.rollback = none ∨
        consumer.refused = true ∨
        full config.writeLimit service.rollbackChannel = true
  | .work index (.drainComplete _) =>
      let consumer := service.consumers index
      ∀ number ∈ consumer.phase.drained,
        (service.tasks number).waiter.done = false ∨
          consumer.rollback = none ∨ consumer.taskData = none ∨
          full config.writeLimit service.rollbackChannel = true
  | _ => True

instance (config : ServiceConfig) (service : Service) :
    ∀ action, Decidable (DrainsNothing config service action)
  | .work index .deliver =>
      inferInstanceAs (Decidable ((service.consumers index).phase.InLoop →
        (service.consumers index).rebalanceTrap = true ∨
          service.closing = false ∨
          (service.consumers index).rollback = none ∨
          (service.consumers index).refused = true ∨
          full config.writeLimit service.rollbackChannel = true))
  | .work index (.drainComplete _) =>
      inferInstanceAs (Decidable (∀ number ∈
        (service.consumers index).phase.drained,
          (service.tasks number).waiter.done = false ∨
            (service.consumers index).rollback = none ∨
            (service.consumers index).taskData = none ∨
            full config.writeLimit service.rollbackChannel = true))
  | .work _ .start | .work _ .pong | .work _ .crash | .work _ (.take _)
  | .work _ (.complete _) | .work _ .fail | .work _ .drain
  | .work _ .drainFail | .call .. | .put _ | .giveUp _ | .callback _
  | .rebalance _ | .spawn .. | .undo | .close => .isTrue trivial

/-- A task that was executed while its caller gave up. -/
structure Unreported (trace : List ServiceEvent) (service : Service)
    (taskType : RedisTaskType) (task : Nat) : Prop where
  used : (service.tasks task).place ≠ .unused
  taskType : taskType = (service.tasks task).taskType
  cancelled : (service.tasks task).waiter = .cancelled
  completed : ∃ reply, .completed task reply ∈ trace

/-- The variables of a consumer: in an executor the rollback is that of the
task, and a rollback that was refused is that of a task which nobody was told
about. -/
structure Loaded (trace : List ServiceEvent) (service : Service)
    (consumer : Consumer) : Prop where
  running : ∀ task taskType, consumer.phase = .running task →
    consumer.rollback = some taskType →
      consumer.taskData = some task ∧
        taskType = (service.tasks task).taskType
  refused : consumer.refused = true → ∀ task taskType,
    consumer.rollback = some taskType → consumer.taskData = some task →
      Unreported trace service taskType task
  reader : consumer.role = .reader → consumer.rollback = none

/-- A consumer is where it was in its loop, with the same variables. -/
structure SamePlace (consumer later : Consumer) : Prop where
  phase : later.phase = consumer.phase
  role : later.role = consumer.role
  rollback : later.rollback = consumer.rollback
  taskData : later.taskData = consumer.taskData
  refused : later.refused = consumer.refused

namespace SamePlace

theorem refl (consumer : Consumer) : SamePlace consumer consumer :=
  ⟨rfl, rfl, rfl, rfl, rfl⟩

theorem cancel (consumer : Consumer) (flag : TaskStatus) :
    SamePlace consumer (consumer.cancel flag) := by
  rw [Consumer.cancel]
  split <;> exact ⟨rfl, rfl, rfl, rfl, rfl⟩

theorem redirect (consumer : Consumer) (role : Role) :
    SamePlace consumer (consumer.redirect role) := by
  obtain ⟨phase, same, rollback, taskData, refused⟩ :=
    cancel consumer .idle
  exact ⟨phase, same, rollback, taskData, refused⟩

/-- A callback restarts the consumer without a rollback. -/
theorem runCallbacks (consumer : Consumer) :
    consumer.runCallbacks.rollback = none ∨
      SamePlace consumer consumer.runCallbacks := by
  rw [Consumer.runCallbacks]
  split
  · split
    · exact .inl rfl
    · exact .inr ⟨rfl, rfl, rfl, rfl, rfl⟩
  · exact .inr ⟨rfl, rfl, rfl, rfl, rfl⟩

end SamePlace

/-- The rollbacks of the consumers and of the trace. -/
structure Recorded (trace : List ServiceEvent) (service : Service) :
    Prop where
  tended : Tended trace service
  loaded : ∀ index, Loaded trace service (service.consumers index)
  enqueued : ∀ taskType task, .enqueued taskType task ∈ trace →
    Unreported trace service taskType task
  own : EachEvent OwnRollback [] trace

theorem rollbackEntry_eq {taskType undone : RedisTaskType}
    (entry : rollbackEntry taskType = some (some undone)) :
    undone = taskType := by
  obtain ⟨handler, -, mapped⟩ := Option.map_eq_some_iff.mp entry
  obtain ⟨rollback, -, same⟩ := Option.map_eq_some_iff.mp mapped
  exact same.symm

section

variable {config : ServiceConfig} {service next : Service}
  {index number : Nat} {trace events : List ServiceEvent}
  {consumer changed : Consumer}

theorem Unreported.later {taskType : RedisTaskType} {task : Nat}
    (unreported : Unreported trace service taskType task)
    (later : Later service next) : Unreported trace next taskType task where
  used := later.used task unreported.used
  taskType := by
    rw [later.taskType task unreported.used]
    exact unreported.taskType
  cancelled := later.cancelled task unreported.used unreported.cancelled
  completed := unreported.completed

theorem Unreported.append {taskType : RedisTaskType} {task : Nat}
    (unreported : Unreported trace service taskType task)
    (events : List ServiceEvent) :
    Unreported (trace ++ events) service taskType task where
  used := unreported.used
  taskType := unreported.taskType
  cancelled := unreported.cancelled
  completed := by
    obtain ⟨reply, member⟩ := unreported.completed
    exact ⟨reply, List.mem_append_left _ member⟩

theorem Unreported.own {taskType : RedisTaskType} {task : Nat}
    (unreported : Unreported (trace ++ events) service taskType task)
    (tended : Tended trace service)
    (quiet : ∀ index reply, .resolved index task reply ∉ events) :
    OwnRollback (trace ++ events) (.enqueued taskType task) := by
  refine ⟨?_, unreported.completed, ?_, ?_⟩
  · rw [unreported.taskType]
    exact List.mem_append_left _ (tended.called task unreported.used)
  · exact List.mem_append_left _ (tended.gaveUp task unreported.cancelled)
  · intro index reply member
    rcases List.mem_append.mp member with old | new
    · have result := (tended.resolved index task reply old).1
      rw [unreported.cancelled] at result
      cases result
    · exact quiet index reply new

namespace Loaded

/-- A consumer without a rollback. -/
theorem of_none (nothing : consumer.rollback = none) :
    Loaded trace service consumer where
  running := by
    intro task taskType _ pending
    rw [nothing] at pending
    cases pending
  refused := by
    intro _ task taskType pending
    rw [nothing] at pending
    cases pending
  reader := fun _ => nothing

theorem free (loaded : Loaded trace service consumer)
    (later : Later service next) (free : changed.phase.Free)
    (role : changed.role = consumer.role)
    (rollback : changed.rollback = consumer.rollback)
    (taskData : changed.taskData = consumer.taskData)
    (refused : changed.refused = consumer.refused) :
    Loaded (trace ++ events) next changed where
  running := by
    intro task taskType executes
    rw [executes] at free
    exact free.elim
  refused := by
    intro was task taskType pending data
    rw [refused] at was
    rw [rollback] at pending
    rw [taskData] at data
    exact ((loaded.refused was task taskType pending data).later
      later).append events
  reader := by
    intro reads
    rw [rollback]
    exact loaded.reader (role ▸ reads)

theorem keep (loaded : Loaded trace service (service.consumers index))
    (later : Later service next) (tended : Tended trace service)
    (same : SamePlace (service.consumers index) changed) :
    Loaded (trace ++ events) next changed where
  running := by
    intro task taskType running pending
    rw [same.phase] at running
    rw [same.rollback] at pending
    obtain ⟨data, own⟩ := loaded.running task taskType running pending
    have used : (service.tasks task).place ≠ .unused :=
      tended.held index task (.inl running) ▸ Place.noConfusion
    rw [same.taskData, later.taskType task used]
    exact ⟨data, own⟩
  refused := by
    intro was task taskType pending data
    rw [same.refused] at was
    rw [same.rollback] at pending
    rw [same.taskData] at data
    exact ((loaded.refused was task taskType pending data).later
      later).append events
  reader := by
    intro reads
    rw [same.rollback]
    exact loaded.reader (same.role ▸ reads)

end Loaded

theorem putRollback_eq {taskType : RedisTaskType} {taskData : Option Nat}
    {item : RedisTaskType × Nat}
    (put : service.putRollback config taskType taskData = some item) :
    full config.writeLimit service.rollbackChannel = false ∧
      item.1 = taskType ∧ taskData = some item.2 := by
  rw [Service.putRollback] at put
  split at put
  · cases put
  · rename_i room
    obtain ⟨task, data, rfl⟩ := Option.map_eq_some_iff.mp put
    exact ⟨Bool.not_eq_true _ ▸ room, rfl, data⟩

theorem Loaded.unreported
    (loaded : Loaded trace service (service.consumers index))
    (tended : Tended trace service)
    (running : (service.consumers index).phase = .running number)
    (done : (service.tasks number).waiter.done = true)
    {taskType : RedisTaskType}
    (pending : (service.consumers index).rollback = some taskType)
    (reply : Reply) :
    (service.consumers index).taskData = some number ∧
      Unreported (trace ++ [.completed number reply]) service taskType
        number := by
  obtain ⟨data, same⟩ := loaded.running number taskType running pending
  have place := tended.held index number (.inl running)
  refine ⟨data, place ▸ Place.noConfusion, same, ?_, reply, ?_⟩
  · refine (tended.unanswered number
      (place ▸ Place.noConfusion)).resolve_left ?_
    intro waits
    rw [waits] at done
    cases done
  · exact List.mem_append_right _ List.mem_cons_self

theorem Effected.loaded {work : Work} {effect : Effect}
    (effected : Effected config service index (service.consumers index) work
      effect) (tended : Tended trace service)
    (loaded : Loaded trace service (service.consumers index)) :
    Loaded (trace ++ effect.events) (service.apply index effect)
      effect.consumer := by
  have later := Later.handled effected.handled
  cases effected with
  | started | crashed | killed | stopped | swept | sweptUndone
  | sweptRefused | drainEnded | drainCrashed | drainReplied | drainIgnored
  | drainUndone | drainRefused =>
      exact loaded.free later trivial rfl rfl rfl rfl
  | resumed | ponged | skipped | replied | ignored =>
      exact loaded.free later (turn_free _ _) (by simp) (by simp) (by simp)
        (by simp)
  | failed =>
      rw [failed_consumer]
      exact loaded.free later (turn_free _ _) (by simp) (by simp) (by simp)
        (by simp)
  | drainInterrupted | drainFailed =>
      rw [failed_consumer]
      exact loaded.free later trivial rfl rfl rfl rfl
  | drainSkipped sweeping =>
      exact loaded.free later (sweeping ▸ trivial) rfl rfl rfl rfl
  | undone =>
      apply Loaded.of_none
      simp
  | @refused number reply taskType goes running done pending =>
      obtain ⟨mine, unreported⟩ :=
        loaded.unreported tended running done pending reply
      constructor
      case running =>
        intro task taskType executes
        have free := turn_free
          { service.consumers index with refused := true } service.closing
        rw [executes] at free
        exact free.elim
      case refused =>
        intro _ task taskType held data
        rw [Consumer.turn_rollback, pending] at held
        rw [Consumer.turn_taskData, mine] at data
        cases held
        cases data
        exact unreported.later later
      case reader =>
        intro reads
        rw [Consumer.turn_role] at reads
        rw [Consumer.turn_rollback]
        exact loaded.reader reads
  | @rejected broken number rest =>
      cases role : (service.consumers index).role with
      | reader =>
          apply Loaded.of_none
          rw [Consumer.turn_rollback, Consumer.load, role]
          exact loaded.reader role
      | writer =>
          constructor
          case running =>
            intro task taskType executes
            have free := turn_free
              { (service.consumers index).load number with
                status := .running } service.closing
            rw [executes] at free
            exact free.elim
          case refused =>
            intro was
            rw [Consumer.turn_refused, Consumer.load, role] at was
            cases was
          case reader =>
            intro reads
            rw [Consumer.turn_role, Consumer.load_role, role] at reads
            cases reads
  | @ran number rest rollback _ _ first _ entry =>
      cases role : (service.consumers index).role with
      | reader =>
          apply Loaded.of_none
          simp only [Consumer.setRollback, Consumer.load, role]
          exact loaded.reader role
      | writer =>
          constructor
          case running =>
            intro task taskType executes pending
            simp only [Consumer.setRollback, Consumer.load, role,
              Phase.running.injEq] at executes pending ⊢
            subst executes pending
            have used : (service.tasks number).place ≠ .unused :=
              (tended.queued _ number (first ▸ List.mem_cons_self)).1 ▸
                Place.noConfusion
            exact ⟨rfl, (rollbackEntry_eq entry).trans
              (later.taskType number used).symm⟩
          case refused =>
            intro was
            simp only [Consumer.setRollback, Consumer.load, role] at was
            cases was
          case reader =>
            intro reads
            simp only [Consumer.setRollback, Consumer.load, role] at reads
            cases reads
  | drainTook =>
      cases role : (service.consumers index).role with
      | reader =>
          apply Loaded.of_none
          simp only [Consumer.setRollback, role]
          exact loaded.reader role
      | writer =>
          constructor
          case running =>
            intro task taskType executes
            cases executes
          case refused =>
            intro was
            simp only [Consumer.setRollback, role] at was
            cases was
          case reader =>
            intro reads
            simp only [Consumer.setRollback, role] at reads
            cases reads

/-- What a list of events may enqueue after a trace. -/
structure Enqueues (trace events : List ServiceEvent) (service : Service) :
    Prop where
  enqueued : ∀ taskType task, .enqueued taskType task ∈ events →
    Unreported (trace ++ events) service taskType task
  own : EachEvent OwnRollback trace events

theorem Enqueues.of_quiet
    (quiet : ∀ taskType task,
      ServiceEvent.enqueued taskType task ∉ events) :
    Enqueues trace events service where
  enqueued := fun taskType task member =>
    absurd member (quiet taskType task)
  own := by
    apply eachEvent_of_forall
    intro before event member
    cases event with
    | enqueued taskType task => exact absurd member (quiet taskType task)
    | called | gaveUp | taken | completed | resolved => trivial

/-- What the work of a consumer enqueues, unless it drains. -/
theorem Effected.enqueues {work : Work} {effect : Effect}
    (effected : Effected config service index (service.consumers index) work
      effect) (tended : Tended trace service)
    (loaded : Loaded trace service (service.consumers index))
    (permitted : DrainsNothing config service (.work index work)) :
    Enqueues trace effect.events (service.apply index effect) := by
  have later := Later.handled effected.handled
  cases effected with
  | @undone number reply taskType item goes running done pending put =>
      obtain ⟨-, same, data⟩ := putRollback_eq put
      obtain ⟨mine, unreported⟩ :=
        loaded.unreported tended running done pending reply
      rw [mine] at data
      cases data
      rw [← same] at unreported
      constructor
      case enqueued =>
        intro undone task member
        simp only [List.mem_cons, reduceCtorEq, List.not_mem_nil, or_false,
          false_or, ServiceEvent.enqueued.injEq] at member
        obtain ⟨rfl, rfl⟩ := member
        have after :=
          (unreported.later later).append [.enqueued item.1 item.2]
        rwa [List.append_assoc] at after
      case own =>
        refine ⟨trivial, unreported.own tended ?_, trivial⟩
        simp
  | @sweptUndone task taskType item arrives interrupted trap closing pending
      put =>
      obtain ⟨room, rfl, data⟩ := putRollback_eq put
      have refused : (service.consumers index).refused = true := by
        have inside : (service.consumers index).phase.InLoop := by
          rcases interrupted with ⟨phase, -⟩ | ⟨number, phase, -⟩ <;>
            · rw [phase]
              trivial
        have allowed := permitted inside
        simp only [trap, closing, pending, room, Bool.false_eq_true,
          Bool.true_eq_false, reduceCtorEq, or_false, false_or] at allowed
        exact allowed
      have unreported := loaded.refused refused item.2 item.1 pending data
      constructor
      case enqueued =>
        intro undone task member
        cases List.mem_singleton.mp member
        exact (unreported.later later).append _
      case own =>
        have whole := unreported.append []
        have own := whole.own tended (fun _ _ => List.not_mem_nil)
        rw [List.append_nil] at own
        exact ⟨own, trivial⟩
  | @drainUndone number reply taskType item goes draining done pending put =>
      obtain ⟨room, -, data⟩ := putRollback_eq put
      have drained : number ∈ (service.consumers index).phase.drained := by
        rw [draining]
        rfl
      have allowed := permitted number drained
      simp [done, pending, data, room] at allowed
  | failed | drainInterrupted | drainFailed =>
      apply Enqueues.of_quiet
      intro taskType task member
      rw [Service.failed] at member
      split at member <;> simp at member
  | started | resumed | ponged | crashed | killed | skipped | rejected | ran
  | replied | ignored | refused | stopped | swept | sweptRefused | drainEnded
  | drainSkipped | drainCrashed | drainTook | drainReplied | drainIgnored
  | drainRefused =>
      apply Enqueues.of_quiet
      simp

namespace Recorded

/-- A step that enqueues only what is unreported. -/
theorem extend (recorded : Recorded trace service)
    (later : Later service next) (tended : Tended (trace ++ events) next)
    (loaded : ∀ index,
      Loaded (trace ++ events) next (next.consumers index))
    (enqueues : Enqueues trace events next) :
    Recorded (trace ++ events) next where
  tended := tended
  loaded := loaded
  enqueued := by
    intro taskType task member
    rcases List.mem_append.mp member with old | new
    · exact ((recorded.enqueued taskType task old).later later).append events
    · exact enqueues.enqueued taskType task new
  own := by
    apply (eachEvent_append [] trace events).mpr
    exact ⟨recorded.own, enqueues.own⟩

/-- A step that enqueues nothing, and does not touch the variables of the
consumers except for new ones. -/
theorem keep (recorded : Recorded trace service)
    (later : Later service next) (tended : Tended (trace ++ events) next)
    (quiet : ∀ taskType task,
      ServiceEvent.enqueued taskType task ∉ events)
    (consumers : ∀ index, (next.consumers index).rollback = none ∨
      SamePlace (service.consumers index) (next.consumers index)) :
    Recorded (trace ++ events) next := by
  apply recorded.extend later tended
  case loaded =>
    intro index
    rcases consumers index with nothing | same
    · exact .of_none nothing
    · exact (recorded.loaded index).keep later recorded.tended same
  case enqueues => exact .of_quiet quiet

theorem work (recorded : Recorded trace service) {work : Work}
    {effect : Effect}
    (effected : Effected config service index (service.consumers index) work
      effect) (permitted : DrainsNothing config service (.work index work)) :
    Recorded (trace ++ effect.events) (service.apply index effect) := by
  have later := Later.handled effected.handled
  have loaded := recorded.loaded index
  apply recorded.extend later (recorded.tended.handled effected.handled)
  case loaded =>
    intro other
    simp only [Service.apply]
    rcases eq_or_ne other index with rfl | others
    · rw [Function.update_self]
      exact effected.loaded recorded.tended loaded
    · rw [Function.update_of_ne others]
      exact (recorded.loaded other).keep later recorded.tended (.refl _)
  case enqueues => exact effected.enqueues recorded.tended loaded permitted

theorem step (recorded : Recorded trace service) {action : ServiceAction}
    (permitted : DrainsNothing config service action)
    (stepped : serve config service action = some (next, events)) :
    Recorded (trace ++ events) next := by
  have later := Later.step stepped
  have tended := recorded.tended.step stepped
  cases serve_served stepped with
  | called | put | withdrew | gaveUp | undid =>
      exact recorded.keep later tended (by simp)
        (fun _ => .inr (.refl _))
  | worked created effected => exact recorded.work effected permitted
  | @calledBack index =>
      refine recorded.keep later tended (by simp) ?_
      intro other
      rcases eq_or_ne other index with rfl | others
      · simp only [Function.update_self]
        exact SamePlace.runCallbacks _
      · simp only [Function.update_of_ne others]
        exact .inr (.refl _)
  | @rebalanced sample pass =>
      refine recorded.keep later tended (by simp) ?_
      intro index
      have moved : SamePlace (service.consumers index)
          (if index ∈ pass.moved then
            (service.consumers index).redirect pass.role
          else service.consumers index) := by
        split
        · exact .redirect _ _
        · exact .refl _
      rw [Service.rebalanced]
      split
      · exact .inr moved
      · simp only [Service.spawnTask]
        split
        · exact .inl rfl
        · exact .inr moved
  | @spawned role num =>
      refine recorded.keep later tended (by simp) ?_
      intro index
      simp only [Service.spawnTask]
      split
      · exact .inl rfl
      · exact .inr (.refl _)
  | closed =>
      refine recorded.keep later tended (by simp) ?_
      intro index
      simp only [Service.aexit]
      split
      · exact .inr (.cancel _ _)
      · exact .inr (.refl _)

theorem aenter (config : ServiceConfig) :
    Recorded [] (Service.aenter config) where
  tended := .aenter config
  loaded := by
    intro index
    apply Loaded.of_none
    simp only [Service.aenter, Service.spawnTask]
    split
    · rfl
    · split <;> rfl
  enqueued := fun _ _ member => absurd member List.not_mem_nil
  own := trivial

end Recorded

end

/-- If the cancellation of a closing writer and its drain enqueue nothing but
what a full channel had refused, only writes that nobody was told about are
rolled back, each with its own data. -/
theorem run_onlyUnreported {config : ServiceConfig} {service : Service}
    {trace : List ServiceEvent}
    (run : Run (serve config) (DrainsNothing config)
      (Service.aenter config) trace service) : OnlyUnreported trace := by
  have recorded : Recorded trace service := by
    apply run.invariant (Recorded.aenter config)
    intro trace events service action next recorded permitted stepped
    exact recorded.step permitted stepped
  constructor
  case own => exact recorded.own
  case apart =>
    intro taskType task enqueued index reply resolved
    have result := (recorded.tended.resolved index task reply resolved).1
    rw [(recorded.enqueued taskType task enqueued).cancelled] at result
    cases result

/-- The caller of a `SET` gives up during its execution, and the writer
enqueues the rollback. -/
theorem run_onlyUnreported_set :
    ∃ trace service,
      Run (serve { maxConnections := 5 })
        (DrainsNothing { maxConnections := 5 })
        (Service.aenter { maxConnections := 5 }) trace service ∧
      trace = [.called 0 .set, .taken 1 0, .gaveUp 0,
        .completed 0 (.truth true), .enqueued .set 0] ∧
      OnlyUnreported trace := by
  have undone : ∃ trace service,
      Run (serve { maxConnections := 5 })
        (DrainsNothing { maxConnections := 5 })
        (Service.aenter { maxConnections := 5 }) trace service ∧
      trace = [.called 0 .set, .taken 1 0, .gaveUp 0,
        .completed 0 (.truth true), .enqueued .set 0] := by
    apply Run.exists_both_of_exec
      [.work 1 .start, .work 1 .pong, .call 0 .writer .set, .put 0,
        .work 1 (.take false), .giveUp 0,
        .work 1 (.complete (.truth true)), .close, .work 1 .deliver]
    decide +kernel
  obtain ⟨trace, service, run, recorded⟩ := undone
  exact ⟨trace, service, run, recorded, run_onlyUnreported run⟩

/-- A writer that has reported a `SET` is cancelled when the service closes,
and enqueues the rollback of the write. -/
theorem reported_write_rolled_back :
    ∃ trace service,
      AnyRun (serve { maxConnections := 5 })
        (Service.aenter { maxConnections := 5 }) trace service ∧
      ¬ OnlyUnreported trace := by
  have undone : ∃ trace service,
      AnyRun (serve { maxConnections := 5 })
        (Service.aenter { maxConnections := 5 }) trace service ∧
      trace = [.called 0 .set, .taken 1 0, .completed 0 (.truth true),
        .resolved 1 0 (.truth true), .enqueued .set 0] := by
    apply Run.exists_both_of_exec
      [.work 1 .start, .work 1 .pong, .call 0 .writer .set, .put 0,
        .work 1 (.take false), .work 1 (.complete (.truth true)), .close,
        .work 1 .deliver]
    decide +kernel
  obtain ⟨trace, service, run, rfl⟩ := undone
  refine ⟨_, service, run, ?_⟩
  intro unreported
  exact unreported.apart .set 0 (by decide) 1 (.truth true) (by decide)

end Redis

end TinyChat
