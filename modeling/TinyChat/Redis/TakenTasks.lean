import TinyChat.Redis.PoolBounds
import TinyChat.Redis.TaskLife

/-!
# Tasks that a worker has taken

A worker that is in an executor has the status `RUNNING`, whose number has a
bit of `IDLE`: a rebalance that moves such a worker cancels its command.
Otherwise the worker resolves the waiter before it goes on.
-/

namespace TinyChat

namespace Redis

open Transition

/-- The consumer is executing the task, or has resolved its waiter, unless
the caller has given up. -/
def Attended (trace : List ServiceEvent) (service : Service)
    (index task : Nat) : Prop :=
  (service.consumers index).phase = .running task ∨
    (∃ reply, .resolved index task reply ∈ trace) ∨ .gaveUp task ∈ trace

/-- No consumer goes on or ends before the task that it has taken is done, a
waiter gets the result of the executor or `None`, and nobody has cancelled a
consumer that is executing a task. -/
structure NoneAbandoned (trace : List ServiceEvent) (service : Service) :
    Prop where
  attended : ∀ index task, .taken index task ∈ trace →
    Attended trace service index task
  honest : ∀ index task reply, .resolved index task reply ∈ trace →
    reply = .absent ∨ .completed task reply ∈ trace
  undisturbed : ∀ index task,
    (service.consumers index).phase = .running task →
      (service.consumers index).cancelling = false

/-- A pass moves no consumer that is executing a task. -/
def SparesRunning (config : ServiceConfig) (service : Service) :
    ServiceAction → Prop
  | .rebalance sample => ∀ pass,
      maybeRebalance config.totalConnections service.status sample
        service.pool = some pass →
      ∀ index ∈ pass.moved, (service.consumers index).status ≠ .running
  | _ => True

instance (config : ServiceConfig) (service : Service) :
    ∀ action, Decidable (SparesRunning config service action)
  | .rebalance sample =>
      inferInstanceAs (Decidable (∀ pass ∈
        maybeRebalance config.totalConnections service.status sample
          service.pool, ∀ index ∈ pass.moved,
            (service.consumers index).status ≠ .running))
  | .work .. | .call .. | .put _ | .giveUp _ | .callback _ | .spawn ..
  | .undo | .close => .isTrue trivial

/-- A consumer in an executor has the status for it, and no cancellation. -/
def Consumer.Undisturbed (consumer : Consumer) : Prop :=
  ∀ task, consumer.phase = .running task →
    consumer.status = .running ∧ consumer.cancelling = false

section

variable {config : ServiceConfig} {service : Service} {index number : Nat}
  {trace events : List ServiceEvent} {next : Service}

theorem Phase.Free.undisturbed {consumer : Consumer}
    (free : consumer.phase.Free) : consumer.Undisturbed := by
  intro task running
  rw [running] at free
  exact free.elim

/-- A waiter that is done has its answer in the events, if it was not done
before. -/
theorem failed_resolved {consumer : Consumer}
    (undone : (service.tasks number).waiter.done = false) :
    .resolved index number .absent ∈
      (service.failed index consumer number).events := by
  rw [Service.failed]
  simp [undone]

theorem Effected.undisturbed {work : Work} {effect : Effect}
    (effected : Effected config service index (service.consumers index) work
      effect) : effect.consumer.Undisturbed := by
  cases effected with
  | resumed | ponged | skipped | rejected | replied | ignored | undone
  | refused => exact (turn_free _ _).undisturbed
  | failed =>
      rw [failed_consumer]
      exact (turn_free _ _).undisturbed
  | ran goes =>
      intro task running
      refine ⟨?_, ?_⟩
      · rw [Consumer.setRollback]
        split <;> rfl
      · simpa using goes
  | drainInterrupted | drainFailed =>
      rw [failed_consumer]
      exact Phase.Free.undisturbed trivial
  | drainSkipped sweeping =>
      intro task running
      rw [sweeping] at running
      cases running
  | drainTook =>
      intro task running
      cases running
  | started | crashed | killed | stopped | swept | sweptUndone
  | sweptRefused | drainEnded | drainCrashed | drainReplied | drainIgnored
  | drainUndone | drainRefused => exact Phase.Free.undisturbed trivial

theorem Effected.attended {work : Work} {effect : Effect}
    (effected : Effected config service index (service.consumers index) work
      effect)
    (running : (service.consumers index).phase = .running number)
    (undisturbed : (service.consumers index).cancelling = false) :
    (service.tasks number).waiter.done = true ∨
      ∃ reply, .resolved index number reply ∈ effect.events := by
  have same : ∀ task, (service.consumers index).phase = .running task →
      task = number := by
    intro task phase
    exact Phase.running.inj (phase.symm.trans running)
  cases effected with
  | replied _ phase =>
      rw [same _ phase]
      exact .inr ⟨_, List.mem_cons_of_mem _ List.mem_cons_self⟩
  | ignored _ phase done | undone _ phase done | refused _ phase done =>
      rw [← same _ phase]
      exact .inl done
  | failed _ phase =>
      rw [same _ phase]
      by_cases done : (service.tasks number).waiter.done = true
      · exact .inl done
      · exact .inr ⟨_, failed_resolved (Bool.not_eq_true _ ▸ done)⟩
  | killed arrives | stopped arrives | swept arrives | sweptUndone arrives
  | sweptRefused arrives | drainInterrupted arrives =>
      rw [undisturbed] at arrives
      cases arrives
  | started _ phase | resumed _ phase | ponged _ phase | crashed _ phase
  | skipped _ phase | rejected _ phase | ran _ phase
  | drainReplied _ phase | drainIgnored _ phase | drainUndone _ phase
  | drainRefused _ phase | drainFailed _ phase =>
      rw [running] at phase
      cases phase
  | drainEnded phase | drainSkipped phase | drainCrashed phase
  | drainTook phase =>
      rw [running] at phase
      cases phase

theorem Effected.taken {work : Work} {effect : Effect}
    (effected : Effected config service index (service.consumers index) work
      effect) {other : Nat} (member : .taken other number ∈ effect.events) :
    other = index ∧ (effect.consumer.phase = .running number ∨
      ∃ reply, .resolved index number reply ∈ effect.events) := by
  cases effected with
  | rejected =>
      simp only [List.mem_cons, reduceCtorEq, List.not_mem_nil, or_false,
        ServiceEvent.taken.injEq] at member
      obtain ⟨rfl, rfl⟩ := member
      exact ⟨rfl, .inr ⟨_, List.mem_cons_of_mem _ List.mem_cons_self⟩⟩
  | ran =>
      cases List.mem_singleton.mp member
      exact ⟨rfl, .inl rfl⟩
  | failed | drainInterrupted | drainFailed =>
      rw [Service.failed] at member
      split at member <;> simp at member
  | started | resumed | ponged | crashed | killed | skipped | replied
  | ignored | undone | refused | stopped | swept | sweptUndone
  | sweptRefused | drainEnded | drainSkipped | drainCrashed | drainTook
  | drainReplied | drainIgnored | drainUndone | drainRefused =>
      simp at member

/-- What every step keeps that spares the running consumers. -/
structure Attending (trace : List ServiceEvent) (service : Service) :
    Prop where
  tended : Tended trace service
  undisturbed : ∀ index, (service.consumers index).Undisturbed
  attended : ∀ index task, .taken index task ∈ trace →
    Attended trace service index task
  fresh : ∀ index, service.pool.created ≤ index →
    (service.consumers index).phase = .starting

namespace Attending

/-- Nobody takes a task, and who executes one goes on with it. -/
theorem attended_of_phase (attending : Attending trace service)
    (quiet : ∀ index task, ServiceEvent.taken index task ∉ events)
    (phase : ∀ index task,
      (service.consumers index).phase = .running task →
        (next.consumers index).phase = .running task)
    {index task : Nat} (member : .taken index task ∈ trace ++ events) :
    Attended (trace ++ events) next index task := by
  rcases List.mem_append.mp member with old | new
  · rcases attending.attended index task old with
      running | ⟨reply, resolved⟩ | gaveUp
    · exact .inl (phase index task running)
    · exact .inr (.inl ⟨reply, List.mem_append_left _ resolved⟩)
    · exact .inr (.inr (List.mem_append_left _ gaveUp))
  · exact absurd new (quiet index task)

theorem congr (attending : Attending trace service)
    (tended : Tended (trace ++ events) next)
    (quiet : ∀ index task, ServiceEvent.taken index task ∉ events)
    (consumers : next.consumers = service.consumers)
    (pool : next.pool = service.pool) :
    Attending (trace ++ events) next where
  tended := tended
  undisturbed := by
    rw [consumers]
    exact attending.undisturbed
  attended := by
    intro index task member
    apply attending.attended_of_phase quiet ?_ member
    rw [consumers]
    exact fun _ _ running => running
  fresh := by
    rw [consumers, pool]
    exact attending.fresh

theorem cancel (attending : Attending trace service)
    (tended : Tended (trace ++ []) next)
    (phase : ∀ index, (next.consumers index).phase =
      (service.consumers index).phase)
    (undisturbed : ∀ index, (next.consumers index).Undisturbed)
    (created : next.pool.created = service.pool.created) :
    Attending (trace ++ []) next where
  tended := tended
  undisturbed := undisturbed
  attended := by
    intro index task member
    refine attending.attended_of_phase (fun _ _ => List.not_mem_nil) ?_
      member
    intro index task running
    rw [phase index]
    exact running
  fresh := by
    intro index beyond
    rw [phase index]
    exact attending.fresh index (created ▸ beyond)

theorem spawnTask (attending : Attending trace service) (role : Role)
    (num : Nat) : Attending trace (service.spawnTask role num) where
  tended := attending.tended.spawnTask role num
  undisturbed := by
    intro index task running
    by_cases new : service.pool.created ≤ index ∧
        index < service.pool.created + num
    · rw [spawnTask_new new] at running
      cases running
    · have same : (service.spawnTask role num).consumers index =
          service.consumers index := if_neg new
      rw [same] at running ⊢
      exact attending.undisturbed index task running
  attended := by
    intro index task member
    rcases attending.attended index task member with running | settled
    · have old : index < service.pool.created := by
        by_contra beyond
        rw [attending.fresh index (Nat.le_of_not_lt beyond)] at running
        cases running
      rw [Attended, spawnTask_old old]
      exact .inl running
    · exact .inr settled
  fresh := by
    intro index beyond
    rw [Service.spawnTask, Pool.created_spawnTask] at beyond
    rcases spawnTask_phase service role num index with started | before
    · exact started
    · rw [before]
      exact attending.fresh index (by omega)

theorem restart (attending : Attending trace service)
    {consumer : Consumer}
    (done : (service.consumers index).live = false)
    (free : consumer.phase.Free)
    (consumers : next.consumers =
      Function.update service.consumers index consumer)
    (pool : next.pool = service.pool)
    (tended : Tended (trace ++ []) next) :
    Attending (trace ++ []) next where
  tended := tended
  undisturbed := by
    intro other
    rw [consumers]
    rcases eq_or_ne other index with rfl | others
    · rw [Function.update_self]
      exact free.undisturbed
    · rw [Function.update_of_ne others]
      exact attending.undisturbed other
  attended := by
    intro other task member
    refine attending.attended_of_phase (fun _ _ => List.not_mem_nil) ?_
      member
    intro third number running
    have others : third ≠ index := by
      rintro rfl
      have stopped := free_of_done done
      rw [running] at stopped
      exact stopped
    rw [consumers, Function.update_of_ne others]
    exact running
  fresh := by
    intro other beyond
    rw [pool] at beyond
    have others : other ≠ index := by
      rintro rfl
      rw [Consumer.live, attending.fresh other beyond] at done
      cases done
    rw [consumers, Function.update_of_ne others]
    exact attending.fresh other beyond

theorem work (attending : Attending trace service) {work : Work}
    {effect : Effect} (created : index < service.pool.created)
    (effected : Effected config service index (service.consumers index) work
      effect) :
    Attending (trace ++ effect.events) (service.apply index effect) where
  tended := attending.tended.handled effected.handled
  undisturbed := by
    intro other
    simp only [Service.apply]
    rcases eq_or_ne other index with rfl | others
    · rw [Function.update_self]
      exact effected.undisturbed
    · rw [Function.update_of_ne others]
      exact attending.undisturbed other
  attended := by
    intro other task member
    rw [Attended]
    rcases List.mem_append.mp member with old | new
    · rcases attending.attended other task old with
        running | ⟨reply, resolved⟩ | gaveUp
      · rcases eq_or_ne other index with rfl | others
        · have calm := attending.undisturbed other task running
          rcases effected.attended running calm.2 with
            done | ⟨reply, resolved⟩
          · have place := attending.tended.held other task (.inl running)
            have unanswered := attending.tended.unanswered task
              (place ▸ Place.noConfusion)
            have cancelled : (service.tasks task).waiter = .cancelled := by
              refine unanswered.resolve_left ?_
              intro pending
              rw [pending] at done
              cases done
            exact .inr (.inr (List.mem_append_left _
              (attending.tended.gaveUp task cancelled)))
          · exact .inr (.inl ⟨reply, List.mem_append_right _ resolved⟩)
        · simp only [Service.apply, Function.update_of_ne others]
          exact .inl running
      · exact .inr (.inl ⟨reply, List.mem_append_left _ resolved⟩)
      · exact .inr (.inr (List.mem_append_left _ gaveUp))
    · obtain ⟨rfl, running | ⟨reply, resolved⟩⟩ := effected.taken new
      · simp only [Service.apply, Function.update_self]
        exact .inl running
      · exact .inr (.inl ⟨reply, List.mem_append_right _ resolved⟩)
  fresh := by
    intro other beyond
    have others : other ≠ index := by
      rintro rfl
      exact absurd created (Nat.not_lt_of_le beyond)
    simp only [Service.apply, Function.update_of_ne others]
    exact attending.fresh other beyond

theorem rebalanced (attending : Attending trace service) {pass : Pass}
    (passed : Rebalanced config.totalConnections service.status service.pool
      pass)
    (spared : ∀ index ∈ pass.moved,
      (service.consumers index).status ≠ .running) :
    Attending (trace ++ []) (service.rebalanced pass) := by
  have moved : Attending (trace ++ [])
      { service with
        pool := pass.pool
        consumers := fun index =>
          if index ∈ pass.moved then
            (service.consumers index).redirect pass.role
          else service.consumers index } := by
    have phase : ∀ index, (if index ∈ pass.moved then
        (service.consumers index).redirect pass.role
        else service.consumers index).phase =
          (service.consumers index).phase := by
      intro index
      split
      · exact Consumer.redirect_phase _ _
      · rfl
    apply attending.cancel
    case tended =>
      refine attending.tended.congr rfl rfl ?_
        (fun _ _ _ => List.not_mem_nil)
      intro index task holds
      simp only [Consumer.Holds, phase] at holds
      exact holds
    case phase => exact phase
    case undisturbed =>
      intro index task running
      simp only [phase] at running
      have calm := attending.undisturbed index task running
      have stays : index ∉ pass.moved :=
        fun member => spared index member calm.1
      simp only [stays, if_false]
      exact calm
    case created => exact passed.created
  rw [Service.rebalanced]
  split
  · exact moved
  · exact moved.spawnTask pass.role pass.spawn

theorem step (attending : Attending trace service) {action : ServiceAction}
    (permitted : SparesRunning config service action)
    (stepped : serve config service action = some (next, events)) :
    Attending (trace ++ events) next := by
  have tended := attending.tended.step stepped
  cases serve_served stepped with
  | called | put | withdrew | gaveUp | undid =>
      exact attending.congr tended (by simp) rfl rfl
  | worked created effected => exact attending.work created effected
  | @calledBack index ended =>
      exact attending.restart ended (runCallbacks_free ended) rfl rfl tended
  | rebalanced passed listed =>
      exact attending.rebalanced listed (permitted _ passed)
  | @spawned role num =>
      rw [List.append_nil]
      exact attending.spawnTask role num
  | closed =>
      apply attending.cancel tended
      case phase =>
        intro index
        simp only [Service.aexit]
        split
        · exact Consumer.cancel_phase _ _
        · rfl
      case undisturbed =>
        intro index task running
        simp only [Service.aexit] at running ⊢
        split at running
        · rename_i member
          rw [Consumer.cancel_phase] at running
          have calm := attending.undisturbed index task running
          have spared : (service.consumers index).cancel .ready =
              service.consumers index := by
            rw [Consumer.cancel, calm.1]
            rfl
          rw [if_pos member, spared]
          exact calm
        · rename_i absent
          rw [if_neg absent]
          exact attending.undisturbed index task running
      case created => rfl

theorem aenter (config : ServiceConfig) :
    Attending [] (Service.aenter config) := by
  have started : ∀ index,
      ((Service.aenter config).consumers index).phase = .starting := by
    intro index
    rw [Service.aenter]
    rcases spawnTask_phase _ _ _ index with started | before
    · exact started
    · rw [before]
      rcases spawnTask_phase _ _ _ index with started | before
      · exact started
      · exact before
  constructor
  case tended => exact .aenter config
  case undisturbed =>
    intro index task running
    rw [started] at running
    cases running
  case attended => exact fun _ _ member => absurd member List.not_mem_nil
  case fresh => exact fun index _ => started index

end Attending

end

/-- If no pass moves a consumer that is executing a task, every task that was
taken is finished by its consumer. -/
theorem run_noneAbandoned {config : ServiceConfig} {service : Service}
    {trace : List ServiceEvent}
    (run : Run (serve config) (SparesRunning config)
      (Service.aenter config) trace service) :
    NoneAbandoned trace service := by
  have attending : Attending trace service := by
    apply run.invariant (Attending.aenter config)
    intro trace events service action next attending permitted stepped
    exact attending.step permitted stepped
  constructor
  case attended => exact attending.attended
  case honest =>
    exact fun index task reply member =>
      (attending.tended.resolved index task reply member).2
  case undisturbed =>
    exact fun index task running =>
      (attending.undisturbed index task running).2

/-- A writer executes a `SET` and resolves its waiter. -/
theorem run_noneAbandoned_set :
    ∃ trace service,
      Run (serve { maxConnections := 5 })
        (SparesRunning { maxConnections := 5 })
        (Service.aenter { maxConnections := 5 }) trace service ∧
      trace = [.called 0 .set, .taken 1 0, .completed 0 (.truth true),
        .resolved 1 0 (.truth true)] ∧ NoneAbandoned trace service := by
  have answered : ∃ trace service,
      Run (serve { maxConnections := 5 })
        (SparesRunning { maxConnections := 5 })
        (Service.aenter { maxConnections := 5 }) trace service ∧
      trace = [.called 0 .set, .taken 1 0, .completed 0 (.truth true),
        .resolved 1 0 (.truth true)] := by
    apply Run.exists_both_of_exec
      [.work 1 .start, .work 1 .pong, .call 0 .writer .set, .put 0,
        .work 1 (.take false), .work 1 (.complete (.truth true))]
    decide +kernel
  obtain ⟨trace, service, run, recorded⟩ := answered
  exact ⟨trace, service, run, recorded, run_noneAbandoned run⟩

/-- A rebalance cancels the third writer in its command, and the waiter stays
pending in an open service. -/
theorem running_worker_cancelled :
    ∃ trace service,
      AnyRun (serve { maxConnections := 5 })
        (Service.aenter { maxConnections := 5 }) trace service ∧
      service.closing = false ∧ ¬ NoneAbandoned trace service := by
  have cancelled : ∃ trace service,
      AnyRun (serve { maxConnections := 5 })
        (Service.aenter { maxConnections := 5 }) trace service ∧
      (trace = [.called 0 .set, .taken 3 0] ∧ service.closing = false ∧
        (service.consumers 3).phase = .ended) := by
    apply Run.exists_both_of_exec
      [.spawn .writer 1, .work 3 .start, .work 3 .pong,
        .call 0 .writer .set, .put 0, .work 3 (.take false),
        .rebalance ⟨1, 1, 1, 1, 1 / 2, .noWorker⟩, .work 3 .deliver]
    decide +kernel
  obtain ⟨trace, service, run, rfl, opened, ended⟩ := cancelled
  refine ⟨_, service, run, opened, ?_⟩
  intro none
  rcases none.attended 3 0 (by decide) with
    running | ⟨reply, resolved⟩ | gaveUp
  · rw [ended] at running
    cases running
  · simp at resolved
  · simp at gaveUp

end Redis

end TinyChat
