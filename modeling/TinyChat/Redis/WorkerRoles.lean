import TinyChat.Redis.PoolBounds
import TinyChat.Redis.ServiceSteps

/-!
# Roles of the workers

A rebalance moves a consumer to the other deque at once, but its coroutine
changes later, in a done-callback.  If no consumer is moved again before its
callback has run, every consumer comes to run the loop of its deque.
-/

namespace TinyChat

namespace Redis

open Transition

/-- Every consumer is in one deque, and once its callbacks have run it
executes the loop of this deque. -/
structure RightRoles (service : Service) : Prop where
  distinct : service.pool.consumers.Nodup
  listed : ∀ index,
    index ∈ service.pool.consumers ↔ index < service.pool.created
  runs : service.closing = false → ∀ index < service.pool.created,
    (service.consumers index).callbacks = [] →
      (service.consumers index).live = true ∧
        ∀ role, (service.consumers index).role = role ↔
          index ∈ service.pool.workers role

/-- A pass moves no consumer that waits for the callback of an earlier pass,
and no ping raises an exception that `check_health` does not catch. -/
def MovesSettled (config : ServiceConfig) (service : Service) :
    ServiceAction → Prop
  | .rebalance sample => ∀ pass,
      maybeRebalance config.totalConnections service.status sample
        service.pool = some pass →
      ∀ index ∈ pass.moved,
        (service.consumers index).rebalanceTrap = false
  | .work _ .crash => False
  | _ => True

namespace Consumer

/-- The consumer runs the loop of a role, or is on its way into it. -/
structure Settled (role : Role) (consumer : Consumer) : Prop where
  trap : consumer.rebalanceTrap = false
  callbacks : consumer.callbacks = []
  cancelling : consumer.cancelling = false
  role : consumer.role = role
  phase : consumer.phase.InLoop ∨
    (consumer.phase = .starting ∨ consumer.phase = .pinging) ∧
      consumer.status.number ≤ TaskStatus.ready.number

/-- The consumer is leaving its loop; the callback will restart it. -/
structure Moving (role : Role) (consumer : Consumer) : Prop where
  trap : consumer.rebalanceTrap = true
  callbacks : consumer.callbacks = [role]
  phase : consumer.phase.InLoop ∨ consumer.phase = .ended

/-- The consumer runs the loop of the role, or will run it. -/
def Assigned (role : Role) (consumer : Consumer) : Prop :=
  consumer.Settled role ∨ consumer.Moving role

variable {role : Role} {consumer : Consumer}

theorem live_of_inLoop (inside : consumer.phase.InLoop) :
    consumer.live = true := by
  rw [Consumer.live]
  cases phase : consumer.phase <;> rw [phase] at inside <;>
    first | rfl | exact inside.elim

theorem Settled.live (settled : consumer.Settled role) :
    consumer.live = true := by
  rcases settled.phase with inside | ⟨starting | pinging, -⟩
  · exact live_of_inLoop inside
  all_goals rw [Consumer.live]
  · rw [starting]
    rfl
  · rw [pinging]
    rfl

theorem settled_new (role : Role) : ({ role } : Consumer).Settled role where
  trap := rfl
  callbacks := rfl
  cancelling := rfl
  role := rfl
  phase := .inr ⟨.inl rfl, Nat.zero_le _⟩

theorem settled_restarted (role : Role) :
    ({ status := .ready, role } : Consumer).Settled role where
  trap := rfl
  callbacks := rfl
  cancelling := rfl
  role := rfl
  phase := .inr ⟨.inl rfl, le_rfl⟩

theorem Assigned.turn (assigned : consumer.Assigned role)
    {later : Consumer}
    (trap : later.rebalanceTrap = consumer.rebalanceTrap)
    (callbacks : later.callbacks = consumer.callbacks)
    (cancelling : later.cancelling = consumer.cancelling)
    (same : later.role = consumer.role) :
    (later.turn false).Assigned role := by
  rcases later.turn_cases false with
    ⟨stops, turned⟩ | ⟨⟨-, goes⟩, turned⟩
  · rw [turned]
    rw [trap] at stops
    rcases assigned with settled | moving
    · rw [settled.trap] at stops
      rcases stops with stops | stops <;> cases stops
    · exact .inr ⟨trap.trans moving.trap, callbacks.trans moving.callbacks,
        .inr rfl⟩
  · rw [turned]
    rcases assigned with settled | moving
    · exact .inl ⟨trap.trans settled.trap,
        callbacks.trans settled.callbacks,
        cancelling.trans settled.cancelling, same.trans settled.role,
        .inl trivial⟩
    · rw [trap, moving.trap] at goes
      cases goes

theorem Assigned.keep (assigned : consumer.Assigned role)
    {later : Consumer}
    (trap : later.rebalanceTrap = consumer.rebalanceTrap)
    (callbacks : later.callbacks = consumer.callbacks)
    (cancelling : later.cancelling = consumer.cancelling)
    (same : later.role = consumer.role) (inside : later.phase.InLoop) :
    later.Assigned role := by
  rcases assigned with settled | moving
  · exact .inl ⟨trap.trans settled.trap, callbacks.trans settled.callbacks,
      cancelling.trans settled.cancelling, same.trans settled.role,
      .inl inside⟩
  · exact .inr ⟨trap.trans moving.trap, callbacks.trans moving.callbacks,
      .inl inside⟩

theorem Assigned.settled (assigned : consumer.Assigned role)
    (before : consumer.phase = .starting ∨ consumer.phase = .pinging) :
    consumer.Settled role := by
  rcases assigned with settled | moving
  · exact settled
  · rcases before with phase | phase <;>
      · have inside := moving.phase
        rw [phase] at inside
        rcases inside with inside | inside
        · exact inside.elim
        · cases inside

theorem Assigned.not_draining (assigned : consumer.Assigned role) :
    consumer.phase ≠ .sweeping ∧
      ∀ number, consumer.phase ≠ .draining number := by
  have phases : consumer.phase.InLoop ∨ consumer.phase = .starting ∨
      consumer.phase = .pinging ∨ consumer.phase = .ended := by
    rcases assigned with settled | moving
    · rcases settled.phase with inside | ⟨starting | pinging, -⟩
      · exact .inl inside
      · exact .inr (.inl starting)
      · exact .inr (.inr (.inl pinging))
    · rcases moving.phase with inside | ended
      · exact .inl inside
      · exact .inr (.inr (.inr ended))
  constructor
  · intro sweeping
    rw [sweeping] at phases
    rcases phases with inside | phase | phase | phase
    · exact inside.elim
    all_goals cases phase
  · intro number draining
    rw [draining] at phases
    rcases phases with inside | phase | phase | phase
    · exact inside.elim
    all_goals cases phase

theorem Assigned.untrapped (assigned : consumer.Assigned role)
    (free : consumer.rebalanceTrap = false) : consumer.Settled role := by
  rcases assigned with settled | moving
  · exact settled
  · rw [moving.trap] at free
    cases free

theorem Assigned.moving (assigned : consumer.Assigned role)
    (cancelling : consumer.cancelling = true) : consumer.Moving role := by
  rcases assigned with settled | moving
  · rw [settled.cancelling] at cancelling
    cases cancelling
  · exact moving

theorem Settled.redirect (settled : consumer.Settled role.other)
    (begun : TaskStatus.ready.number < consumer.status.number) :
    (consumer.redirect role).Assigned role := by
  have inside : consumer.phase.InLoop := by
    rcases settled.phase with inside | ⟨-, waits⟩
    · exact inside
    · omega
  refine .inr ⟨rfl, ?_, .inl ?_⟩
  · rw [Consumer.redirect, settled.callbacks]
    rfl
  · rw [Consumer.redirect, Consumer.cancel]
    split <;> exact inside

theorem Assigned.runCallbacks (assigned : consumer.Assigned role)
    (done : consumer.live = false) (pending : consumer.callbacks ≠ []) :
    consumer.runCallbacks.Assigned role := by
  rcases assigned with settled | moving
  · exact absurd settled.callbacks pending
  · have ended : consumer.phase = .ended := by
      refine moving.phase.resolve_left ?_
      intro inside
      rw [live_of_inLoop inside] at done
      cases done
    rw [Consumer.runCallbacks, ended, moving.callbacks]
    simp only [moving.trap, if_true]
    exact .inl (settled_restarted role)

end Consumer

section

variable {config : ServiceConfig} {service : Service} {index : Nat}
  {role : Role}

/-- While the service is open, the work of a consumer leaves it assigned to
its deque. -/
theorem Effected.assigned {work : Work} {effect : Effect}
    (effected : Effected config service index (service.consumers index) work
      effect)
    (opened : service.closing = false) (pings : work ≠ .crash)
    (assigned : (service.consumers index).Assigned role) :
    effect.consumer.Assigned role := by
  have drains := assigned.not_draining
  cases effected with
  | started goes starting initialized =>
      have settled := assigned.settled (.inl starting)
      exact .inl ⟨settled.trap, settled.callbacks, settled.cancelling,
        settled.role, .inr ⟨.inr rfl, le_rfl⟩⟩
  | resumed | ponged | skipped | replied | ignored =>
      rw [opened]
      exact assigned.turn rfl rfl rfl rfl
  | crashed => exact absurd rfl pings
  | killed arrives before =>
      have settled := assigned.settled before
      rw [settled.cancelling] at arrives
      cases arrives
  | rejected =>
      rw [opened]
      apply assigned.turn
      case trap => exact Consumer.load_rebalanceTrap _ _
      case callbacks => exact Consumer.load_callbacks _ _
      case cancelling => exact Consumer.load_cancelling _ _
      case same => exact Consumer.load_role _ _
  | ran =>
      apply assigned.keep
      case trap => simp
      case callbacks => simp
      case cancelling => simp
      case same => simp
      case inside => trivial
  | undone | refused =>
      rw [opened]
      exact assigned.turn rfl rfl rfl rfl
  | @failed number goes running =>
      have turned : ((service.consumers index).turn false).Assigned role :=
        assigned.turn rfl rfl rfl rfl
      rw [opened, Service.failed]
      split <;> exact turned
  | stopped arrives interrupted stops =>
      have moving := assigned.moving arrives
      exact .inr ⟨moving.trap, moving.callbacks, .inr rfl⟩
  | swept _ _ _ closing =>
      rw [opened] at closing
      cases closing
  | sweptUndone _ _ _ closing =>
      rw [opened] at closing
      cases closing
  | sweptRefused _ _ _ closing =>
      rw [opened] at closing
      cases closing
  | drainInterrupted _ draining => exact absurd draining (drains.2 _)
  | drainEnded sweeping => exact absurd sweeping drains.1
  | drainSkipped sweeping => exact absurd sweeping drains.1
  | drainCrashed sweeping => exact absurd sweeping drains.1
  | drainTook sweeping => exact absurd sweeping drains.1
  | drainReplied _ draining => exact absurd draining (drains.2 _)
  | drainIgnored _ draining => exact absurd draining (drains.2 _)
  | drainUndone _ draining => exact absurd draining (drains.2 _)
  | drainRefused _ draining => exact absurd draining (drains.2 _)
  | drainFailed _ draining => exact absurd draining (drains.2 _)

/-- What every step keeps. -/
structure Staffed (service : Service) : Prop where
  tracks : Tracks {} service.pool
  assigned : service.closing = false → ∀ role,
    ∀ index ∈ service.pool.workers role,
      (service.consumers index).Assigned role

namespace Staffed

theorem below (staffed : Staffed service)
    (member : index ∈ service.pool.workers role) :
    index < service.pool.created :=
  (staffed.tracks.mem_iff index).mp
    ((service.pool.mem_consumers index).mpr ⟨role, member⟩)

theorem distinct (staffed : Staffed service) :
    service.pool.consumers.Nodup :=
  staffed.tracks.nodup List.nodup_nil
    (fun _ member => absurd member List.not_mem_nil)

/-- Neither the deques nor a consumer changes. -/
theorem congr (staffed : Staffed service) {next : Service}
    (pool : next.pool = service.pool)
    (consumers : next.consumers = service.consumers)
    (opened : next.closing = false → service.closing = false) :
    Staffed next where
  tracks := pool ▸ staffed.tracks
  assigned := by
    intro open_ role index member
    rw [pool] at member
    rw [consumers]
    exact staffed.assigned (opened open_) role index member

theorem update (staffed : Staffed service) {next : Service}
    {consumer : Consumer} (pool : next.pool = service.pool)
    (consumers : next.consumers =
      Function.update service.consumers index consumer)
    (closing : next.closing = service.closing)
    (assigned : service.closing = false → ∀ role,
      (service.consumers index).Assigned role → consumer.Assigned role) :
    Staffed next where
  tracks := pool ▸ staffed.tracks
  assigned := by
    intro opened role other member
    rw [closing] at opened
    rw [pool] at member
    have before := staffed.assigned opened role other member
    rw [consumers]
    rcases eq_or_ne other index with rfl | others
    · rw [Function.update_self]
      exact assigned opened role before
    · rw [Function.update_of_ne others]
      exact before

theorem spawnTask (staffed : Staffed service) (role : Role) (num : Nat) :
    Staffed (service.spawnTask role num) where
  tracks := staffed.tracks.spawnTask role num
  assigned := by
    intro opened other index member
    rcases (service.pool.mem_workers_spawnTask role other num index).mp
      member with old | ⟨rfl, fresh⟩
    · rw [spawnTask_old (staffed.below old)]
      exact staffed.assigned opened other index old
    · rw [spawnTask_new fresh]
      exact .inl (Consumer.settled_new other)

theorem rebalanced (staffed : Staffed service) {pass : Pass}
    (passed : Rebalanced config.totalConnections service.status service.pool
      pass)
    (settled : ∀ index ∈ pass.moved,
      (service.consumers index).rebalanceTrap = false) :
    Staffed (service.rebalanced pass) := by
  have moved : Staffed
      { service with
        pool := pass.pool
        consumers := fun index =>
          if index ∈ pass.moved then
            (service.consumers index).redirect pass.role
          else service.consumers index } := by
    constructor
    case tracks =>
      exact staffed.tracks.of_perm passed.created passed.consumers
    case assigned =>
      intro opened other index member
      cases passed with
      | stay =>
          simp only [List.not_mem_nil, if_false]
          exact staffed.assigned opened other index member
      | @moved role idle left moved spawn same begun =>
          have source : ∀ index ∈ left ++ moved,
              index ∈ service.pool.workers role.other :=
            fun index listed => same.mem_iff.mp listed
          have apart : ∀ index ∈ left, index ∉ moved := by
            have nodup := same.nodup_iff.mpr
              (staffed.distinct.sublist
                (service.pool.workers_sublist role.other))
            exact fun index first second =>
              (List.nodup_append.mp nodup).2.2 index first index second rfl
          have listed : index ∈ (service.pool.move role left moved).workers
              other := by
            cases other <;> exact member
          rw [Pool.mem_workers_move] at listed
          simp only
          split at listed
          · rename_i here
            subst here
            split
            · rename_i goes
              have before := staffed.assigned opened other.other index
                (source index (List.mem_append_right _ goes))
              exact (before.untrapped (settled index goes)).redirect
                (begun index goes)
            · rename_i stays
              exact staffed.assigned opened other index
                (listed.resolve_left stays)
          · rename_i there
            rw [if_neg (apart index listed), Role.eq_other there]
            exact staffed.assigned opened role.other index
              (source index (List.mem_append_left _ listed))
  rw [Service.rebalanced]
  split
  · exact moved
  · exact moved.spawnTask pass.role pass.spawn

theorem step (staffed : Staffed service) {action : ServiceAction}
    {next : Service} {events : List ServiceEvent}
    (permitted : MovesSettled config service action)
    (stepped : serve config service action = some (next, events)) :
    Staffed next := by
  cases serve_served stepped with
  | called | put | withdrew | gaveUp | undid =>
      exact staffed.congr rfl rfl id
  | @worked index work effect created effected =>
      have pings : work ≠ .crash := by
        rintro rfl
        exact permitted
      refine staffed.update rfl rfl rfl ?_
      intro opened role assigned
      exact effected.assigned opened pings assigned
  | calledBack done pending =>
      refine staffed.update rfl rfl rfl ?_
      intro _ role assigned
      exact assigned.runCallbacks done pending
  | rebalanced passed listed =>
      exact staffed.rebalanced listed (permitted _ passed)
  | @spawned role num => exact staffed.spawnTask role num
  | closed =>
      constructor
      case tracks => exact staffed.tracks
      case assigned =>
        intro opened
        cases opened

theorem aenter (config : ServiceConfig) :
    Staffed (Service.aenter config) := by
  have empty : Staffed {} := by
    constructor
    case tracks => exact .refl {}
    case assigned =>
      intro _ role index member
      cases role <;> cases member
  exact (empty.spawnTask _ _).spawnTask _ _

theorem rightRoles (staffed : Staffed service) : RightRoles service where
  distinct := staffed.distinct
  listed := staffed.tracks.mem_iff
  runs := by
    intro opened index created ran
    obtain ⟨role, member⟩ := (service.pool.mem_consumers index).mp
      ((staffed.tracks.mem_iff index).mpr created)
    have settled : (service.consumers index).Settled role := by
      rcases staffed.assigned opened role index member with
        settled | moving
      · exact settled
      · rw [moving.callbacks] at ran
        cases ran
    refine ⟨settled.live, ?_⟩
    intro other
    rw [settled.role]
    constructor
    · rintro rfl
      exact member
    · exact service.pool.workers_unique staffed.distinct member

end Staffed

end

/-- If no pass moves a consumer before its callback has run, and no ping
crashes, every consumer is in one deque and comes to run its loop. -/
theorem run_rightRoles {config : ServiceConfig} {service : Service}
    {trace : List ServiceEvent}
    (run : Run (serve config) (MovesSettled config)
      (Service.aenter config) trace service) : RightRoles service := by
  have staffed : Staffed service := by
    apply run.state_invariant (Staffed.aenter config)
    intro events service action next staffed permitted stepped
    exact staffed.step permitted stepped
  exact staffed.rightRoles

instance (config : ServiceConfig) (service : Service) :
    ∀ action, Decidable (MovesSettled config service action)
  | .rebalance sample =>
      inferInstanceAs (Decidable (∀ pass ∈
        maybeRebalance config.totalConnections service.status sample
          service.pool, ∀ index ∈ pass.moved,
            (service.consumers index).rebalanceTrap = false))
  | .work _ .crash => .isFalse id
  | .work _ .start | .work _ .pong | .work _ (.take _)
  | .work _ (.complete _) | .work _ .fail | .work _ .deliver
  | .work _ .drain | .work _ (.drainComplete _) | .work _ .drainFail
  | .call .. | .put _ | .giveUp _ | .callback _ | .spawn .. | .undo
  | .close => .isTrue trivial

/-- A writer is spawned, moved to the readers and restarted there. -/
theorem run_rightRoles_moved :
    ∃ trace service,
      Run (serve { maxConnections := 5 })
        (MovesSettled { maxConnections := 5 })
        (Service.aenter { maxConnections := 5 }) trace service ∧
      ((service.consumers 3).role = .reader ∧
        service.pool.readers = [3, 0]) ∧ RightRoles service := by
  have moved : ∃ trace service,
      Run (serve { maxConnections := 5 })
        (MovesSettled { maxConnections := 5 })
        (Service.aenter { maxConnections := 5 }) trace service ∧
      ((service.consumers 3).role = .reader ∧
        service.pool.readers = [3, 0]) := by
    apply Run.exists_state_of_exec
      [.spawn .writer 1, .work 3 .start, .work 3 .pong,
        .rebalance ⟨1, 1, 1, 1, 1 / 2, .noWorker⟩, .work 3 .deliver,
        .callback 3]
    decide +kernel
  obtain ⟨trace, service, run, reached⟩ := moved
  exact ⟨trace, service, run, reached, run_rightRoles run⟩

/-- A consumer that is moved back before the callback of the first pass has
run becomes a reader among the writers. -/
theorem reader_among_writers :
    ∃ trace service,
      AnyRun (serve { maxConnections := 5 })
        (Service.aenter { maxConnections := 5 }) trace service ∧
      ¬ RightRoles service := by
  have moved : ∃ trace service,
      AnyRun (serve { maxConnections := 5 })
        (Service.aenter { maxConnections := 5 }) trace service ∧
      (service.closing = false ∧ 3 < service.pool.created ∧
        (service.consumers 3).callbacks = [] ∧
        (service.consumers 3).role = .reader ∧
        3 ∉ service.pool.readers) := by
    apply Run.exists_state_of_exec
      [.spawn .writer 1, .work 3 .start, .work 3 .pong,
        .rebalance ⟨1, 1, 1, 1, 1 / 2, .noWorker⟩,
        .rebalance ⟨1, 1, 1, 3, 1 / 2, .noWorker⟩, .work 3 .deliver,
        .callback 3]
    decide +kernel
  obtain ⟨trace, service, run, opened, created, ran, reader, absent⟩ := moved
  refine ⟨trace, service, run, ?_⟩
  intro right
  exact absent (((right.runs opened 3 created ran).2 .reader).mp reader)

end Redis

end TinyChat
