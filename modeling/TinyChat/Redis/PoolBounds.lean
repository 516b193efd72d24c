import TinyChat.Redis.Pool

/-!
# Bounds of the worker pool

A check of the delays rebalances the pool and spawns workers in the room that
is left.  Every check keeps a reader, two writers and the limit of the pool,
and the consumers of the two deques are the old ones and the spawned ones,
each of them once.
-/

namespace TinyChat

namespace Redis

/-- The numbers of workers stay between these bounds. -/
structure Bounded (config : PoolConfig) (pool : Pool) : Prop where
  oneReader : 1 ≤ pool.readers.length
  twoWriters : 2 ≤ pool.writers.length
  atMost : (pool.readers.length + pool.writers.length : Int) ≤
    2 * config.totalConnections

/-- The deques hold the consumers from the start and those created since. -/
structure Tracks (start pool : Pool) : Prop where
  later : start.created ≤ pool.created
  same : pool.consumers.Perm (start.consumers ++
    List.range' start.created (pool.created - start.created))

/-- What every check keeps, from the pool at the start. -/
structure Kept (config : PoolConfig) (start pool : Pool) : Prop where
  bounded : Bounded config pool
  tracks : Tracks start pool

/-- A call of the delay checker with any statuses of the workers, statistics
and arguments. -/
structure CheckerCall where
  status : Nat → TaskStatus
  statistics : Statistics
  checker : Checker

/-- A call reports the arguments of the next one. -/
def checkDelay (config : PoolConfig) :
    Transition.Step Pool CheckerCall Checker :=
  fun pool call =>
    (delayChecker config call.statistics call.checker call.status pool).map
      (fun result => (result.1, [result.2]))

section

variable {value bound : ℚ}

theorem truncate_eq_floor (nonneg : 0 ≤ value) : truncate value = ⌊value⌋ := by
  rw [truncate, Rat.floor_def',
    Int.tdiv_eq_ediv_of_nonneg (Rat.num_nonneg.mpr nonneg)]

theorem truncate_nonneg (nonneg : 0 ≤ value) : 0 ≤ truncate value := by
  rw [truncate_eq_floor nonneg]
  exact Int.floor_nonneg.mpr nonneg

theorem truncate_part {availables : Int} (some_left : 0 ≤ availables)
    (nonneg : 0 ≤ value) (atMostOne : value ≤ 1) :
    0 ≤ truncate (availables * value) ∧
      truncate (availables * value) ≤ availables := by
  have whole : (0 : ℚ) ≤ availables := by exact_mod_cast some_left
  have part : (0 : ℚ) ≤ availables * value := mul_nonneg whole nonneg
  refine ⟨truncate_nonneg part, ?_⟩
  rw [truncate_eq_floor part]
  have below : availables * value ≤ (availables : ℚ) :=
    mul_le_of_le_one_right whole atMostOne
  exact_mod_cast (Int.floor_le _).trans below

end

namespace Pool

variable (pool : Pool)

theorem length_consumers :
    pool.consumers.length = pool.readers.length + pool.writers.length :=
  List.length_append

theorem consumers_spawn (role : Role) :
    (pool.spawn role).consumers.Perm (pool.created :: pool.consumers) := by
  cases role with
  | reader => exact .refl _
  | writer => exact List.perm_middle

theorem created_spawnTask (role : Role) (num : Nat) :
    (pool.spawnTask role num).created = pool.created + num := by
  induction num generalizing pool with
  | zero => rfl
  | succ num induction =>
      rw [spawnTask, induction]
      cases role <;> exact Nat.add_right_comm _ _ _

theorem consumers_spawnTask (role : Role) (num : Nat) :
    (pool.spawnTask role num).consumers.Perm
      (pool.consumers ++ List.range' pool.created num) := by
  induction num generalizing pool with
  | zero => exact .of_eq (List.append_nil _).symm
  | succ num induction =>
      have created : (pool.spawn role).created = pool.created + 1 := by
        cases role <;> rfl
      have rest := induction (pool.spawn role)
      rw [created] at rest
      refine rest.trans ?_
      rw [List.range'_succ]
      apply ((pool.consumers_spawn role).append_right _).trans
      exact List.perm_middle.symm

theorem readers_spawnTask (role : Role) (num : Nat) :
    (pool.spawnTask role num).readers.length =
      pool.readers.length + if role = .reader then num else 0 := by
  induction num generalizing pool with
  | zero => cases role <;> rfl
  | succ num induction =>
      rw [spawnTask, induction]
      cases role with
      | reader =>
          simp only [spawn, List.length_cons, if_true]
          omega
      | writer => rfl

theorem writers_spawnTask (role : Role) (num : Nat) :
    (pool.spawnTask role num).writers.length =
      pool.writers.length + if role = .writer then num else 0 := by
  induction num generalizing pool with
  | zero => cases role <;> rfl
  | succ num induction =>
      rw [spawnTask, induction]
      cases role with
      | reader => rfl
      | writer =>
          simp only [spawn, List.length_cons, if_true]
          omega

theorem mem_workers_spawn (role other : Role) (index : Nat) :
    index ∈ (pool.spawn role).workers other ↔
      index ∈ pool.workers other ∨
        other = role ∧ index = pool.created := by
  cases role <;> cases other <;>
    simp [spawn, workers, or_comm]

theorem mem_workers_spawnTask (role other : Role) (num index : Nat) :
    index ∈ (pool.spawnTask role num).workers other ↔
      index ∈ pool.workers other ∨ other = role ∧
        pool.created ≤ index ∧ index < pool.created + num := by
  induction num generalizing pool with
  | zero =>
      have nothing : ¬ (pool.created ≤ index ∧ index < pool.created + 0) := by
        omega
      simp only [spawnTask, nothing, and_false, or_false]
  | succ num induction =>
      have created : (pool.spawn role).created = pool.created + 1 := by
        cases role <;> rfl
      have fresh : pool.created ≤ index ∧ index < pool.created + (num + 1) ↔
          index = pool.created ∨
            pool.created + 1 ≤ index ∧ index < pool.created + 1 + num := by
        omega
      rw [spawnTask, induction, mem_workers_spawn, created, fresh, or_assoc,
        ← and_or_left]

theorem mem_workers_move (role other : Role) (left moved : List Nat)
    (index : Nat) :
    index ∈ (pool.move role left moved).workers other ↔
      if other = role then index ∈ moved ∨ index ∈ pool.workers role
      else index ∈ left := by
  cases role <;> cases other <;> simp [move, workers]

theorem mem_consumers (index : Nat) :
    index ∈ pool.consumers ↔ ∃ role, index ∈ pool.workers role := by
  constructor
  · intro member
    rcases List.mem_append.mp member with reader | writer
    · exact ⟨.reader, reader⟩
    · exact ⟨.writer, writer⟩
  · rintro ⟨role, member⟩
    cases role with
    | reader => exact List.mem_append_left _ member
    | writer => exact List.mem_append_right _ member

theorem workers_sublist (role : Role) :
    (pool.workers role).Sublist pool.consumers := by
  cases role with
  | reader => exact List.sublist_append_left _ _
  | writer => exact List.sublist_append_right _ _

/-- A consumer is in one deque only. -/
theorem workers_unique (distinct : pool.consumers.Nodup)
    {first second : Role} {index : Nat}
    (one : index ∈ pool.workers first)
    (two : index ∈ pool.workers second) : first = second := by
  have apart := (List.nodup_append.mp distinct).2.2
  cases first <;> cases second
  · rfl
  · exact absurd rfl (apart index one index two)
  · exact absurd rfl (apart index two index one)
  · rfl

variable {pool}

/-- Consumers change their deque and nothing else. -/
theorem consumers_move {role : Role} {left moved : List Nat}
    (same : (left ++ moved).Perm (pool.workers role.other)) :
    (pool.move role left moved).consumers.Perm pool.consumers := by
  cases role with
  | reader =>
      have both : (moved.reverse ++ pool.readers ++ left).Perm
          (pool.readers ++ (left ++ moved)) := by
        apply List.perm_append_comm.trans
        rw [← List.append_assoc]
        apply ((List.reverse_perm moved).append_left left |>.append_right
          pool.readers).trans
        exact List.perm_append_comm
      exact both.trans (same.append_left pool.readers)
  | writer =>
      have both : (left ++ (moved.reverse ++ pool.writers)).Perm
          ((left ++ moved) ++ pool.writers) := by
        rw [← List.append_assoc]
        exact ((List.reverse_perm moved).append_left left).append_right _
      exact both.trans (same.append_right pool.writers)

end Pool

section

variable {config : PoolConfig} {start pool : Pool}

namespace Tracks

theorem refl (pool : Pool) : Tracks pool pool where
  later := le_rfl
  same := by
    rw [Nat.sub_self]
    exact .of_eq (List.append_nil _).symm

theorem of_perm (tracks : Tracks start pool) {next : Pool}
    (created : next.created = pool.created)
    (same : next.consumers.Perm pool.consumers) : Tracks start next where
  later := created ▸ tracks.later
  same := by
    rw [created]
    exact same.trans tracks.same

theorem spawnTask (tracks : Tracks start pool) (role : Role) (num : Nat) :
    Tracks start (pool.spawnTask role num) where
  later := by
    rw [Pool.created_spawnTask]
    exact tracks.later.trans (Nat.le_add_right _ _)
  same := by
    have later := tracks.later
    have fresh : pool.created =
        start.created + (pool.created - start.created) := by omega
    have count : pool.created + num - start.created =
        pool.created - start.created + num := by omega
    rw [Pool.created_spawnTask, count, ← List.range'_append_1,
      ← List.append_assoc, ← fresh]
    exact (pool.consumers_spawnTask role num).trans
      (tracks.same.append_right _)

theorem nodup (tracks : Tracks start pool)
    (distinct : start.consumers.Nodup)
    (numbered : ∀ consumer ∈ start.consumers, consumer < start.created) :
    pool.consumers.Nodup := by
  refine tracks.same.nodup_iff.mpr (distinct.append List.nodup_range' ?_)
  intro consumer old new
  have before := numbered consumer old
  have after := (List.mem_range'_1.mp new).1
  omega

theorem mem_iff (tracks : Tracks {} pool) (index : Nat) :
    index ∈ pool.consumers ↔ index < pool.created := by
  rw [tracks.same.mem_iff]
  change index ∈ [] ++ List.range' 0 (pool.created - 0) ↔ _
  rw [List.nil_append, List.mem_range'_1]
  omega

end Tracks

namespace Rebalanced

variable {status : Nat → TaskStatus} {pass : Pass}

theorem created (rebalanced :
    Rebalanced config.totalConnections status pool pass) :
    pass.pool.created = pool.created := by
  cases rebalanced with
  | stay => rfl
  | @moved role => cases role <;> rfl

theorem consumers (rebalanced :
    Rebalanced config.totalConnections status pool pass) :
    pass.pool.consumers.Perm pool.consumers := by
  cases rebalanced with
  | stay => exact .refl _
  | moved same => exact Pool.consumers_move same

theorem tracks (rebalanced :
    Rebalanced config.totalConnections status pool pass)
    (tracks : Tracks start pool) : Tracks start pass.finish :=
  (tracks.of_perm rebalanced.created rebalanced.consumers).spawnTask _ _

theorem bounded (rebalanced :
    Rebalanced config.totalConnections status pool pass)
    (bounded : Bounded config pool) : Bounded config pass.finish := by
  obtain ⟨oneReader, twoWriters, atMost⟩ := bounded
  cases rebalanced with
  | stay => exact ⟨oneReader, twoWriters, atMost⟩
  | @moved role idle left moved spawn same begun few room =>
      have total := same.length_eq
      rw [List.length_append] at total
      rw [Pool.length_consumers] at room
      cases role with
      | reader =>
          simp only [Role.other, Role.least, Pool.workers] at total few
          constructor <;>
            simp only [Pass.finish, Pool.readers_spawnTask,
              Pool.writers_spawnTask, Pool.move, List.length_append,
              List.length_reverse, if_true, reduceCtorEq, if_false] <;>
            omega
      | writer =>
          simp only [Role.other, Role.least, Pool.workers] at total few
          constructor <;>
            simp only [Pass.finish, Pool.readers_spawnTask,
              Pool.writers_spawnTask, Pool.move, List.length_append,
              List.length_reverse, if_true, reduceCtorEq, if_false] <;>
            omega

end Rebalanced

theorem growth_room {statistics : Statistics} {checker : Checker}
    {numReaders numWriters availables : Int}
    (nonneg : 0 ≤ config.readerRatio) (atMostOne : config.readerRatio ≤ 1)
    (some_left : 0 ≤ availables) :
    ((growth config statistics checker numReaders numWriters
      availables).readers.toNat +
      (growth config statistics checker numReaders numWriters
        availables).writers.toNat : Int) ≤ availables := by
  have readersPart := truncate_part some_left nonneg atMostOne
  have writersPart := truncate_part some_left
    (sub_nonneg.mpr atMostOne) (sub_le_self 1 nonneg)
  simp only [growth]
  split_ifs <;> simp only [Int.toNat_zero] <;> omega

theorem Bounded.spawnTask (bounded : Bounded config pool)
    {readers writers : Nat}
    (room : (readers + writers : Int) ≤
      2 * config.totalConnections - pool.consumers.length) :
    Bounded config
      ((pool.spawnTask .reader readers).spawnTask .writer writers) := by
  obtain ⟨oneReader, twoWriters, atMost⟩ := bounded
  rw [Pool.length_consumers] at room
  constructor <;>
    simp only [Pool.readers_spawnTask, Pool.writers_spawnTask, if_true,
      reduceCtorEq, if_false] <;>
    omega

theorem Kept.checkDelay (nonneg : 0 ≤ config.readerRatio)
    (atMostOne : config.readerRatio ≤ 1) (kept : Kept config start pool)
    {call : CheckerCall} {next : Pool} {events : List Checker}
    (stepped : checkDelay config pool call = some (next, events)) :
    Kept config start next := by
  obtain ⟨result, checked, equality⟩ := Option.map_eq_some_iff.mp stepped
  obtain ⟨pass, rebalanced, rfl⟩ := Option.map_eq_some_iff.mp checked
  cases equality
  have passed := maybeRebalance_rebalanced rebalanced
  have bounded := passed.bounded kept.bounded
  have room : (0 : Int) ≤ 2 * config.totalConnections -
      pass.finish.consumers.length := by
    have atMost := bounded.atMost
    rw [Pool.length_consumers]
    omega
  constructor
  case bounded =>
    apply bounded.spawnTask
    exact growth_room nonneg atMostOne room
  case tracks =>
    exact ((passed.tracks kept.tracks).spawnTask _ _).spawnTask _ _

/-- The pool of `__aenter__` has a reader and two writers if the connections
suffice for them. -/
theorem bounded_aenterPool
    (oneReader : 1 ≤ truncate (config.maxConnections * config.readerRatio))
    (twoWriters : truncate (config.maxConnections * config.readerRatio) +
      2 ≤ config.maxConnections)
    (room : 3 ≤ 2 * config.totalConnections) :
    Bounded config (aenterPool config) := by
  constructor <;>
    simp only [aenterPool, Pool.readers_spawnTask, Pool.writers_spawnTask,
      List.length_nil, if_true, reduceCtorEq, if_false] <;>
    omega

/-- Every run of the delay checker keeps the bounds of the pool, and no
consumer is lost or duplicated. -/
theorem run_bounded {trace : List Checker}
    (nonneg : 0 ≤ config.readerRatio) (atMostOne : config.readerRatio ≤ 1)
    (bounded : Bounded config start) (distinct : start.consumers.Nodup)
    (numbered : ∀ consumer ∈ start.consumers, consumer < start.created)
    (run : Transition.AnyRun (checkDelay config) start trace pool) :
    Bounded config pool ∧ pool.consumers.Nodup ∧ Tracks start pool := by
  have kept : Kept config start pool := by
    apply run.state_invariant ⟨bounded, .refl start⟩
    intro events pool call next kept _ stepped
    exact kept.checkDelay nonneg atMostOne stepped
  exact ⟨kept.bounded, kept.tracks.nodup distinct numbered, kept.tracks⟩

end

/-- Five connections, and two checks: many slow reads, then slow writes. -/
theorem run_bounded_two_checks :
    ∃ trace pool, Transition.AnyRun
      (checkDelay { maxConnections := 5 })
      (aenterPool { maxConnections := 5 }) trace pool ∧
        (pool.readers = [4, 3, 0] ∧ pool.writers.length = 7) ∧
        Bounded { maxConnections := 5 } pool ∧ pool.consumers.Nodup ∧
          Tracks (aenterPool { maxConnections := 5 }) pool := by
  have checked : ∃ trace pool, Transition.AnyRun
      (checkDelay { maxConnections := 5 })
      (aenterPool { maxConnections := 5 }) trace pool ∧
        (pool.readers = [4, 3, 0] ∧ pool.writers.length = 7) := by
    apply Transition.Run.exists_state_of_exec
      [ { status := fun _ => .idle
          statistics := ⟨30, 10, 1 / 10, 1 / 50, 3 / 4⟩
          checker := ⟨1 / 20, 0, 0, .noWorker, 5⟩ },
        { status := fun _ => .idle
          statistics := ⟨40, 40, 1 / 100, 1 / 10, 1 / 2⟩
          checker := ⟨1 / 20, 30, 10, .onlyReader, 1⟩ } ]
    decide +kernel
  obtain ⟨trace, pool, run, sizes⟩ := checked
  have bounded : Bounded { maxConnections := 5 }
      (aenterPool { maxConnections := 5 }) :=
    bounded_aenterPool (by decide +kernel) (by decide +kernel)
      (by decide +kernel)
  have started : aenterPool { maxConnections := 5 } =
      { readers := [0], writers := [2, 1], created := 3 } := by
    decide +kernel
  have distinct : (aenterPool { maxConnections := 5 }).consumers.Nodup := by
    rw [started]
    decide
  have numbered : ∀ consumer ∈
      (aenterPool { maxConnections := 5 }).consumers,
        consumer < (aenterPool { maxConnections := 5 }).created := by
    rw [started]
    decide
  exact ⟨trace, pool, run, sizes,
    run_bounded (by decide +kernel) (by decide +kernel) bounded distinct
      numbered run⟩

end Redis

end TinyChat
