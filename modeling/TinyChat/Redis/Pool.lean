import Mathlib.Data.List.Nodup
import Mathlib.Data.Rat.Floor
import TinyChat.Lib.Transition

/-!
# The worker pool of the Redis service

The readers and the writers are two deques of consumers.  Now and then the
delay checker moves consumers from one deque to the other and spawns new
ones, as the delays that were measured suggest.  However wrong these are, the
pool keeps a reader and two writers and does not grow beyond its limit.
-/

namespace TinyChat

namespace Redis

inductive Role where
  | reader
  | writer
  deriving DecidableEq

namespace Role

def other : Role → Role
  | .reader => .writer
  | .writer => .reader

theorem eq_other {role second : Role} (different : second ≠ role) :
    second = role.other := by
  cases role <;> cases second <;> first | rfl | exact absurd rfl different

end Role

inductive TaskStatus where
  | initialized
  | ready
  | running
  | idle
  deriving DecidableEq

def TaskStatus.number : TaskStatus → Nat
  | .initialized => 0
  | .ready => 1
  | .running => 2
  | .idle => 3

inductive SpawnType where
  | noWorker
  | onlyReader
  | onlyWriter
  | bothWorker
  deriving DecidableEq

namespace SpawnType

def number : SpawnType → Nat
  | .noWorker => 0
  | .onlyReader => 1
  | .onlyWriter => 2
  | .bothWorker => 3

/-- `last_spawn_type & flag`. -/
def has (spawnType flag : SpawnType) : Bool :=
  spawnType.number &&& flag.number != 0

end SpawnType

/-- `int(value)`, which rounds towards zero. -/
def truncate (value : ℚ) : Int := value.num.tdiv value.den

/-- The consumers are numbered in the order of their creation.  A deque is a
list that starts with its right end. -/
structure Pool where
  readers : List Nat := []
  writers : List Nat := []
  created : Nat := 0
  idleRebalance : Bool := true
  deriving DecidableEq

namespace Pool

def workers (pool : Pool) : Role → List Nat
  | .reader => pool.readers
  | .writer => pool.writers

def consumers (pool : Pool) : List Nat := pool.readers ++ pool.writers

def spawn (pool : Pool) : Role → Pool
  | .reader =>
      { pool with
        readers := pool.created :: pool.readers
        created := pool.created + 1 }
  | .writer =>
      { pool with
        writers := pool.created :: pool.writers
        created := pool.created + 1 }

/-- `spawn_reader_task(num)` and `spawn_writer_task(num)`. -/
def spawnTask (role : Role) : Nat → Pool → Pool
  | 0, pool => pool
  | num + 1, pool => spawnTask role num (pool.spawn role)

/-- Consumers that are popped from the other deque are appended one after
another. -/
def move (pool : Pool) (role : Role) (left moved : List Nat) : Pool :=
  match role with
  | .reader =>
      { pool with readers := moved.reverse ++ pool.readers, writers := left }
  | .writer =>
      { pool with writers := moved.reverse ++ pool.writers, readers := left }

end Pool

/-- The loop of a rebalance over one deque: what is left of it, and the
consumers to move.  A consumer whose status is not above `READY` goes to the
other end. -/
def moveWorkers (status : Nat → TaskStatus) (availables : Nat) :
    Nat → Nat → List Nat → List Nat × List Nat
  | 0, _, source => (source, [])
  | _ + 1, _, [] => ([], [])
  | rounds + 1, already, consumer :: source =>
      if (status consumer).number ≤ TaskStatus.ready.number then
        moveWorkers status availables rounds already (source ++ [consumer])
      else if already + 1 = availables then (source, [consumer])
      else
        let rest :=
          moveWorkers status availables rounds (already + 1) source
        (rest.1, consumer :: rest.2)

/-- What a rebalance does: the consumers that it has moved to the deque of a
role, and how many of this role it spawns then. -/
structure Pass where
  pool : Pool
  role : Role := .reader
  moved : List Nat := []
  spawn : Nat := 0

namespace Pass

/-- The pool at the end of the rebalance. -/
def finish (pass : Pass) : Pool :=
  pass.pool.spawnTask pass.role pass.spawn

end Pass

/-- More workers of a role are needed; the other deque may give some. -/
def shift (totalConnections : Int) (status : Nat → TaskStatus)
    (role : Role) (needInc canRebalance : Int) (pool : Pool) : Pass :=
  let source := pool.workers role.other
  let availables := min needInc canRebalance
  let result :=
    if 0 < availables then
      moveWorkers status availables.toNat source.length 0 source
    else (source, [])
  let needed := needInc - result.2.length
  let spawned :=
    if needed = 0 then 0
    else min (totalConnections - pool.consumers.length) needed
  { pool := pool.move role result.1 result.2
    role
    moved := result.2
    spawn := spawned.toNat }

/-- The arguments of `maybe_rebalance`, and the ratio of the reads. -/
structure Sample where
  incReadCount : Int
  incWriteCount : Int
  averageReadDelay : ℚ
  averageWriteDelay : ℚ
  rwRatio : ℚ
  lastSpawnType : SpawnType

/-- The deques after the ratio of the reads is estimated; `none` is a
division by zero. -/
def rebalanceTo (totalConnections : Int) (status : Nat → TaskStatus)
    (sample : Sample) (readRatio : ℚ) (pool : Pool) : Option Pass :=
  let totalReadDelay := readRatio * sample.averageReadDelay
  let totalWriteDelay := (1 - readRatio) * sample.averageWriteDelay
  if totalReadDelay + totalWriteDelay = 0 then none
  else
    let readDelayRatio :=
      totalReadDelay / (totalReadDelay + totalWriteDelay)
    let numReaders : Int := pool.readers.length
    let numWriters : Int := pool.writers.length
    let numReadersNew :=
      truncate (readDelayRatio * (numReaders + numWriters : Int))
    let readersNeedInc := numReadersNew - numReaders
    if 0 < readersNeedInc then
      some (shift totalConnections status .reader readersNeedInc
        (if sample.lastSpawnType.has .onlyWriter then numWriters / 4
          else numWriters - 2) pool)
    else if readersNeedInc < 0 then
      some (shift totalConnections status .writer (-readersNeedInc)
        (if sample.lastSpawnType.has .onlyReader then numReaders / 4
          else numReaders - 1) pool)
    else some { pool }

def maybeRebalance (totalConnections : Int) (status : Nat → TaskStatus)
    (sample : Sample) (pool : Pool) : Option Pass :=
  if sample.averageReadDelay = 0 ∨ sample.averageWriteDelay = 0 then
    some { pool }
  else if sample.incReadCount ≠ 0 ∧ sample.incWriteCount ≠ 0 then
    if sample.incReadCount + sample.incWriteCount = 0 then none
    else
      let readRatio : ℚ := sample.incReadCount /
        (sample.incReadCount + sample.incWriteCount : Int)
      rebalanceTo totalConnections status sample
        (readRatio * (3 / 5) + sample.rwRatio * (2 / 5))
        { pool with idleRebalance := true }
  else if sample.incReadCount ≠ 0 ∨ sample.incWriteCount ≠ 0 ∨
      pool.idleRebalance then
    rebalanceTo totalConnections status sample sample.rwRatio
      { pool with idleRebalance := false }
  else some { pool }

/-- The configuration of the service. -/
structure PoolConfig where
  maxConnections : Int
  reserveConnections : Int := 3
  readerRatio : ℚ := 3 / 10

namespace PoolConfig

def totalConnections (config : PoolConfig) : Int :=
  config.maxConnections + config.reserveConnections

end PoolConfig

/-- The deques that `__aenter__` fills. -/
def aenterPool (config : PoolConfig) : Pool :=
  let num := truncate (config.maxConnections * config.readerRatio)
  (({} : Pool).spawnTask .reader (min num 1).toNat).spawnTask .writer
    (min (config.maxConnections - num) 2).toNat

/-- What the service has measured. -/
structure Statistics where
  readCount : Int
  writeCount : Int
  averageReadDelay : ℚ
  averageWriteDelay : ℚ
  rwRatio : ℚ

/-- The arguments of `delay_checker` that change from call to call, and the
time that is reserved for an execution. -/
structure Checker where
  reserveExecutionTime : ℚ
  lastReadCount : Int
  lastWriteCount : Int
  lastSpawnType : SpawnType
  delay : ℚ

/-- The workers to spawn after the rebalance, and the next arguments. -/
structure Growth where
  readers : Int := 0
  writers : Int := 0
  delay : ℚ
  lastSpawnType : SpawnType

section

variable (config : PoolConfig) (statistics : Statistics) (checker : Checker)

/-- The branches of `delay_checker` on the numbers of workers. -/
def growth (numReaders numWriters availables : Int) : Growth :=
  let reserve := checker.reserveExecutionTime
  if availables = 0 then
    { delay := checker.delay, lastSpawnType := checker.lastSpawnType }
  else if reserve ≤ statistics.averageReadDelay ∧
      reserve < statistics.averageWriteDelay then
    let numNewReader := truncate (availables * config.readerRatio)
    { readers := min numNewReader (max (numReaders / 2) 1)
      writers := min (availables - numNewReader) (max (numWriters / 2) 1)
      delay := 1
      lastSpawnType := .bothWorker }
  else if reserve ≤ statistics.averageReadDelay then
    if !checker.lastSpawnType.has .onlyReader then
      { readers := max (min (truncate (availables * config.readerRatio))
          (numReaders / 2)) 1
        delay := 1
        lastSpawnType := .onlyReader }
    else if 10 < statistics.readCount - checker.lastReadCount then
      { readers := max (truncate (availables * config.readerRatio)) 1
        delay := 1 / 2
        lastSpawnType := .onlyReader }
    else { delay := checker.delay, lastSpawnType := checker.lastSpawnType }
  else if reserve ≤ statistics.averageWriteDelay then
    if !checker.lastSpawnType.has .onlyWriter then
      { writers := max
          (min (truncate (availables * (1 - config.readerRatio)))
            (numWriters / 2)) 1
        delay := 1
        lastSpawnType := .onlyWriter }
    else if 10 < statistics.writeCount - checker.lastWriteCount then
      { writers := max
          (truncate (availables * (1 - config.readerRatio))) 1
        delay := 1 / 2
        lastSpawnType := .onlyWriter }
    else { delay := checker.delay, lastSpawnType := checker.lastSpawnType }
  else { delay := 5, lastSpawnType := .noWorker }

/-- A call of `delay_checker`: the pool it leaves, and the arguments of the
next call; `none` is a division by zero. -/
def delayChecker (status : Nat → TaskStatus) (pool : Pool) :
    Option (Pool × Checker) :=
  let sample : Sample :=
    { incReadCount := statistics.readCount - checker.lastReadCount
      incWriteCount := statistics.writeCount - checker.lastWriteCount
      averageReadDelay := statistics.averageReadDelay
      averageWriteDelay := statistics.averageWriteDelay
      rwRatio := statistics.rwRatio
      lastSpawnType := checker.lastSpawnType }
  (maybeRebalance config.totalConnections status sample pool).map
    (fun pass =>
      let rebalanced := pass.finish
      let used : Int := rebalanced.consumers.length
      let grown := growth config statistics checker
        rebalanced.readers.length rebalanced.writers.length
        (2 * config.totalConnections - used)
      ((rebalanced.spawnTask .reader grown.readers.toNat).spawnTask .writer
          grown.writers.toNat,
        { checker with
          lastReadCount := statistics.readCount
          lastWriteCount := statistics.writeCount
          lastSpawnType := grown.lastSpawnType
          delay := grown.delay }))

end

section

variable {status : Nat → TaskStatus} {availables : Nat}

theorem moveWorkers_perm (rounds already : Nat) (source : List Nat) :
    ((moveWorkers status availables rounds already source).1 ++
      (moveWorkers status availables rounds already source).2).Perm
        source := by
  induction rounds generalizing already source with
  | zero => simp [moveWorkers]
  | succ rounds induction =>
      cases source with
      | nil => exact .refl _
      | cons consumer source =>
          simp only [moveWorkers]
          split
          · have rest := induction already (source ++ [consumer])
            exact rest.trans List.perm_append_comm
          · split
            · exact List.perm_append_comm
            · have rest := induction (already + 1) source
              exact List.perm_middle.trans (rest.cons consumer)

theorem moveWorkers_length (rounds already : Nat) (source : List Nat)
    (some_left : already < availables) :
    (moveWorkers status availables rounds already source).2.length +
      already ≤ availables := by
  induction rounds generalizing already source with
  | zero => simpa [moveWorkers] using some_left.le
  | succ rounds induction =>
      cases source with
      | nil => simpa [moveWorkers] using some_left.le
      | cons consumer source =>
          simp only [moveWorkers]
          split
          · exact induction already _ some_left
          · split
            · rename_i last
              rw [List.length_singleton]
              omega
            · have more : already + 1 < availables := by omega
              have rest := induction (already + 1) source more
              rw [List.length_cons]
              omega

/-- Only workers that have begun to wait for tasks are moved. -/
theorem moveWorkers_status {rounds already : Nat} {source : List Nat}
    {consumer : Nat}
    (moved : consumer ∈
      (moveWorkers status availables rounds already source).2) :
    TaskStatus.ready.number < (status consumer).number := by
  induction rounds generalizing already source with
  | zero => cases moved
  | succ rounds induction =>
      cases source with
      | nil => cases moved
      | cons first source =>
          simp only [moveWorkers] at moved
          split at moved
          · exact induction moved
          · rename_i above
            have begun := Nat.lt_of_not_le above
            split at moved
            · rw [List.mem_singleton.mp moved]
              exact begun
            · rcases List.mem_cons.mp moved with same | later
              · rw [same]
                exact begun
              · exact induction later

end

/-- The number of workers that a rebalance leaves to a role. -/
def Role.least : Role → Nat
  | .reader => 1
  | .writer => 2

/-- Everything that a rebalance can do: nothing, or some workers of one role
get the other role and new ones are spawned. -/
inductive Rebalanced (totalConnections : Int) (status : Nat → TaskStatus)
    (pool : Pool) : Pass → Prop where
  | stay {idle : Bool} :
      Rebalanced totalConnections status pool
        { pool := { pool with idleRebalance := idle } }
  | moved {role : Role} {idle : Bool} {left moved : List Nat}
      {spawn : Nat} :
      (left ++ moved).Perm (pool.workers role.other) →
      (∀ consumer ∈ moved,
        TaskStatus.ready.number < (status consumer).number) →
      moved.length ≤ max
        ((pool.workers role.other).length - role.other.least)
        ((pool.workers role.other).length / 4) →
      spawn = 0 ∨ (pool.consumers.length + spawn : Int) ≤
        totalConnections →
      Rebalanced totalConnections status pool
        { pool :=
            { pool.move role left moved with idleRebalance := idle }
          role
          moved
          spawn }

section

variable {totalConnections : Int} {status : Nat → TaskStatus} {pool : Pool}

theorem spawned_bound (total workers needed : Int) :
    (if needed = 0 then 0 else min (total - workers) needed).toNat = 0 ∨
      workers + (if needed = 0 then 0
        else min (total - workers) needed).toNat ≤ total := by
  split
  · exact .inl rfl
  · omega

theorem shift_rebalanced {role : Role} {idle : Bool}
    {needInc canRebalance : Int}
    (allowed : canRebalance ≤ max
      ((pool.workers role.other).length - role.other.least : Int)
      ((pool.workers role.other).length / 4 : Int)) :
    Rebalanced totalConnections status pool
      (shift totalConnections status role needInc canRebalance
        { pool with idleRebalance := idle }) := by
  have source : ({ pool with idleRebalance := idle } : Pool).workers
      role.other = pool.workers role.other := by
    cases role <;> rfl
  have moves : ∀ left moved, ({ pool with idleRebalance := idle } :
      Pool).move role left moved =
        { pool.move role left moved with idleRebalance := idle } := by
    intro left moved
    cases role <;> rfl
  simp only [shift, source, moves]
  refine .moved ?_ ?_ ?_ ?_
  · split
    · exact moveWorkers_perm _ _ _
    · exact .of_eq (List.append_nil _)
  · intro consumer member
    split at member
    · exact moveWorkers_status member
    · cases member
  · split
    · rename_i some_left
      have bound :
          (moveWorkers status (min needInc canRebalance).toNat
            (pool.workers role.other).length 0
            (pool.workers role.other)).2.length + 0 ≤
              (min needInc canRebalance).toNat :=
        moveWorkers_length _ 0 _ (Int.lt_toNat.mpr some_left)
      omega
    · exact Nat.zero_le _
  · exact spawned_bound _ _ _

theorem rebalanceTo_rebalanced {sample : Sample} {readRatio : ℚ}
    {idle : Bool} {pass : Pass}
    (rebalanced : rebalanceTo totalConnections status sample readRatio
      { pool with idleRebalance := idle } = some pass) :
    Rebalanced totalConnections status pool pass := by
  simp only [rebalanceTo] at rebalanced
  split at rebalanced
  · cases rebalanced
  · split at rebalanced
    · cases rebalanced
      apply shift_rebalanced
      simp only [Role.other, Role.least, Pool.workers]
      split <;> omega
    · split at rebalanced
      · cases rebalanced
        apply shift_rebalanced
        simp only [Role.other, Role.least, Pool.workers]
        split <;> omega
      · cases rebalanced
        exact .stay

theorem maybeRebalance_rebalanced {sample : Sample} {pass : Pass}
    (rebalanced : maybeRebalance totalConnections status sample pool =
      some pass) :
    Rebalanced totalConnections status pool pass := by
  simp only [maybeRebalance] at rebalanced
  split at rebalanced
  · cases rebalanced
    exact .stay
  · split at rebalanced
    · split at rebalanced
      · cases rebalanced
      · exact rebalanceTo_rebalanced rebalanced
    · split at rebalanced
      · exact rebalanceTo_rebalanced rebalanced
      · cases rebalanced
        exact .stay

end

end Redis

end TinyChat
