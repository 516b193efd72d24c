import Mathlib.Tactic.FieldSimp
import Mathlib.Tactic.Linarith
import Mathlib.Tactic.Positivity
import Mathlib.Tactic.Ring
import TinyChat.Redis.Pool

/-!
# The timers of the Redis monitor

A timer of the monitor schedules itself again at the end of its callback, so
an exception in the callback stops it for good.  The counters and the delays
grow with the completed reads and writes, but the inactive checker sets the
counters back while the delay checker remembers the old ones.
-/

namespace TinyChat

namespace Redis

inductive Timer where
  | delayCalculator
  | delayChecker
  | inactiveChecker
  deriving DecidableEq

/-- The statistics of the service, with the sums they are computed from. -/
structure Measures extends Statistics where
  totalReadDelay : ℚ
  totalWriteDelay : ℚ

namespace Measures

def initial : Measures :=
  { readCount := 0
    writeCount := 0
    averageReadDelay := 0
    averageWriteDelay := 0
    rwRatio := 0
    totalReadDelay := 0
    totalWriteDelay := 0 }

/-- The end of `redis_read` or `redis_write` with an answer. -/
def complete (measures : Measures) (delay : ℚ) : Role → Measures
  | .reader =>
      { measures with
        readCount := measures.readCount + 1
        totalReadDelay := measures.totalReadDelay + delay }
  | .writer =>
      { measures with
        writeCount := measures.writeCount + 1
        totalWriteDelay := measures.totalWriteDelay + delay }

def reset (measures : Measures) : Measures :=
  { measures with
    readCount := if 0 < measures.averageReadDelay then 1 else 0
    writeCount := if 0 < measures.averageWriteDelay then 1 else 0
    totalReadDelay := measures.averageReadDelay
    totalWriteDelay := measures.averageWriteDelay }

def measureWrites (measures : Measures) : Measures :=
  if measures.writeCount ≠ 0 then
    { measures with
      averageWriteDelay := measures.totalWriteDelay / measures.writeCount }
  else measures

/-- The body of `delay_calculator`; an error carries what was measured before
the division by zero. -/
def calculate (measures : Measures) : Except Measures Measures :=
  let written := measures.measureWrites
  if written.readCount ≠ 0 then
    if written.readCount + written.writeCount = 0 then .error written
    else
      .ok { written with
        rwRatio := written.readCount /
          (written.readCount + written.writeCount : Int)
        averageReadDelay := written.totalReadDelay / written.readCount }
  else .ok written

end Measures

/-- If both delays are known and both counters have changed since the last
check, the changes do not cancel, neither by themselves nor when they are
weighted with the delays.  They can only cancel if one of the counters is
below the value that the checker remembers. -/
def Sample.Uncancelled (sample : Sample) : Prop :=
  sample.averageReadDelay ≠ 0 → sample.averageWriteDelay ≠ 0 →
    sample.incReadCount ≠ 0 → sample.incWriteCount ≠ 0 →
      sample.incReadCount + sample.incWriteCount ≠ 0 ∧
        3 * (sample.incReadCount * sample.averageReadDelay +
            sample.incWriteCount * sample.averageWriteDelay) +
          2 * (sample.incReadCount + sample.incWriteCount) *
            (sample.rwRatio * sample.averageReadDelay +
              (1 - sample.rwRatio) * sample.averageWriteDelay) ≠ 0

structure Monitor where
  measures : Measures
  pool : Pool
  checker : Checker
  scheduled : Timer → Bool

namespace Monitor

/-- The monitor after its calls of `call_later`. -/
def start (config : PoolConfig) (reserveExecutionTime : ℚ) : Monitor where
  measures := .initial
  pool := aenterPool config
  checker :=
    { reserveExecutionTime
      lastReadCount := 0
      lastWriteCount := 0
      lastSpawnType := .noWorker
      delay := 5 }
  scheduled := fun _ => true

/-- The arguments of the next call of `maybe_rebalance`. -/
def sample (monitor : Monitor) : Sample where
  incReadCount :=
    monitor.measures.readCount - monitor.checker.lastReadCount
  incWriteCount :=
    monitor.measures.writeCount - monitor.checker.lastWriteCount
  averageReadDelay := monitor.measures.averageReadDelay
  averageWriteDelay := monitor.measures.averageWriteDelay
  rwRatio := monitor.measures.rwRatio
  lastSpawnType := monitor.checker.lastSpawnType

/-- A callback that raised is not scheduled again. -/
def stop (monitor : Monitor) (timer : Timer) : Monitor :=
  { monitor with
    scheduled := Function.update monitor.scheduled timer false }

/-- The flag that `maybe_rebalance` sets before it divides. -/
def marked (monitor : Monitor) : Monitor :=
  { monitor with
    pool :=
      { monitor.pool with
        idleRebalance := monitor.sample.incReadCount ≠ 0 ∧
          monitor.sample.incWriteCount ≠ 0 } }

inductive Action where
  | complete (role : Role) (delay : ℚ)
  | delayCalculator
  | delayChecker (status : Nat → TaskStatus)
  | inactiveChecker

/-- The events are the timers whose callback divided by zero. -/
def step (config : PoolConfig) : Transition.Step Monitor Action Timer
  | monitor, .complete role delay =>
      if 0 ≤ delay then
        some ({ monitor with
          measures := monitor.measures.complete delay role }, [])
      else none
  | monitor, .delayCalculator =>
      if monitor.scheduled .delayCalculator then
        match monitor.measures.calculate with
        | .ok measures => some ({ monitor with measures }, [])
        | .error measures =>
            some ({ monitor with measures }.stop .delayCalculator,
              [.delayCalculator])
      else none
  | monitor, .delayChecker status =>
      if monitor.scheduled .delayChecker then
        match delayChecker config monitor.measures.toStatistics
            monitor.checker status monitor.pool with
        | some (pool, checker) => some ({ monitor with pool, checker }, [])
        | none =>
            some (monitor.marked.stop .delayChecker, [.delayChecker])
      else none
  | monitor, .inactiveChecker =>
      if monitor.scheduled .inactiveChecker then
        some ({ monitor with measures := monitor.measures.reset }, [])
      else none

/-- The checker only runs when the changes do not cancel. -/
def uncancelledChecks (monitor : Monitor) : Action → Prop
  | .delayChecker _ => monitor.sample.Uncancelled
  | _ => True

end Monitor

namespace Measures

/-- What the counters and delays are at any time. -/
structure Sound (measures : Measures) : Prop where
  readCount : 0 ≤ measures.readCount
  writeCount : 0 ≤ measures.writeCount
  totalReadDelay : 0 ≤ measures.totalReadDelay
  totalWriteDelay : 0 ≤ measures.totalWriteDelay
  averageReadDelay : 0 ≤ measures.averageReadDelay
  averageWriteDelay : 0 ≤ measures.averageWriteDelay
  rwRatio : 0 ≤ measures.rwRatio ∧ measures.rwRatio ≤ 1

theorem sound_initial : initial.Sound := by
  constructor <;> decide +kernel

section

variable {measures : Measures}

theorem Sound.complete (sound : measures.Sound) {delay : ℚ}
    (passed : 0 ≤ delay) (role : Role) :
    (measures.complete delay role).Sound := by
  cases role with
  | reader =>
      exact { sound with
        readCount := Int.add_nonneg sound.readCount (by decide)
        totalReadDelay := add_nonneg sound.totalReadDelay passed }
  | writer =>
      exact { sound with
        writeCount := Int.add_nonneg sound.writeCount (by decide)
        totalWriteDelay := add_nonneg sound.totalWriteDelay passed }

theorem Sound.reset (sound : measures.Sound) : measures.reset.Sound := by
  refine { sound with
    readCount := ?_
    writeCount := ?_
    totalReadDelay := sound.averageReadDelay
    totalWriteDelay := sound.averageWriteDelay }
  · simp only [Measures.reset]
    split <;> decide
  · simp only [Measures.reset]
    split <;> decide

theorem Sound.measureWrites (sound : measures.Sound) :
    measures.measureWrites.Sound := by
  unfold Measures.measureWrites
  split
  · have writes : (0 : ℚ) ≤ measures.writeCount := by
      exact_mod_cast sound.writeCount
    exact { sound with
      averageWriteDelay := div_nonneg sound.totalWriteDelay writes }
  · exact sound

/-- `delay_calculator` never divides by zero. -/
theorem Sound.calculate (sound : measures.Sound) :
    ∃ after, measures.calculate = .ok after ∧ after.Sound := by
  have written := sound.measureWrites
  simp only [Measures.calculate]
  split
  · rename_i some_reads
    have reads := written.readCount
    have writes := written.writeCount
    have total : measures.measureWrites.readCount +
        measures.measureWrites.writeCount ≠ 0 := by omega
    have readsNonneg : (0 : ℚ) ≤ measures.measureWrites.readCount := by
      exact_mod_cast reads
    have totalPos : (0 : ℚ) < (measures.measureWrites.readCount +
        measures.measureWrites.writeCount : Int) := by
      exact_mod_cast (by omega : (0 : Int) <
        measures.measureWrites.readCount +
          measures.measureWrites.writeCount)
    rw [if_neg total]
    refine ⟨_, rfl, { written with
      averageReadDelay := div_nonneg written.totalReadDelay readsNonneg
      rwRatio := ⟨div_nonneg readsNonneg totalPos.le, ?_⟩ }⟩
    rw [div_le_one totalPos]
    exact_mod_cast (by omega : measures.measureWrites.readCount ≤
      measures.measureWrites.readCount + measures.measureWrites.writeCount)
  · exact ⟨_, rfl, written⟩

end

end Measures

theorem mean_pos {ratio first second : ℚ} (bounds : 0 ≤ ratio ∧ ratio ≤ 1)
    (firstPos : 0 < first) (secondPos : 0 < second) :
    0 < ratio * first + (1 - ratio) * second := by
  rcases bounds.1.eq_or_lt with none | some_first
  · rw [← none]
    linarith
  · have left := mul_pos some_first firstPos
    have right := mul_nonneg (sub_nonneg.mpr bounds.2) secondPos.le
    linarith

section

variable {total : Int} {status : Nat → TaskStatus} {sample : Sample}
  {pool : Pool}

theorem rebalanceTo_eq_none {readRatio : ℚ} :
    rebalanceTo total status sample readRatio pool = none ↔
      readRatio * sample.averageReadDelay +
        (1 - readRatio) * sample.averageWriteDelay = 0 := by
  simp only [rebalanceTo]
  split
  · rename_i zero
    exact iff_of_true rfl zero
  · rename_i positive
    split
    · exact iff_of_false (Option.some_ne_none _) positive
    · split <;> exact iff_of_false (Option.some_ne_none _) positive

theorem mixed_eq_none (some_sum :
    sample.incReadCount + sample.incWriteCount ≠ 0) :
    rebalanceTo total status sample
        (sample.incReadCount /
            (sample.incReadCount + sample.incWriteCount : Int) * (3 / 5) +
          sample.rwRatio * (2 / 5)) pool = none ↔
      3 * (sample.incReadCount * sample.averageReadDelay +
            sample.incWriteCount * sample.averageWriteDelay) +
          2 * (sample.incReadCount + sample.incWriteCount) *
            (sample.rwRatio * sample.averageReadDelay +
              (1 - sample.rwRatio) * sample.averageWriteDelay) = 0 := by
  have nonzero : ((sample.incReadCount : ℚ) + sample.incWriteCount) ≠ 0 := by
    exact_mod_cast some_sum
  rw [rebalanceTo_eq_none]
  push_cast
  field_simp
  constructor
  · intro zero
    linarith
  · intro zero
    linarith

theorem maybeRebalance_eq_none (readDelay : 0 ≤ sample.averageReadDelay)
    (writeDelay : 0 ≤ sample.averageWriteDelay)
    (ratio : 0 ≤ sample.rwRatio ∧ sample.rwRatio ≤ 1) :
    maybeRebalance total status sample pool = none ↔
      ¬sample.Uncancelled := by
  simp only [maybeRebalance]
  split
  · rename_i unknown
    refine iff_of_false (Option.some_ne_none _) (not_not.mpr ?_)
    intro someRead someWrite
    exact absurd unknown (not_or.mpr ⟨someRead, someWrite⟩)
  · rename_i known
    obtain ⟨someRead, someWrite⟩ := not_or.mp known
    split
    · rename_i changed
      split
      · rename_i cancelled
        refine iff_of_true rfl ?_
        intro uncancelled
        exact (uncancelled someRead someWrite changed.1 changed.2).1
          cancelled
      · rename_i some_sum
        rw [mixed_eq_none some_sum]
        constructor
        · intro zero uncancelled
          exact (uncancelled someRead someWrite changed.1 changed.2).2 zero
        · intro cancelled
          by_contra nonzero
          exact cancelled (fun _ _ _ _ => ⟨some_sum, nonzero⟩)
    · rename_i unchanged
      have uncancelled : sample.Uncancelled := by
        intro _ _ incRead incWrite
        exact absurd ⟨incRead, incWrite⟩ unchanged
      refine iff_of_false ?_ (not_not.mpr uncancelled)
      split
      · rw [rebalanceTo_eq_none]
        exact (mean_pos ratio (readDelay.lt_of_ne' someRead)
          (writeDelay.lt_of_ne' someWrite)).ne'
      · exact Option.some_ne_none _

end

theorem Sample.uncancelled_of_nonneg {sample : Sample}
    (incRead : 0 ≤ sample.incReadCount) (incWrite : 0 ≤ sample.incWriteCount)
    (readDelay : 0 ≤ sample.averageReadDelay)
    (writeDelay : 0 ≤ sample.averageWriteDelay)
    (ratio : 0 ≤ sample.rwRatio ∧ sample.rwRatio ≤ 1) :
    sample.Uncancelled := by
  intro someRead someWrite changedRead changedWrite
  have readPos : (0 : ℚ) < sample.incReadCount := by
    exact_mod_cast incRead.lt_of_ne' changedRead
  have writePos : (0 : ℚ) < sample.incWriteCount := by
    exact_mod_cast incWrite.lt_of_ne' changedWrite
  have mean := mean_pos ratio (readDelay.lt_of_ne' someRead)
    (writeDelay.lt_of_ne' someWrite)
  refine ⟨by omega, (?_ : (0 : ℚ) < _).ne'⟩
  positivity

namespace Monitor

section

variable {config : PoolConfig} {monitor next : Monitor} {action : Action}
  {events : List Timer} {trace : List Timer} {reserve : ℚ}

theorem delayChecker_eq_none (config : PoolConfig)
    (sound : monitor.measures.Sound) (status : Nat → TaskStatus) :
    delayChecker config monitor.measures.toStatistics monitor.checker
        status monitor.pool = none ↔ ¬monitor.sample.Uncancelled := by
  rw [delayChecker, Option.map_eq_none_iff]
  exact maybeRebalance_eq_none sound.averageReadDelay
    sound.averageWriteDelay sound.rwRatio

theorem step_sound (sound : monitor.measures.Sound)
    (stepped : step config monitor action = some (next, events)) :
    next.measures.Sound := by
  cases action with
  | complete role delay =>
      simp only [step] at stepped
      split at stepped
      · rename_i passed
        cases stepped
        exact sound.complete passed role
      · cases stepped
  | delayCalculator =>
      obtain ⟨after, calculated, soundAfter⟩ := sound.calculate
      simp only [step, calculated] at stepped
      split at stepped
      · cases stepped
        exact soundAfter
      · cases stepped
  | delayChecker status =>
      simp only [step] at stepped
      split at stepped
      · split at stepped
        · cases stepped
          exact sound
        · cases stepped
          exact sound
      · cases stepped
  | inactiveChecker =>
      simp only [step] at stepped
      split at stepped
      · cases stepped
        exact sound.reset
      · cases stepped

theorem run_sound {allowed : Monitor → Action → Prop}
    (run : Transition.Run (step config) allowed (start config reserve) trace
      monitor) : monitor.measures.Sound :=
  run.state_invariant Measures.sound_initial
    (fun sound _ stepped => step_sound sound stepped)

theorem step_scheduled (sound : monitor.measures.Sound)
    (scheduled : ∀ timer, monitor.scheduled timer = true)
    (permitted : monitor.uncancelledChecks action)
    (stepped : step config monitor action = some (next, events)) :
    events = [] ∧ ∀ timer, next.scheduled timer = true := by
  cases action with
  | complete role delay =>
      simp only [step] at stepped
      split at stepped
      · cases stepped
        exact ⟨rfl, scheduled⟩
      · cases stepped
  | delayCalculator =>
      obtain ⟨after, calculated, _⟩ := sound.calculate
      simp only [step, calculated, scheduled, if_true] at stepped
      cases stepped
      exact ⟨rfl, scheduled⟩
  | delayChecker status =>
      simp only [step, scheduled, if_true] at stepped
      split at stepped
      · cases stepped
        exact ⟨rfl, scheduled⟩
      · rename_i raised
        exact absurd permitted ((delayChecker_eq_none config sound _).mp raised)
  | inactiveChecker =>
      simp only [step, scheduled, if_true] at stepped
      cases stepped
      exact ⟨rfl, scheduled⟩

/-- A check that is scheduled divides by zero if and only if the changes
cancel. -/
theorem check_raises_iff (sound : monitor.measures.Sound)
    (scheduled : monitor.scheduled .delayChecker = true)
    (status : Nat → TaskStatus) :
    (∃ next, step config monitor (.delayChecker status) =
        some (next, [.delayChecker])) ↔ ¬monitor.sample.Uncancelled := by
  rw [← delayChecker_eq_none config sound status]
  simp only [step, scheduled, if_true]
  split
  · rename_i pool checker checked
    rw [checked]
    simp
  · rename_i raised
    rw [raised]
    simp

instance decidableUncancelledChecks (monitor : Monitor) :
    ∀ action : Action, Decidable (monitor.uncancelledChecks action)
  | .complete _ _ => .isTrue trivial
  | .delayCalculator => .isTrue trivial
  | .delayChecker _ => inferInstanceAs (Decidable (_ → _ → _ → _ → _ ∧ _))
  | .inactiveChecker => .isTrue trivial

/-- As long as the changes do not cancel when the delay checker runs, no
callback divides by zero and every timer goes on.  A check divides by zero
exactly when they do. -/
theorem run_timersGoOn
    (run : Transition.Run (step config) uncancelledChecks
      (start config reserve) trace monitor) :
    trace = [] ∧ (∀ timer, monitor.scheduled timer = true) ∧
      ∀ status, (∃ next, step config monitor (.delayChecker status) =
        some (next, [.delayChecker])) ↔ ¬monitor.sample.Uncancelled := by
  have all : trace = [] ∧ ∀ timer, monitor.scheduled timer = true := by
    induction run with
    | refl => exact ⟨rfl, fun _ => rfl⟩
    | snoc run permitted stepped induction =>
        obtain ⟨none, scheduled⟩ := induction
        obtain ⟨noneNow, scheduledNext⟩ :=
          step_scheduled (run_sound run) scheduled permitted stepped
        rw [none, noneNow]
        exact ⟨rfl, scheduledNext⟩
  refine ⟨all.1, all.2, ?_⟩
  intro status
  exact check_raises_iff (run_sound run) (all.2 _) status

theorem run_timersGoOn_reset : ∃ trace monitor,
    Transition.Run (step { maxConnections := 10 }) uncancelledChecks
      (start { maxConnections := 10 } (1 / 20)) trace monitor ∧
    monitor.measures.readCount = 3 ∧
    ∀ timer, monitor.scheduled timer = true := by
  have counted : ∃ trace monitor,
      Transition.Run (step { maxConnections := 10 }) uncancelledChecks
        (start { maxConnections := 10 } (1 / 20)) trace monitor ∧
      monitor.measures.readCount = 3 := by
    apply Transition.Run.exists_state_of_exec
      [.complete .reader 1, .complete .writer 1, .delayCalculator,
        .delayChecker (fun _ => .running), .inactiveChecker,
        .complete .reader 1, .complete .reader 1, .complete .writer 1,
        .delayChecker (fun _ => .running)]
    decide +kernel
  obtain ⟨trace, monitor, run, count⟩ := counted
  exact ⟨trace, monitor, run, count, (run_timersGoOn run).2.1⟩

/-- After a reset, two more reads make up for the two writes that were
forgotten, and the next check stops the delay checker for good. -/
theorem delayChecker_stops : ∃ trace monitor,
    Transition.AnyRun (step { maxConnections := 10 })
      (start { maxConnections := 10 } (1 / 20)) trace monitor ∧
    trace = [.delayChecker] ∧
      monitor.scheduled .delayChecker = false := by
  apply Transition.Run.exists_both_of_exec
    [.complete .reader 1, .complete .writer 1, .complete .writer 1,
      .complete .writer 1, .delayCalculator,
      .delayChecker (fun _ => .running), .inactiveChecker,
      .complete .reader 1, .complete .reader 1,
      .delayChecker (fun _ => .running)]
  decide +kernel

/-- The counters are never below what the checker remembers. -/
structure Grown (monitor : Monitor) : Prop where
  incReadCount : 0 ≤ monitor.sample.incReadCount
  incWriteCount : 0 ≤ monitor.sample.incWriteCount

theorem Grown.uncancelled (grown : monitor.Grown)
    (sound : monitor.measures.Sound) : monitor.sample.Uncancelled :=
  Sample.uncancelled_of_nonneg grown.incReadCount grown.incWriteCount
    sound.averageReadDelay sound.averageWriteDelay sound.rwRatio

theorem measureWrites_counts (measures : Measures) :
    measures.measureWrites.readCount = measures.readCount ∧
      measures.measureWrites.writeCount = measures.writeCount := by
  unfold Measures.measureWrites
  split <;> exact ⟨rfl, rfl⟩

theorem calculate_counts {measures after : Measures}
    (calculated : measures.calculate = .ok after) :
    after.readCount = measures.readCount ∧
      after.writeCount = measures.writeCount := by
  have written := measureWrites_counts measures
  simp only [Measures.calculate] at calculated
  split at calculated
  · split at calculated
    · cases calculated
    · cases calculated
      exact written
  · cases calculated
    exact written

theorem delayChecker_remembers {status : Nat → TaskStatus} {pool : Pool}
    {checker : Checker}
    (checked : delayChecker config monitor.measures.toStatistics
      monitor.checker status monitor.pool = some (pool, checker)) :
    checker.lastReadCount = monitor.measures.readCount ∧
      checker.lastWriteCount = monitor.measures.writeCount := by
  obtain ⟨pass, _, same⟩ := Option.map_eq_some_iff.mp checked
  cases same
  exact ⟨rfl, rfl⟩

/-- Every step but a reset keeps the counters above what is remembered. -/
theorem step_grown (sound : monitor.measures.Sound) (grown : monitor.Grown)
    (kept : action ≠ .inactiveChecker)
    (stepped : step config monitor action = some (next, events)) :
    next.Grown := by
  obtain ⟨incRead, incWrite⟩ := grown
  simp only [sample] at incRead incWrite
  cases action with
  | complete role delay =>
      simp only [step] at stepped
      split at stepped
      · cases stepped
        cases role with
        | reader =>
            constructor <;> simp only [sample, Measures.complete] <;> omega
        | writer =>
            constructor <;> simp only [sample, Measures.complete] <;> omega
      · cases stepped
  | delayCalculator =>
      obtain ⟨after, calculated, _⟩ := sound.calculate
      obtain ⟨reads, writes⟩ := calculate_counts calculated
      simp only [step, calculated] at stepped
      split at stepped
      · cases stepped
        constructor <;> simp only [sample, reads, writes] <;> assumption
      · cases stepped
  | delayChecker status =>
      simp only [step] at stepped
      split at stepped
      · split at stepped
        · rename_i pool checker checked
          cases stepped
          obtain ⟨reads, writes⟩ := delayChecker_remembers checked
          constructor <;> simp only [sample, reads, writes] <;> omega
        · cases stepped
          exact ⟨incRead, incWrite⟩
      · cases stepped
  | inactiveChecker => exact absurd rfl kept

/-- Only a reset can stop a timer: without one the delay checker never finds
a counter below the value that it remembers. -/
theorem run_withoutReset
    (run : Transition.Run (step config)
      (fun _ action => action ≠ .inactiveChecker)
      (start config reserve) trace monitor) :
    trace = [] ∧ ∀ timer, monitor.scheduled timer = true := by
  have all : monitor.Grown ∧ trace = [] ∧
      ∀ timer, monitor.scheduled timer = true := by
    induction run with
    | refl => exact ⟨⟨le_rfl, le_rfl⟩, rfl, fun _ => rfl⟩
    | @snoc _ _ state _ action run kept stepped induction =>
        obtain ⟨grown, none, scheduled⟩ := induction
        have sound := run_sound run
        have permitted : state.uncancelledChecks action := by
          cases action with
          | delayChecker status => exact grown.uncancelled sound
          | complete role delay => trivial
          | delayCalculator => trivial
          | inactiveChecker => trivial
        obtain ⟨noneNow, scheduledNext⟩ :=
          step_scheduled sound scheduled permitted stepped
        rw [none, noneNow]
        exact ⟨step_grown sound grown kept stepped, rfl, scheduledNext⟩
  exact all.2

end

end Monitor

end Redis

end TinyChat
