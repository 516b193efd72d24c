import Mathlib.Algebra.BigOperators.Group.Finset.Basic
import Mathlib.Algebra.Group.Action.Defs
import Mathlib.Algebra.Order.BigOperators.Group.Finset
import TinyChat.Storage.BucketSafety

/-!
# No bucket is too large

A bucket has ten thousand blocks of 100 slots.  In a run in which increments
and slots are only given back when they were not used, no bucket receives
more writes than that.  If a slot is given back whose write is not lost, one
block is enough for any number of writes.
-/

namespace TinyChat

namespace Storage

open Redis
open Transition

theorem marked_rollbacks {events : List StorageEvent}
    (silent : ∀ event ∈ events, event.Silent) (count : Nat) (mark : Mark)
    (block : Int) (call : Nat) (other : Int) :
    marked mark block
        (List.replicate count (StorageEvent.rolledBack call other) ++ events) =
      if mark = .rolledBack ∧ other = block then List.replicate count call
      else [] := by
  induction count with
  | zero =>
      rw [List.replicate_zero, List.nil_append, marked_silent silent,
        List.replicate_zero, ite_self]
  | succ count induction =>
      have first : marked mark block
          (List.replicate (count + 1) (StorageEvent.rolledBack call other) ++
            events) =
          marked mark block [StorageEvent.rolledBack call other] ++
            marked mark block
              (List.replicate count (StorageEvent.rolledBack call other) ++
                events) :=
        marked_append mark block [_] _
      rw [first, induction, marked_rolledBack]
      split
      · rfl
      · rfl

namespace CassStorage

variable {Process : Type}

/-- A rollback takes back the last increment; a slot is given back once, to
the block from which it is, and its write is lost. -/
def GivesBackUnused (storage : CassStorage Process) :
    StorageAction Process → Prop
  | .redis command => storage.redis.TakesBackLast command
  | .finish call outcome contextCancelled => ∀ process block,
      storage.calls call = .writing process block →
      ∀ index ∈ storage.bucketCache process,
        0 < (storage.lines index).endVal →
        rollbacks outcome contextCancelled = 0 ∨
          rollbacks outcome contextCancelled = 1 ∧
            storage.writes call = .lost ∧
            (storage.lines index).endVal = block
  | _ => True

structure Kept (trace : List StorageEvent) (storage : CassStorage Process) :
    Prop where
  blocks : Blocks trace storage
  slots : Slots trace storage
  writes : Writes trace storage

variable {trace events : List StorageEvent}
  {storage next : CassStorage Process} {action : StorageAction Process}

theorem replies_silent (call : Nat) (outcome : WriteOutcome)
    (contextCancelled : Bool) :
    ∀ event ∈ replies call outcome contextCancelled, event.Silent := by
  intro event member
  unfold replies at member
  split at member
  · exact ⟨call, .success, List.mem_singleton.mp member⟩
  · exact ⟨call, .failed, List.mem_singleton.mp member⟩
  · cases member

namespace Kept

theorem quiet (kept : Kept trace storage) (quiet : Quiet storage next) :
    Kept trace next := by
  have none : ∀ event ∈ ([] : List StorageEvent), event.Silent :=
    fun _ member => absurd member List.not_mem_nil
  have slots : Slots (trace ++ []) next := by
    refine kept.slots.keep ?_ (fun _ _ => rfl)
    intro index ready
    rcases quiet.lines index with same | empty
    · exact same
    · rw [empty.2.2] at ready
      cases ready
  have writes := kept.writes.keep quiet.calls quiet.writes none
  rw [List.append_nil] at slots writes
  exact ⟨kept.blocks.quiet quiet, slots, writes⟩

/-- A call without a slot goes on, and gets none. -/
theorem withCall (kept : Kept trace storage) {call : Nat}
    (undecided : ¬ (storage.calls call).Decided)
    {phase : SessionCall Process}
    (untasked : phase.Untasked → storage.redis.tasks call = none)
    (slotless : ∀ process block, phase ≠ .writing process block)
    (silent : ∀ event ∈ events, event.Silent) :
    Kept (trace ++ events) (storage.withCall call phase) where
  blocks := kept.blocks.withCall undecided untasked silent
  slots := kept.slots.keep (fun _ _ => ⟨rfl, rfl, rfl⟩)
    (fun block _ => taken_silent silent block)
  writes := (kept.writes.withCall undecided slotless).keep rfl rfl silent

theorem act (kept : Kept trace storage) {command : CounterAction}
    {redis : RedisCounter} (old : ∀ task, command ≠ .issue task)
    (last : storage.redis.TakesBackLast command)
    (acted : storage.redis.act blockSize command = some redis) :
    Kept trace { storage with redis := redis } := by
  have none : ∀ event ∈ ([] : List StorageEvent), event.Silent :=
    fun _ member => absurd member List.not_mem_nil
  have slots : Slots (trace ++ []) { storage with redis := redis } :=
    kept.slots.keep (fun _ _ => ⟨rfl, rfl, rfl⟩) (fun _ _ => rfl)
  have writes : Writes (trace ++ []) { storage with redis := redis } :=
    kept.writes.keep rfl rfl none
  rw [List.append_nil] at slots writes
  exact ⟨kept.blocks.act old last acted, slots, writes⟩

theorem timeout (kept : Kept trace storage) {call : Nat}
    {redis : RedisCounter}
    (acted : storage.redis.act blockSize (.move call .timeout) =
      some redis) :
    Kept trace { storage with redis := redis } := by
  have last : storage.redis.TakesBackLast (.move call .timeout) := trivial
  refine kept.act ?_ last acted
  intro task same
  cases same

theorem increment (kept : Kept trace storage) {call : Nat}
    (untasked : (storage.calls call).Untasked) (process : Process)
    (index : Nat) (request : CassMsgRequest) :
    Kept trace (storage.increment call process index request) := by
  have none : ∀ event ∈ ([] : List StorageEvent), event.Silent :=
    fun _ member => absurd member List.not_mem_nil
  have slots : Slots (trace ++ [])
      (storage.increment call process index request) :=
    kept.slots.keep (fun _ _ => ⟨rfl, rfl, rfl⟩) (fun _ _ => rfl)
  have moved : Writes trace
      (storage.withCall call (.incrementing process index request)) := by
    refine kept.writes.withCall untasked.undecided ?_
    intro _ _ same
    cases same
  have writes : Writes (trace ++ [])
      (storage.increment call process index request) :=
    moved.keep rfl rfl none
  rw [List.append_nil] at slots writes
  exact ⟨kept.blocks.increment untasked process index request, slots,
    writes⟩

theorem advance (kept : Kept trace storage) {call index : Nat}
    (undecided : ¬ (storage.calls call).Decided)
    (available : (storage.lines index).available = true)
    (process : Process) (request : CassMsgRequest) :
    let next := (storage.withLine index (storage.lines index).advance).write
      call process (storage.lines index).endVal
      (storage.lines index).bucket request
    Kept (trace ++ next.2) next.1 := by
  intro next
  have ready : 0 < (storage.lines index).endVal := by
    simp only [BucketCacheLine.available, BucketCacheLine.ready,
      Bool.and_eq_true, decide_eq_true_eq] at available
    exact available.1
  have granted := write_granted
    (storage.withLine index (storage.lines index).advance) call process
    (storage.lines index).endVal (kept.blocks.bucket_nonneg ready) request
  have same : next = _ := granted
  rw [same]
  refine ⟨kept.blocks.advance undecided ready process _,
    kept.slots.advance kept.blocks available call process _, ?_⟩
  refine kept.writes.grant undecided ?_ rfl rfl ?_ ?_
  · exact (kept.blocks.lines index ready).2
  · exact fun mark other => marked_granted mark other call _ _
  · intro other last row member
    cases List.mem_singleton.mp member

theorem refill (kept : Kept trace storage) {call index : Nat}
    (undecided : ¬ (storage.calls call).Decided) {incr : IncrTask}
    {told : Bool} (listed : storage.redis.tasks call = some incr)
    (result : incr.task.waiter = .result (some told)) (process : Process)
    (request : CassMsgRequest) :
    let next := (storage.withLine index
        ((storage.lines index).fill incr.value)).write call process
      incr.value ((storage.lines index).fill incr.value).bucket request
    Kept (trace ++ .refilled call index incr.value :: next.2) next.1 := by
  intro next
  have held := kept.blocks.redis.held_of_told listed result
  have lower := (kept.blocks.redis.bounds call incr listed held).1
  have positive : (0 : Int) < blockSize := by decide
  have nonneg : 0 ≤ ((storage.lines index).fill incr.value).bucket :=
    Int.ediv_nonneg (by omega) (by decide)
  have same : next = _ := write_granted
    (storage.withLine index ((storage.lines index).fill incr.value)) call
    process incr.value nonneg request
  rw [same]
  have fresh := kept.blocks.fresh undecided listed result
  have ungranted : marked .granted incr.value trace = [] := by
    refine List.eq_nil_iff_forall_not_mem.mpr ?_
    intro other member
    obtain ⟨caller, place, refilled⟩ :=
      kept.blocks.granted other incr.value member
    exact fresh caller place refilled
  have unreturned : marked .rolledBack incr.value trace = [] := by
    refine List.eq_nil_iff_forall_not_mem.mpr ?_
    intro other member
    have slot := (kept.writes.rolledBack other incr.value (by omega)
      member).2.2
    rw [ungranted] at slot
    cases slot
  have untaken : taken trace incr.value = 0 := by
    rw [taken, ungranted, unreturned]
    rfl
  refine ⟨kept.blocks.refill undecided listed result process _ _,
    kept.slots.refill fresh kept.blocks untaken call _ process _, ?_⟩
  refine kept.writes.grant undecided rfl rfl rfl ?_ ?_
  · exact fun mark other => marked_granted mark other call _ _
  · intro other last row member
    rcases List.mem_pair.mp member with wrong | wrong
    · cases wrong
    · cases wrong

theorem apply (kept : Kept trace storage) {call : Nat} {block : Int}
    {row : SessionRow} (flying : storage.writes call = .inFlight block row)
    (table : List SessionRow) :
    Kept (trace ++ [StorageEvent.wrote call block row])
      { storage with
        writes := Function.update storage.writes call .applied
        table := table } where
  blocks := by
    refine kept.blocks.withWrites _ table ?_
    intro event member
    exact ⟨call, block, row, List.mem_singleton.mp member⟩
  slots := by
    refine kept.slots.keep (fun _ _ => ⟨rfl, rfl, rfl⟩) ?_
    intro other _
    simp [taken, marked_wrote]
  writes := kept.writes.apply flying table

theorem lose (kept : Kept trace storage) {call : Nat} {block : Int}
    {row : SessionRow}
    (flying : storage.writes call = .inFlight block row) :
    Kept trace
      { storage with
        writes := Function.update storage.writes call .lost } := by
  have blocks : Blocks (trace ++ [])
      { storage with
        writes := Function.update storage.writes call .lost } :=
    kept.blocks.withWrites _ storage.table
      (fun _ member => absurd member List.not_mem_nil)
  have slots : Slots (trace ++ [])
      { storage with
        writes := Function.update storage.writes call .lost } :=
    kept.slots.keep (fun _ _ => ⟨rfl, rfl, rfl⟩) (fun _ _ => rfl)
  rw [List.append_nil] at blocks slots
  exact ⟨blocks, slots, kept.writes.lose flying⟩

/-- A call ends without giving a slot back. -/
theorem ends (kept : Kept trace storage) {call : Nat} {process : Process}
    {block : Int} (phase : storage.calls call = .writing process block)
    (silent : ∀ event ∈ events, event.Silent) :
    Kept (trace ++ events) (storage.withCall call .ended) where
  blocks := by
    have decided : (storage.calls call).Decided := by
      rw [phase]
      trivial
    have ended := @Blocks.finish _ trace events storage kept.blocks call
      decided 0 (storage.lines 0) rfl rfl
      (fun event member => .inl (silent event member))
    rw [withLine_self] at ended
    exact ended
  slots := kept.slots.keep (fun _ _ => ⟨rfl, rfl, rfl⟩)
    (fun other _ => taken_silent silent other)
  writes := by
    refine kept.writes.finish phase rfl rfl ?_ ?_ ?_
    · exact fun mark other _ => marked_silent silent mark other
    · exact fun other _ => .inl (marked_silent silent .rolledBack other)
    · intro other last row member
      obtain ⟨_, code, wrong⟩ := silent _ member
      cases wrong

theorem givesBack (kept : Kept trace storage) {call : Nat}
    {process : Process} {block : Int}
    (phase : storage.calls call = .writing process block) (index : Nat)
    (count : Nat) (silent : ∀ event ∈ events, event.Silent)
    (unused : 0 < (storage.lines index).endVal →
      count = 0 ∨ count = 1 ∧ storage.writes call = .lost ∧
        (storage.lines index).endVal = block) :
    Kept
      (trace ++ (List.replicate count
        (StorageEvent.rolledBack call (storage.lines index).endVal) ++
          events))
      ((storage.withLine index
        { storage.lines index with
          currVal := (storage.lines index).currVal - count }).withCall call
        .ended) where
  blocks := by
    refine kept.blocks.finish ?_ rfl rfl ?_
    · rw [phase]
      trivial
    · intro event member
      rcases List.mem_append.mp member with back | other
      · exact .inr ⟨_, List.eq_of_mem_replicate back⟩
      · exact .inl (silent event other)
  slots := by
    have idle : ∀ other, (storage.lines index).endVal ≠ other →
        taken (List.replicate count
          (StorageEvent.rolledBack call (storage.lines index).endVal) ++
          events) other = 0 := by
      intro other different
      simp [taken, marked_rollbacks silent, different]
    by_cases ready : 0 < (storage.lines index).endVal
    · rcases unused ready with rfl | ⟨rfl, -, -⟩
      · refine kept.slots.keep ?_ ?_
        · intro other _
          by_cases same : other = index
          · subst same
            simp only [CassStorage.withCall, lines_withLine]
            exact ⟨rfl, Int.sub_zero _, rfl⟩
          · simp only [CassStorage.withCall, lines_withLine_of_ne same]
            exact ⟨rfl, rfl, rfl⟩
        · intro other _
          simp [taken, marked_silent silent]
      · exact kept.slots.giveBack kept.blocks ready call silent
    · refine kept.slots.keep ?_ ?_
      · intro other also
        by_cases same : other = index
        · subst same
          simp only [CassStorage.withCall, lines_withLine] at also
          exact absurd also ready
        · simp only [CassStorage.withCall, lines_withLine_of_ne same]
          exact ⟨rfl, rfl, rfl⟩
      · intro other positive
        refine idle other ?_
        rintro rfl
        exact ready positive
  writes := by
    refine kept.writes.finish phase rfl rfl ?_ ?_ ?_
    · intro mark other different
      rw [marked_rollbacks silent, if_neg (fun both => different both.1)]
    · intro other positive
      rw [marked_rollbacks silent]
      by_cases same : (storage.lines index).endVal = other
      · subst same
        rw [if_pos ⟨rfl, rfl⟩]
        rcases unused positive with rfl | ⟨rfl, lost, own⟩
        · exact .inl rfl
        · exact .inr ⟨rfl, own, lost⟩
      · exact .inl (if_neg (fun both => same both.2))
    · intro other last row member
      rcases List.mem_append.mp member with back | later
      · cases List.eq_of_mem_replicate back
      · obtain ⟨_, code, wrong⟩ := silent _ later
        cases wrong

theorem finish (kept : Kept trace storage) {call : Nat} {process : Process}
    {block : Int} (phase : storage.calls call = .writing process block)
    {outcome : WriteOutcome} {contextCancelled : Bool}
    (unused : storage.GivesBackUnused
      (.finish call outcome contextCancelled)) :
    Kept
      (trace ++ (storage.finish call process outcome contextCancelled).2)
      (storage.finish call process outcome contextCancelled).1 := by
  have silent := replies_silent call outcome contextCancelled
  unfold CassStorage.finish
  simp only
  split
  · refine kept.ends phase ?_
    split
    · exact silent
    · exact fun _ member => absurd member List.not_mem_nil
  · rename_i index cached
    exact kept.givesBack phase index _ silent
      (unused process block phase index cached)

theorem changed (kept : Kept trace storage)
    (unused : storage.GivesBackUnused action)
    (changed : Changed storage action next events) :
    Kept (trace ++ events) next := by
  have none : ∀ event ∈ ([] : List StorageEvent), event.Silent :=
    fun _ member => absurd member List.not_mem_nil
  cases changed with
  | quiet quiet =>
      rw [List.append_nil]
      exact kept.quiet quiet
  | served serving acted =>
      rw [List.append_nil]
      refine kept.act ?_ unused acted
      rintro task rfl
      cases serving
  | @timedOut call redis acted =>
      rw [List.append_nil]
      exact kept.timeout acted
  | @waits _ mid call request process index refill quiet requests =>
      have untasked := requests.untasked
      rw [← quiet.calls] at untasked
      refine (kept.quiet quiet).withCall untasked.undecided ?_ ?_ none
      · exact fun _ => (kept.quiet quiet).blocks.untasked call untasked
      · intro _ _ same
        cases same
  | asks process index quiet requests =>
      have untasked := requests.untasked
      rw [← quiet.calls] at untasked
      rw [List.append_nil]
      exact (kept.quiet quiet).increment untasked process index _
  | advanced process quiet requests available =>
      have untasked := requests.untasked
      rw [← quiet.calls] at untasked
      exact (kept.quiet quiet).advance untasked.undecided available process
        _
  | @refilled _ mid call index request process incr told quiet phase listed
      result =>
      have undecided : ¬ (mid.calls call).Decided := by
        rw [quiet.calls, phase]
        exact id
      rw [← quiet.redis] at listed
      exact (kept.quiet quiet).refill undecided listed result process
        request
  | ends quiet undecided silent =>
      rw [← quiet.calls] at undecided
      refine (kept.quiet quiet).withCall undecided ?_ ?_ ?_
      · exact fun untasked => untasked.elim
      · intro _ _ same
        cases same
      · intro event member
        obtain ⟨code, -, same⟩ := silent event member
        exact ⟨_, code, same⟩
  | cancelled acted undecided =>
      refine (kept.timeout acted).withCall undecided ?_ ?_ none
      · exact fun untasked => untasked.elim
      · intro _ _ same
        cases same
  | applied flying => exact kept.apply flying _
  | lost flying =>
      rw [List.append_nil]
      exact kept.lose flying
  | finished phase _ => exact kept.finish phase unused

theorem initial : Kept [] ({} : CassStorage Process) := by
  refine ⟨⟨RedisCounter.sound_initial blockSize, fun _ _ => rfl, ?_, ?_, ?_,
    ?_⟩, ⟨?_, ?_⟩, ⟨?_, ?_, ?_, ?_, ?_, ?_, ?_⟩⟩
  · intro call index block member
    cases member
  · intro call index other block last member
    cases member
  · intro index ready
    cases ready
  · intro call block member
    cases member
  · intro index ready
    cases ready
  · intro block positive
    have none : taken [] block = 0 := rfl
    rw [none]
    decide
  · intro call block member
    cases member
  · intro call block member
    cases member
  · intro call block positive member
    cases member
  · intro call process block phase
    cases phase
  · intro call block row flying
    cases flying
  · exact fun _ _ _ => List.nodup_nil
  · intro call block row member
    cases member

end Kept

/-- At most 100 slots of a block are used. -/
theorem Kept.wrote_le (kept : Kept trace storage) {block : Int}
    (positive : 0 < block) : (marked .wrote block trace).length ≤ 100 := by
  have distinct : (marked .wrote block trace ++
      marked .rolledBack block trace).Nodup := by
    refine List.nodup_append.mpr ⟨kept.writes.distinct .wrote block positive,
      kept.writes.distinct .rolledBack block positive, ?_⟩
    rintro call used other returned rfl
    have applied := (kept.writes.wrote call block used).1
    rw [(kept.writes.rolledBack call block positive returned).1] at applied
    cases applied
  have among : marked .wrote block trace ++
      marked .rolledBack block trace ⊆ marked .granted block trace := by
    intro call member
    rcases List.mem_append.mp member with used | returned
    · exact (kept.writes.wrote call block used).2
    · exact (kept.writes.rolledBack call block positive returned).2.2
  have bound := (distinct.subperm among).length_le
  have full := kept.slots.full block positive
  rw [List.length_append] at bound
  simp only [taken, blockSize] at full
  omega

/-- The blocks of the slots whose calls have written to a bucket. -/
def blocksOf (trace : List StorageEvent) (bucket : Int) : List Int :=
  trace.filterMap (fun
    | .wrote _ block row => if row.bucket = bucket then some block else none
    | _ => none)

theorem length_blocksOf (trace : List StorageEvent) (bucket : Int) :
    (blocksOf trace bucket).length = writesTo trace bucket := by
  induction trace with
  | nil => rfl
  | cons event trace induction =>
      simp only [blocksOf, writesTo] at induction ⊢
      rw [List.filterMap_cons, List.countP_cons, ← induction]
      cases event with
      | wrote call block row =>
          by_cases same : row.bucket = bucket
          · simp [same]
          · simp [same]
      | refilled | granted | rolledBack | replied => simp

theorem count_blocksOf (trace : List StorageEvent) (bucket block : Int) :
    (blocksOf trace bucket).count block ≤
      (marked .wrote block trace).length := by
  induction trace with
  | nil => exact Nat.le_refl 0
  | cons event trace induction =>
      simp only [blocksOf, marked] at induction ⊢
      rw [List.filterMap_cons, List.filterMap_cons]
      cases event with
      | wrote call other row =>
          simp only [StorageEvent.marks, true_and]
          split_ifs with same here
          · simp only [here, List.count_cons_self, List.length_cons]
            omega
          · simp only [List.count_cons_of_ne here]
            exact induction
          · simp only [List.length_cons]
            omega
          · exact induction
      | refilled | granted | rolledBack | replied =>
          simpa [StorageEvent.marks] using induction

theorem mem_blocksOf {bucket block : Int}
    (member : block ∈ blocksOf trace bucket) :
    ∃ call row, .wrote call block row ∈ trace ∧ row.bucket = bucket := by
  obtain ⟨event, listed, same⟩ := List.mem_filterMap.mp member
  cases event with
  | wrote call other row =>
      simp only at same
      split at same
      · rename_i here
        cases same
        exact ⟨call, row, listed, here⟩
      · cases same
  | refilled | granted | rolledBack | replied => cases same

theorem Kept.mem_blocksOf (kept : Kept trace storage) {bucket block : Int}
    (member : block ∈ blocksOf trace bucket) :
    0 < block ∧ ∃ position < 10000,
      block = 1000000 * bucket + 100 * ((position : Nat) + 1) := by
  obtain ⟨call, row, wrote, same⟩ := CassStorage.mem_blocksOf member
  have used : call ∈ marked .wrote block trace :=
    List.mem_filterMap.mpr ⟨_, wrote, if_pos ⟨rfl, rfl⟩⟩
  have slot := (kept.writes.wrote call block used).2
  obtain ⟨caller, index, refilled⟩ := kept.blocks.granted call block slot
  obtain ⟨lower, divides⟩ := kept.blocks.bounds refilled
  have expected := kept.writes.buckets call block row wrote
  rw [same] at expected
  simp only [blockSize, messageCountOneBucket] at lower divides expected
  refine ⟨by omega, ((block - 100 - 1000000 * bucket) / 100).toNat, ?_, ?_⟩
  · omega
  · omega

theorem Kept.writesTo_le (kept : Kept trace storage) (bucket : Int) :
    (writesTo trace bucket : Int) ≤ messageCountOneBucket := by
  have among : (blocksOf trace bucket).toFinset ⊆
      (Finset.range 10000).image
        (fun position : Nat =>
          1000000 * bucket + 100 * ((position : Int) + 1)) := by
    intro block member
    obtain ⟨-, position, bound, same⟩ :=
      kept.mem_blocksOf (List.mem_toFinset.mp member)
    exact Finset.mem_image.mpr
      ⟨position, Finset.mem_range.mpr bound, same.symm⟩
  have few : (blocksOf trace bucket).toFinset.card ≤ 10000 := by
    refine (Finset.card_le_card among).trans
      (Finset.card_image_le.trans ?_)
    rw [Finset.card_range]
  have each : ∀ block ∈ (blocksOf trace bucket).toFinset,
      (blocksOf trace bucket).count block ≤ 100 := by
    intro block member
    have positive := (kept.mem_blocksOf (List.mem_toFinset.mp member)).1
    exact (count_blocksOf trace bucket block).trans
      (kept.wrote_le positive)
  have total := Finset.sum_le_card_nsmul _ _ 100 each
  rw [List.sum_toFinset_count_eq_length, length_blocksOf, smul_eq_mul]
    at total
  simp only [messageCountOneBucket]
  omega

/-- In every run in which only unused increments and slots are given back,
no bucket receives more writes than it has room for. -/
theorem bucket_within_limit [DecidableEq Process]
    (run : Run step GivesBackUnused {} trace storage) (bucket : Int) :
    (writesTo trace bucket : Int) ≤ messageCountOneBucket := by
  have kept : Kept trace storage := by
    refine run.invariant Kept.initial ?_
    intro trace events storage next action kept unused stepped
    exact kept.changed unused (step_changed stepped)
  exact kept.writesTo_le bucket

/-- The first call takes a block and writes; the write of the second one is
lost, and the third one gets its slot. -/
theorem bucket_within_limit_after_loss :
    ∃ trace, ∃ storage : CassStorage Nat,
      Run step GivesBackUnused {} trace storage ∧
      writesTo trace 0 = 2 ∧
      (writesTo trace 0 : Int) ≤ messageCountOneBucket := by
  have begun := ((((Run.refl :
    Run step GivesBackUnused ({} : CassStorage Nat) _ _).act
      (.writeToSession 0 0 (numbered 0)) trivial rfl).act
      (.redis (.move 0 .take)) trivial rfl).act
      (.redis (.execute 0)) trivial rfl).act
      (.redis (.move 0 .reply)) trivial rfl
  have written := ((begun.act (.resume 0) trivial rfl).act (.apply 0)
    trivial rfl).act (.finish 0 .written false)
      (fun _ _ _ _ _ _ => .inl rfl) rfl
  have lost := (written.act (.writeToSession 1 0 (numbered 1)) trivial
    rfl).act (.loseWrite 1) trivial rfl
  have returned := lost.act (.finish 1 .raised false) (by
    intro process block phase index cached _
    cases phase
    cases cached
    exact .inr ⟨rfl, rfl, rfl⟩) rfl
  have run := ((returned.act (.writeToSession 2 0 (numbered 2)) trivial
    rfl).act (.apply 2) trivial rfl).act (.finish 2 .written false)
      (fun _ _ _ _ _ _ => .inl rfl) rfl
  exact ⟨_, _, run, rfl, bucket_within_limit run 0⟩

/-- The line of the process has the first block, and its slots were given
back. -/
structure Reusable (fresh : Nat) (storage : CassStorage Nat) : Prop where
  cached : storage.bucketCache 0 = some 0
  bucket : (storage.lines 0).bucket = 0
  endVal : (storage.lines 0).endVal = 100
  currVal : (storage.lines 0).currVal < 0
  unused : ∀ call, fresh ≤ call → storage.calls call = .unused

/-- A call whose RPC is cancelled while its write is on its way gives its
slot back twice. -/
theorem Reusable.writes_again {fresh : Nat} {trace : List StorageEvent}
    {storage : CassStorage Nat} (reusable : Reusable fresh storage)
    (run : AnyRun step {} trace storage) :
    ∃ later next, AnyRun step {} (trace ++ later) next ∧
      Reusable (fresh + 1) next ∧ writesTo later 0 = 1 := by
  have ready : (storage.lines 0).ready = true := by
    rw [BucketCacheLine.ready, reusable.endVal]
    rfl
  have available : (storage.lines 0).available = true := by
    have behind : (storage.lines 0).currVal + 1 < 100 := by
      have := reusable.currVal
      omega
    rw [BucketCacheLine.available, ready, reusable.endVal]
    exact decide_eq_true behind
  have begun : step storage (.writeToSession fresh 0 (numbered fresh)) =
      some ((storage.withLine 0 (storage.lines 0).advance).write fresh 0
        (storage.lines 0).endVal (storage.lines 0).bucket
        (numbered fresh)) := by
    simp only [step, reusable.unused fresh (Nat.le_refl _), findLine,
      reusable.cached, calBucketVal, ready, available, if_true]
  rw [reusable.endVal, reusable.bucket,
    write_granted _ _ _ _ (Int.le_refl 0)] at begun
  have granted := run.act _ trivial begun
  have applied := granted.act (.apply fresh) trivial
    (step_apply (Function.update_self ..))
  have finished := applied.act (.finish fresh .cancelled true) trivial
    (step_finish (Function.update_self ..) reusable.cached
      (fun wrong => absurd wrong (by decide)))
  rw [List.append_assoc, List.append_assoc] at finished
  refine ⟨_, _, finished, ⟨reusable.cached, ?_, ?_, ?_, ?_⟩, rfl⟩
  · exact reusable.bucket
  · exact reusable.endVal
  · have before := reusable.currVal
    simp only [withCall, lines_withLine, BucketCacheLine.advance, rollbacks]
    simp
    omega
  · intro call later
    have different : call ≠ fresh := by omega
    rw [calls_withCall_of_ne different]
    exact (Function.update_of_ne different ..).trans
      (reusable.unused call (by omega))

theorem writes_without_bound (count : Nat) :
    ∃ trace storage, AnyRun step ({} : CassStorage Nat) trace storage ∧
      Reusable (count + 1) storage ∧ writesTo trace 0 = count + 1 := by
  induction count with
  | zero =>
      have executed : exec step (fun _ _ => True) ({} : CassStorage Nat)
          [.writeToSession 0 0 (numbered 0), .redis (.move 0 .take),
            .redis (.execute 0), .redis (.move 0 .reply), .resume 0,
            .apply 0, .finish 0 .cancelled true] =
          some (_, [.refilled 0 0 100, .granted 0 100 0,
            .wrote 0 100 (sessionRow 0 (numbered 0)), .rolledBack 0 100,
            .rolledBack 0 100]) := rfl
      refine ⟨_, _, Run.of_exec executed, ⟨rfl, rfl, rfl, by decide, ?_⟩,
        rfl⟩
      intro call later
      cases call with
      | zero => cases later
      | succ call => rfl
  | succ count induction =>
      obtain ⟨trace, storage, run, reusable, written⟩ := induction
      obtain ⟨later, next, longer, again, more⟩ :=
        reusable.writes_again run
      refine ⟨trace ++ later, next, longer, again, ?_⟩
      rw [writesTo, List.countP_append]
      exact congrArg₂ (· + ·) written more

/-- Calls that are cancelled again and again, while their shielded writes
are executed, overfill the first bucket with one block. -/
theorem bucket_overfilled :
    ∃ trace storage, AnyRun step ({} : CassStorage Nat) trace storage ∧
      messageCountOneBucket < writesTo trace 0 := by
  obtain ⟨trace, storage, run, -, written⟩ := writes_without_bound 1000000
  refine ⟨trace, storage, run, ?_⟩
  rw [written]
  decide

end CassStorage

end Storage

end TinyChat
