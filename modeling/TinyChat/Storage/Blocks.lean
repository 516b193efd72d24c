import TinyChat.Storage.SessionSteps

/-!
# Every block is granted once

The values that `INCR` returns are the ends of different blocks, as long as a
`DECR` only takes back the last one.  A line keeps one block at a time, and
no other line has ever had it.
-/

namespace TinyChat

namespace Storage

open Redis
open Transition

/-- What is counted of a block. -/
inductive Mark where
  | granted
  | wrote
  | rolledBack
  deriving DecidableEq

/-- The call that an event marks, if it is about a block. -/
def StorageEvent.marks (mark : Mark) (block : Int) :
    StorageEvent → Option Nat
  | .granted call other _ =>
      if mark = .granted ∧ other = block then some call else none
  | .wrote call other _ =>
      if mark = .wrote ∧ other = block then some call else none
  | .rolledBack call other =>
      if mark = .rolledBack ∧ other = block then some call else none
  | _ => none

/-- The calls that have taken, used or given back a slot of a block. -/
def marked (mark : Mark) (block : Int) (trace : List StorageEvent) :
    List Nat :=
  trace.filterMap (StorageEvent.marks mark block)

theorem marked_append (mark : Mark) (block : Int)
    (trace events : List StorageEvent) :
    marked mark block (trace ++ events) =
      marked mark block trace ++ marked mark block events :=
  List.filterMap_append

/-- The events that are about no line and no slot. -/
def StorageEvent.Silent (event : StorageEvent) : Prop :=
  ∃ call code, event = .replied call code

theorem marked_silent {events : List StorageEvent}
    (silent : ∀ event ∈ events, event.Silent) (mark : Mark)
    (block : Int) : marked mark block events = [] := by
  rw [marked, List.filterMap_eq_nil_iff]
  intro event member
  obtain ⟨call, code, rfl⟩ := silent event member
  rfl

namespace CassStorage

variable {Process : Type}

/-- The line has the block that was returned to a call. -/
structure Blocks (trace : List StorageEvent)
    (storage : CassStorage Process) : Prop where
  redis : storage.redis.Sound blockSize
  untasked : ∀ call, (storage.calls call).Untasked →
    storage.redis.tasks call = none
  refilled : ∀ call index block, .refilled call index block ∈ trace →
    (storage.calls call).Decided ∧
      ∃ incr told, storage.redis.tasks call = some incr ∧
        incr.task.waiter = .result (some told) ∧ incr.value = block
  once : ∀ call index other block last,
    .refilled call index block ∈ trace →
    .refilled call other last ∈ trace → index = other
  lines : ∀ index, 0 < (storage.lines index).endVal →
    (∃ call,
      .refilled call index (storage.lines index).endVal ∈ trace) ∧
    (storage.lines index).bucket =
      ((storage.lines index).endVal - blockSize) / messageCountOneBucket
  granted : ∀ call block, call ∈ marked .granted block trace →
    ∃ other index, .refilled other index block ∈ trace

variable {trace events : List StorageEvent}
  {storage next : CassStorage Process}

theorem decided_withCall {call : Nat}
    (undecided : ¬ (storage.calls call).Decided)
    {phase : SessionCall Process} (other : Nat)
    (decided : (storage.calls other).Decided) :
    ((storage.withCall call phase).calls other).Decided := by
  have different : other ≠ call := by
    rintro rfl
    exact undecided decided
  rw [calls_withCall_of_ne different]
  exact decided

theorem kept_withLine {index : Nat} {line : BucketCacheLine}
    (sameEnd : line.endVal = (storage.lines index).endVal)
    (sameBucket : line.bucket = (storage.lines index).bucket)
    (other : Nat) :
    ((storage.withLine index line).lines other).endVal =
        (storage.lines other).endVal ∧
      ((storage.withLine index line).lines other).bucket =
        (storage.lines other).bucket := by
  by_cases same : other = index
  · subst same
    rw [lines_withLine]
    exact ⟨sameEnd, sameBucket⟩
  · rw [lines_withLine_of_ne same]
    exact ⟨rfl, rfl⟩

namespace Blocks

theorem held (blocks : Blocks trace storage) {call index : Nat}
    {block : Int} (refilled : .refilled call index block ∈ trace) :
    ∃ incr, storage.redis.tasks call = some incr ∧ incr.Held ∧
      incr.value = block := by
  obtain ⟨-, incr, told, listed, result, value⟩ :=
    blocks.refilled call index block refilled
  exact ⟨incr, listed, blocks.redis.held_of_told listed result, value⟩

theorem caller (blocks : Blocks trace storage) {call other : Nat}
    {index place : Nat} {block : Int}
    (one : .refilled call index block ∈ trace)
    (two : .refilled other place block ∈ trace) : call = other := by
  obtain ⟨incr, listed, held, value⟩ := blocks.held one
  obtain ⟨same, also, still, equal⟩ := blocks.held two
  exact blocks.redis.distinct call other incr same listed also held still
    (value.trans equal.symm)

theorem owner (blocks : Blocks trace storage) {call other : Nat}
    {index place : Nat} {block : Int}
    (one : .refilled call index block ∈ trace)
    (two : .refilled other place block ∈ trace) : index = place := by
  have same := blocks.caller one two
  subst same
  exact blocks.once call index place block block one two

theorem bounds (blocks : Blocks trace storage) {call index : Nat}
    {block : Int} (refilled : .refilled call index block ∈ trace) :
    blockSize ≤ block ∧ blockSize ∣ block := by
  obtain ⟨incr, listed, held, rfl⟩ := blocks.held refilled
  obtain ⟨lower, -, divides⟩ := blocks.redis.bounds call incr listed held
  exact ⟨lower, divides⟩

theorem fresh (blocks : Blocks trace storage) {call : Nat}
    (undecided : ¬ (storage.calls call).Decided) {incr : IncrTask}
    {told : Bool} (listed : storage.redis.tasks call = some incr)
    (result : incr.task.waiter = .result (some told)) (other index : Nat) :
    .refilled other index incr.value ∉ trace := by
  intro refilled
  obtain ⟨same, also, held, value⟩ := blocks.held refilled
  have equal := blocks.redis.distinct other call same incr also listed held
    (blocks.redis.held_of_told listed result) value
  subst equal
  exact undecided (blocks.refilled other index _ refilled).1

/-- Nothing is refilled. -/
theorem change (blocks : Blocks trace storage)
    (redis : next.redis.Sound blockSize)
    (untasked : ∀ call, (next.calls call).Untasked →
      next.redis.tasks call = none)
    (decided : ∀ call, (storage.calls call).Decided →
      (next.calls call).Decided)
    (told : ∀ call incr reply, storage.redis.tasks call = some incr →
      incr.task.waiter = .result (some reply) →
      ∃ later, next.redis.tasks call = some later ∧
        later.task.waiter = .result (some reply) ∧
        later.value = incr.value)
    (lines : ∀ index, 0 < (next.lines index).endVal →
      (next.lines index).endVal = (storage.lines index).endVal ∧
        (next.lines index).bucket = (storage.lines index).bucket)
    (others : ∀ call index block, .refilled call index block ∉ events)
    (granted : ∀ call block, call ∈ marked .granted block events →
      ∃ other index, .refilled other index block ∈ trace) :
    Blocks (trace ++ events) next := by
  have earlier : ∀ {call index block},
      .refilled call index block ∈ trace ++ events →
      .refilled call index block ∈ trace := by
    intro call index block member
    rcases List.mem_append.mp member with before | now
    · exact before
    · exact absurd now (others call index block)
  constructor
  case redis => exact redis
  case untasked => exact untasked
  case refilled =>
    intro call index block member
    obtain ⟨settled, incr, reply, listed, result, value⟩ :=
      blocks.refilled call index block (earlier member)
    obtain ⟨later, still, same, equal⟩ :=
      told call incr reply listed result
    exact ⟨decided call settled, later, reply, still, same,
      equal.trans value⟩
  case once =>
    intro call index other block last one two
    exact blocks.once call index other block last (earlier one)
      (earlier two)
  case lines =>
    intro index ready
    obtain ⟨sameEnd, sameBucket⟩ := lines index ready
    rw [sameEnd] at ready
    obtain ⟨⟨call, refilled⟩, bucket⟩ := blocks.lines index ready
    rw [sameEnd, sameBucket]
    exact ⟨⟨call, List.mem_append_left events refilled⟩, bucket⟩
  case granted =>
    intro call block member
    rw [marked_append] at member
    rcases List.mem_append.mp member with before | now
    · obtain ⟨other, index, refilled⟩ := blocks.granted call block before
      exact ⟨other, index, List.mem_append_left events refilled⟩
    · obtain ⟨other, index, refilled⟩ := granted call block now
      exact ⟨other, index, List.mem_append_left events refilled⟩

/-- A change without an event. -/
theorem changeSilently (blocks : Blocks trace storage)
    (redis : next.redis.Sound blockSize)
    (untasked : ∀ call, (next.calls call).Untasked →
      next.redis.tasks call = none)
    (decided : ∀ call, (storage.calls call).Decided →
      (next.calls call).Decided)
    (told : ∀ call incr reply, storage.redis.tasks call = some incr →
      incr.task.waiter = .result (some reply) →
      ∃ later, next.redis.tasks call = some later ∧
        later.task.waiter = .result (some reply) ∧
        later.value = incr.value)
    (lines : ∀ index, 0 < (next.lines index).endVal →
      (next.lines index).endVal = (storage.lines index).endVal ∧
        (next.lines index).bucket = (storage.lines index).bucket) :
    Blocks trace next := by
  have changed : Blocks (trace ++ []) next :=
    blocks.change redis untasked decided told lines
      (fun _ _ _ => List.not_mem_nil)
      (fun _ _ member => absurd member List.not_mem_nil)
  rw [List.append_nil] at changed
  exact changed

theorem untasked_withCall (blocks : Blocks trace storage) {call : Nat}
    {phase : SessionCall Process}
    (untasked : phase.Untasked → storage.redis.tasks call = none)
    (other : Nat)
    (waiting : ((storage.withCall call phase).calls other).Untasked) :
    storage.redis.tasks other = none := by
  by_cases same : other = call
  · subst same
    rw [calls_withCall] at waiting
    exact untasked waiting
  · rw [calls_withCall_of_ne same] at waiting
    exact blocks.untasked other waiting

theorem quiet (blocks : Blocks trace storage) (quiet : Quiet storage next) :
    Blocks trace next := by
  apply blocks.changeSilently
  · rw [quiet.redis]
    exact blocks.redis
  · rw [quiet.redis, quiet.calls]
    exact blocks.untasked
  · rw [quiet.calls]
    exact fun _ => id
  · rw [quiet.redis]
    exact fun call incr reply listed result =>
      ⟨incr, listed, result, rfl⟩
  · intro index ready
    rcases quiet.lines index with same | empty
    · exact ⟨same.2.2, same.1⟩
    · rw [empty.2.2] at ready
      cases ready

/-- A call that has no slot goes on, and nothing else changes. -/
theorem withCall (blocks : Blocks trace storage) {call : Nat}
    (undecided : ¬ (storage.calls call).Decided)
    {phase : SessionCall Process}
    (untasked : phase.Untasked → storage.redis.tasks call = none)
    (silent : ∀ event ∈ events, event.Silent) :
    Blocks (trace ++ events) (storage.withCall call phase) := by
  refine blocks.change blocks.redis ?_ ?_ ?_ ?_ ?_ ?_
  · exact blocks.untasked_withCall untasked
  · exact decided_withCall undecided
  · exact fun other incr reply listed result => ⟨incr, listed, result, rfl⟩
  · exact fun _ _ => ⟨rfl, rfl⟩
  · intro other index block member
    obtain ⟨_, code, same⟩ := silent _ member
    cases same
  · intro other block member
    rw [marked_silent silent] at member
    cases member

theorem act (blocks : Blocks trace storage) {command : CounterAction}
    {redis : RedisCounter} (old : ∀ task, command ≠ .issue task)
    (last : storage.redis.TakesBackLast command)
    (acted : storage.redis.act blockSize command = some redis) :
    Blocks trace { storage with redis := redis } := by
  apply blocks.changeSilently
  · exact blocks.redis.act (by decide) last acted
  · intro call waiting
    exact RedisCounter.act_none acted old (blocks.untasked call waiting)
  · exact fun _ => id
  · exact fun call incr reply listed result =>
      blocks.redis.act_told acted old listed result
  · exact fun _ _ => ⟨rfl, rfl⟩

theorem increment (blocks : Blocks trace storage) {call : Nat}
    (untasked : (storage.calls call).Untasked) (process : Process)
    (index : Nat) (request : CassMsgRequest) :
    Blocks trace (storage.increment call process index request) := by
  apply blocks.changeSilently
  · exact blocks.redis.issue call
  · intro other waiting
    by_cases same : other = call
    · subst same
      rw [CassStorage.increment, CassStorage.withCall] at waiting
      simp only [Function.update_self] at waiting
      exact waiting.elim
    · simp only [CassStorage.increment, CassStorage.withCall,
        Function.update_of_ne same] at waiting
      exact (Function.update_of_ne same ..).trans
        (blocks.untasked other waiting)
  · exact decided_withCall untasked.undecided
  · intro other incr reply listed result
    have different : other ≠ call := by
      rintro rfl
      rw [blocks.untasked other untasked] at listed
      cases listed
    exact ⟨incr, (Function.update_of_ne different ..).trans listed,
      result, rfl⟩
  · exact fun _ _ => ⟨rfl, rfl⟩

theorem bucket_nonneg (blocks : Blocks trace storage) {index : Nat}
    (ready : 0 < (storage.lines index).endVal) :
    0 ≤ (storage.lines index).bucket := by
  obtain ⟨⟨call, refilled⟩, bucket⟩ := blocks.lines index ready
  rw [bucket]
  have lower := (blocks.bounds refilled).1
  exact Int.ediv_nonneg (by omega) (by decide)

theorem advance (blocks : Blocks trace storage) {call index : Nat}
    (undecided : ¬ (storage.calls call).Decided)
    (ready : 0 < (storage.lines index).endVal) (process : Process)
    (writes : Nat → SessionWrite) :
    Blocks
      (trace ++ [StorageEvent.granted call (storage.lines index).endVal
        (storage.lines index).bucket])
      { (storage.withLine index (storage.lines index).advance).withCall call
          (.writing process (storage.lines index).endVal) with
        writes := writes } := by
  refine blocks.change blocks.redis ?_ ?_ ?_ ?_ ?_ ?_
  · exact blocks.untasked_withCall (fun impossible => impossible.elim)
  · exact decided_withCall undecided
  · exact fun other incr reply listed result => ⟨incr, listed, result, rfl⟩
  · exact fun other _ => @kept_withLine _ storage index
      (storage.lines index).advance rfl rfl other
  · intro other place block member
    cases List.mem_singleton.mp member
  · intro other block member
    obtain ⟨⟨filler, refilled⟩, -⟩ := blocks.lines index ready
    obtain ⟨event, now, marks⟩ := List.mem_filterMap.mp member
    rw [List.mem_singleton.mp now] at marks
    simp only [StorageEvent.marks] at marks
    split at marks
    · rename_i both
      rw [← both.2]
      exact ⟨filler, index, refilled⟩
    · cases marks

theorem refill (blocks : Blocks trace storage) {call index : Nat}
    (undecided : ¬ (storage.calls call).Decided) {incr : IncrTask}
    {told : Bool} (listed : storage.redis.tasks call = some incr)
    (result : incr.task.waiter = .result (some told)) (process : Process)
    (bucket : Int) (writes : Nat → SessionWrite) :
    Blocks
      (trace ++ [StorageEvent.refilled call index incr.value,
        .granted call incr.value bucket])
      { (storage.withLine index
          ((storage.lines index).fill incr.value)).withCall call
          (.writing process incr.value) with
        writes := writes } := by
  have cases : ∀ {other place block},
      .refilled other place block ∈
        trace ++ [StorageEvent.refilled call index incr.value,
          .granted call incr.value bucket] →
      .refilled other place block ∈ trace ∨
        other = call ∧ place = index ∧ block = incr.value := by
    intro other place block member
    rcases List.mem_append.mp member with before | now
    · exact .inl before
    · rcases List.mem_pair.mp now with same | same
      · cases same
        exact .inr ⟨rfl, rfl, rfl⟩
      · cases same
  have now : .refilled call index incr.value ∈
      trace ++ [StorageEvent.refilled call index incr.value,
        .granted call incr.value bucket] :=
    List.mem_append_right trace List.mem_cons_self
  constructor
  case redis => exact blocks.redis
  case untasked =>
    exact blocks.untasked_withCall (fun impossible => impossible.elim)
  case refilled =>
    intro other place block member
    rcases cases member with before | ⟨rfl, rfl, rfl⟩
    · obtain ⟨decided, rest⟩ := blocks.refilled other place block before
      exact ⟨decided_withCall undecided other decided, rest⟩
    · refine ⟨?_, incr, told, listed, result, rfl⟩
      rw [calls_withCall]
      trivial
  case once =>
    intro other place elsewhere block last one two
    rcases cases one with before | ⟨rfl, rfl, rfl⟩
    · rcases cases two with earlier | ⟨rfl, -, -⟩
      · exact blocks.once other place elsewhere block last before earlier
      · exact absurd (blocks.refilled _ _ _ before).1 undecided
    · rcases cases two with earlier | ⟨-, rfl, -⟩
      · exact absurd (blocks.refilled _ _ _ earlier).1 undecided
      · rfl
  case lines =>
    intro other ready
    by_cases same : other = index
    · subst same
      refine ⟨⟨call, ?_⟩, ?_⟩
      · rw [CassStorage.withCall, lines_withLine]
        exact now
      · rw [CassStorage.withCall, lines_withLine]
        rfl
    · rw [CassStorage.withCall, lines_withLine_of_ne same] at ready ⊢
      obtain ⟨⟨filler, refilled⟩, kept⟩ := blocks.lines other ready
      exact ⟨⟨filler, List.mem_append_left _ refilled⟩, kept⟩
  case granted =>
    intro other block member
    rw [marked_append] at member
    rcases List.mem_append.mp member with before | granted
    · obtain ⟨filler, place, refilled⟩ := blocks.granted other block before
      exact ⟨filler, place, List.mem_append_left _ refilled⟩
    · obtain ⟨event, listed, marks⟩ := List.mem_filterMap.mp granted
      rcases List.mem_pair.mp listed with rfl | rfl
      · cases marks
      · simp only [StorageEvent.marks] at marks
        split at marks
        · rename_i both
          rw [← both.2]
          exact ⟨call, index, now⟩
        · cases marks

theorem finish (blocks : Blocks trace storage) {call : Nat}
    (decided : (storage.calls call).Decided) {index : Nat}
    {line : BucketCacheLine}
    (sameEnd : line.endVal = (storage.lines index).endVal)
    (sameBucket : line.bucket = (storage.lines index).bucket)
    (rollbacks : ∀ event ∈ events,
      event.Silent ∨ ∃ block, event = .rolledBack call block) :
    Blocks (trace ++ events)
      ((storage.withLine index line).withCall call .ended) := by
  refine blocks.change blocks.redis ?_ ?_ ?_ ?_ ?_ ?_
  · exact blocks.untasked_withCall (fun impossible => impossible.elim)
  · intro other settled
    by_cases same : other = call
    · subst same
      rw [calls_withCall]
      trivial
    · rw [calls_withCall_of_ne same]
      exact settled
  · exact fun other incr reply listed result => ⟨incr, listed, result, rfl⟩
  · exact fun other _ => kept_withLine sameEnd sameBucket other
  · intro other place block member
    rcases rollbacks _ member with ⟨_, code, same⟩ | ⟨last, same⟩
    · cases same
    · cases same
  · intro other block member
    obtain ⟨event, listed, marks⟩ := List.mem_filterMap.mp member
    rcases rollbacks event listed with ⟨_, code, rfl⟩ | ⟨last, rfl⟩
    · cases marks
    · simp [StorageEvent.marks] at marks

theorem withWrites (blocks : Blocks trace storage)
    (writes : Nat → SessionWrite) (table : List SessionRow)
    (written : ∀ event ∈ events, ∃ call block row,
      event = .wrote call block row) :
    Blocks (trace ++ events)
      { storage with writes := writes, table := table } := by
  refine blocks.change blocks.redis blocks.untasked (fun _ => id) ?_ ?_ ?_
    ?_
  · exact fun other incr reply listed result => ⟨incr, listed, result, rfl⟩
  · exact fun _ _ => ⟨rfl, rfl⟩
  · intro other place block member
    obtain ⟨_, _, _, same⟩ := written _ member
    cases same
  · intro other block member
    obtain ⟨event, listed, marks⟩ := List.mem_filterMap.mp member
    obtain ⟨_, _, _, rfl⟩ := written event listed
    simp [StorageEvent.marks] at marks

end Blocks

end CassStorage

end Storage

end TinyChat
