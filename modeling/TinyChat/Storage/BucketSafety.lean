import Mathlib.Data.List.Nodup
import TinyChat.Storage.Blocks

/-!
# The size of a bucket

The slots of a block that were taken and not given back are at most 100.  A
slot that was given back was not used, as long as a slot is given back once,
to the block from which it is, and only if its write is lost.
-/

namespace TinyChat

namespace Storage

open Redis
open Transition

theorem marked_granted (mark : Mark) (block : Int) (call : Nat)
    (other bucket : Int) :
    marked mark block [.granted call other bucket] =
      if mark = .granted ∧ other = block then [call] else [] := by
  simp only [marked, StorageEvent.marks, List.filterMap_cons,
    List.filterMap_nil]
  split_ifs <;> rfl

theorem marked_wrote (mark : Mark) (block : Int) (call : Nat) (other : Int)
    (row : SessionRow) :
    marked mark block [.wrote call other row] =
      if mark = .wrote ∧ other = block then [call] else [] := by
  simp only [marked, StorageEvent.marks, List.filterMap_cons,
    List.filterMap_nil]
  split_ifs <;> rfl

theorem marked_rolledBack (mark : Mark) (block : Int) (call : Nat)
    (other : Int) :
    marked mark block [.rolledBack call other] =
      if mark = .rolledBack ∧ other = block then [call] else [] := by
  simp only [marked, StorageEvent.marks, List.filterMap_cons,
    List.filterMap_nil]
  split_ifs <;> rfl

namespace CassStorage

variable {Process : Type}

/-- The number of slots of a block that were taken and not given back. -/
def taken (trace : List StorageEvent) (block : Int) : Int :=
  (marked .granted block trace).length -
    (marked .rolledBack block trace).length

/-- A line knows how many slots of its block are taken. -/
structure Slots (trace : List StorageEvent)
    (storage : CassStorage Process) : Prop where
  count : ∀ index, 0 < (storage.lines index).endVal →
    (storage.lines index).currVal < (storage.lines index).endVal ∧
      taken trace (storage.lines index).endVal =
        (storage.lines index).currVal -
          ((storage.lines index).endVal - blockSize) + 1
  full : ∀ block, 0 < block → taken trace block ≤ blockSize

/-- Every slot belongs to one call, which writes at most once, and not if
its slot was given back. -/
structure Writes (trace : List StorageEvent)
    (storage : CassStorage Process) : Prop where
  granted : ∀ call block, call ∈ marked .granted block trace →
    (storage.calls call).Decided
  wrote : ∀ call block, call ∈ marked .wrote block trace →
    storage.writes call = .applied ∧ call ∈ marked .granted block trace
  rolledBack : ∀ call block, 0 < block →
    call ∈ marked .rolledBack block trace →
    storage.writes call = .lost ∧ storage.calls call = .ended ∧
      call ∈ marked .granted block trace
  writing : ∀ call process block,
    storage.calls call = .writing process block →
    call ∈ marked .granted block trace
  flying : ∀ call block row, storage.writes call = .inFlight block row →
    call ∈ marked .granted block trace ∧
      row.bucket = (block - blockSize) / messageCountOneBucket
  distinct : ∀ mark block, 0 < block → (marked mark block trace).Nodup
  buckets : ∀ call block row, .wrote call block row ∈ trace →
    row.bucket = (block - blockSize) / messageCountOneBucket

variable {trace events : List StorageEvent}
  {storage next : CassStorage Process}

theorem taken_append (block : Int) :
    taken (trace ++ events) block =
      taken trace block + taken events block := by
  simp only [taken, marked_append, List.length_append]
  omega

theorem taken_silent (silent : ∀ event ∈ events, event.Silent)
    (block : Int) : taken events block = 0 := by
  simp only [taken, marked_silent silent, List.length_nil]
  rfl

theorem taken_granted (block other bucket : Int) (call : Nat) :
    taken [.granted call other bucket] block =
      if other = block then 1 else 0 := by
  simp only [taken, marked_granted]
  by_cases same : other = block
  · simp [same]
  · simp [same]

theorem taken_rolledBack (block other : Int) (call : Nat) :
    taken [.rolledBack call other] block =
      if other = block then -1 else 0 := by
  simp only [taken, marked_rolledBack]
  by_cases same : other = block
  · simp [same]
  · simp [same]

namespace Slots

theorem keep (slots : Slots trace storage)
    (lines : ∀ index, 0 < (next.lines index).endVal →
      (storage.lines index).Same (next.lines index))
    (idle : ∀ block, 0 < block → taken events block = 0) :
    Slots (trace ++ events) next := by
  constructor
  case count =>
    intro index ready
    obtain ⟨-, sameCurr, sameEnd⟩ := lines index ready
    rw [taken_append, idle _ ready, sameCurr, sameEnd, Int.add_zero]
    exact slots.count index (sameEnd ▸ ready)
  case full =>
    intro block positive
    rw [taken_append, idle block positive, Int.add_zero]
    exact slots.full block positive

/-- Slots of the block of one line are taken or given back; no other line
has the block. -/
theorem touch (slots : Slots trace storage) {index : Nat} (block : Int)
    {line : BucketCacheLine}
    (lines : next.lines = (storage.withLine index line).lines)
    (others : ∀ other, other ≠ index →
      0 < (storage.lines other).endVal →
      (storage.lines other).endVal ≠ block)
    (elsewhere : ∀ other, other ≠ block → taken events other = 0)
    (own : line.endVal = block) (within : line.currVal < block)
    (now : taken trace block + taken events block =
      line.currVal - (block - blockSize) + 1) :
    Slots (trace ++ events) next := by
  constructor
  case count =>
    intro other ready
    rw [lines] at ready ⊢
    by_cases same : other = index
    · subst same
      rw [lines_withLine, own, taken_append]
      exact ⟨within, now⟩
    · rw [lines_withLine_of_ne same] at ready ⊢
      rw [taken_append, elsewhere _ (others other same ready),
        Int.add_zero]
      exact slots.count other ready
  case full =>
    intro other positive
    rw [taken_append]
    by_cases same : other = block
    · subst same
      omega
    · rw [elsewhere other same, Int.add_zero]
      exact slots.full other positive

theorem apart (blocks : Blocks trace storage) {index other : Nat}
    (ready : 0 < (storage.lines index).endVal)
    (also : 0 < (storage.lines other).endVal) (different : other ≠ index) :
    (storage.lines other).endVal ≠ (storage.lines index).endVal := by
  intro same
  obtain ⟨⟨call, refilled⟩, -⟩ := blocks.lines index ready
  obtain ⟨⟨caller, filled⟩, -⟩ := blocks.lines other also
  rw [same] at filled
  exact different (blocks.owner filled refilled)

theorem advance (slots : Slots trace storage)
    (blocks : Blocks trace storage) {index : Nat}
    (available : (storage.lines index).available = true) (call : Nat)
    (process : Process) (writes : Nat → SessionWrite) :
    Slots
      (trace ++ [StorageEvent.granted call (storage.lines index).endVal
        (storage.lines index).bucket])
      { (storage.withLine index (storage.lines index).advance).withCall call
          (.writing process (storage.lines index).endVal) with
        writes := writes } := by
  simp only [BucketCacheLine.available, BucketCacheLine.ready,
    Bool.and_eq_true, decide_eq_true_eq] at available
  obtain ⟨ready, behind⟩ := available
  have before := (slots.count index ready).2
  refine slots.touch (storage.lines index).endVal rfl ?_ ?_ rfl behind ?_
  · exact fun other different also => apart blocks ready also different
  · intro other different
    rw [taken_granted, if_neg different.symm]
  · rw [taken_granted, if_pos rfl, before]
    simp only [BucketCacheLine.advance]
    omega

theorem refill (slots : Slots trace storage) {index : Nat} {block : Int}
    (fresh : ∀ call place, .refilled call place block ∉ trace)
    (blocks : Blocks trace storage) (untaken : taken trace block = 0)
    (call : Nat) (bucket : Int) (process : Process)
    (writes : Nat → SessionWrite) :
    Slots
      (trace ++ [StorageEvent.refilled call index block,
        .granted call block bucket])
      { (storage.withLine index
          ((storage.lines index).fill block)).withCall call
          (.writing process block) with
        writes := writes } := by
  have marks : ∀ other,
      taken [.refilled call index block, .granted call block bucket] other =
        taken [.granted call block bucket] other :=
    fun _ => rfl
  have positive : (0 : Int) < blockSize := by decide
  refine slots.touch block rfl ?_ ?_ rfl
    (Int.sub_lt_self block positive) ?_
  · intro other different also equal
    obtain ⟨⟨caller, filled⟩, -⟩ := blocks.lines other also
    rw [equal] at filled
    exact fresh caller other filled
  · intro other different
    rw [marks, taken_granted, if_neg different.symm]
  · rw [marks, taken_granted, if_pos rfl, untaken]
    simp only [BucketCacheLine.fill]
    omega

theorem giveBack (slots : Slots trace storage)
    (blocks : Blocks trace storage) {index : Nat}
    (ready : 0 < (storage.lines index).endVal) (call : Nat)
    (silent : ∀ event ∈ events, event.Silent) :
    Slots
      (trace ++
        (.rolledBack call (storage.lines index).endVal :: events))
      ((storage.withLine index
        { storage.lines index with
          currVal := (storage.lines index).currVal - 1 }).withCall call
        .ended) := by
  have marks : ∀ other,
      taken (.rolledBack call (storage.lines index).endVal :: events)
          other =
        if (storage.lines index).endVal = other then -1 else 0 := by
    intro other
    have split := @taken_append
      [.rolledBack call (storage.lines index).endVal] events other
    rw [taken_rolledBack, taken_silent silent, Int.add_zero] at split
    exact split
  obtain ⟨within, before⟩ := slots.count index ready
  refine slots.touch (storage.lines index).endVal rfl ?_ ?_ rfl ?_ ?_
  · exact fun other different also => apart blocks ready also different
  · intro other different
    rw [marks, if_neg different.symm]
  · simp only
    omega
  · rw [marks, if_pos rfl, before]
    simp only
    omega

end Slots

namespace Writes

/-- Nothing happens to the slots of the calls. -/
theorem keep (writes : Writes trace storage)
    (calls : next.calls = storage.calls)
    (same : next.writes = storage.writes)
    (silent : ∀ event ∈ events, event.Silent) :
    Writes (trace ++ events) next := by
  have marks : ∀ mark block,
      marked mark block (trace ++ events) = marked mark block trace := by
    intro mark block
    rw [marked_append, marked_silent silent, List.append_nil]
  constructor
  case granted =>
    intro call block member
    rw [marks] at member
    rw [calls]
    exact writes.granted call block member
  case wrote =>
    intro call block member
    rw [marks] at member ⊢
    rw [same]
    exact writes.wrote call block member
  case rolledBack =>
    intro call block positive member
    rw [marks] at member ⊢
    rw [same, calls]
    exact writes.rolledBack call block positive member
  case writing =>
    intro call process block phase
    rw [calls] at phase
    rw [marks]
    exact writes.writing call process block phase
  case flying =>
    intro call block row flying
    rw [same] at flying
    rw [marks]
    exact writes.flying call block row flying
  case distinct =>
    intro mark block positive
    rw [marks]
    exact writes.distinct mark block positive
  case buckets =>
    intro call block row member
    rcases List.mem_append.mp member with before | now
    · exact writes.buckets call block row before
    · obtain ⟨_, code, wrong⟩ := silent _ now
      cases wrong

/-- A call without a slot goes on, and gets none. -/
theorem withCall (writes : Writes trace storage) {call : Nat}
    (undecided : ¬ (storage.calls call).Decided)
    {phase : SessionCall Process}
    (slotless : ∀ process block, phase ≠ .writing process block) :
    Writes trace (storage.withCall call phase) := by
  have others : ∀ {other}, (storage.calls other).Decided →
      other ≠ call := by
    rintro other decided rfl
    exact undecided decided
  constructor
  case granted =>
    intro other block member
    exact decided_withCall undecided other
      (writes.granted other block member)
  case wrote => exact writes.wrote
  case rolledBack =>
    intro other block positive member
    obtain ⟨lost, ended, granted⟩ :=
      writes.rolledBack other block positive member
    refine ⟨lost, ?_, granted⟩
    rw [calls_withCall_of_ne (others (writes.granted other block granted))]
    exact ended
  case writing =>
    intro other process block writing
    by_cases same : other = call
    · subst same
      rw [calls_withCall] at writing
      exact absurd writing (slotless process block)
    · rw [calls_withCall_of_ne same] at writing
      exact writes.writing other process block writing
  case flying => exact writes.flying
  case distinct => exact writes.distinct
  case buckets => exact writes.buckets

theorem grant (writes : Writes trace storage) {call : Nat}
    (undecided : ¬ (storage.calls call).Decided) {process : Process}
    {block : Int} {row : SessionRow}
    (bucket : row.bucket = (block - blockSize) / messageCountOneBucket)
    (calls : next.calls =
      (storage.withCall call (.writing process block)).calls)
    (created : next.writes =
      Function.update storage.writes call (.inFlight block row))
    (marks : ∀ mark other, marked mark other events =
      if mark = .granted ∧ block = other then [call] else [])
    (unwritten : ∀ other last row, .wrote other last row ∉ events) :
    Writes (trace ++ events) next := by
  have others : ∀ {other last}, other ∈ marked .granted last trace →
      other ≠ call := by
    rintro other last member rfl
    exact undecided (writes.granted other last member)
  have earlier : ∀ {mark other last}, mark ≠ .granted →
      other ∈ marked mark last (trace ++ events) →
      other ∈ marked mark last trace := by
    intro mark other last different member
    rw [marked_append, marks, if_neg (fun both => different both.1),
      List.append_nil] at member
    exact member
  have later : ∀ {other last}, other ∈ marked .granted last trace →
      other ∈ marked .granted last (trace ++ events) := by
    intro other last member
    rw [marked_append]
    exact List.mem_append_left _ member
  have own : call ∈ marked .granted block (trace ++ events) := by
    rw [marked_append, marks, if_pos ⟨rfl, rfl⟩]
    exact List.mem_append_right _ List.mem_cons_self
  constructor
  case granted =>
    intro other last member
    rw [calls]
    rw [marked_append, marks] at member
    rcases List.mem_append.mp member with before | now
    · exact decided_withCall undecided other
        (writes.granted other last before)
    · split at now
      · rw [List.mem_singleton.mp now, calls_withCall]
        trivial
      · cases now
  case wrote =>
    intro other last member
    obtain ⟨applied, granted⟩ := writes.wrote other last
      (earlier (fun same => Mark.noConfusion same) member)
    rw [created, Function.update_of_ne (others granted)]
    exact ⟨applied, later granted⟩
  case rolledBack =>
    intro other last positive member
    obtain ⟨lost, ended, granted⟩ := writes.rolledBack other last positive
      (earlier (fun same => Mark.noConfusion same) member)
    rw [created, Function.update_of_ne (others granted), calls,
      calls_withCall_of_ne (others granted)]
    exact ⟨lost, ended, later granted⟩
  case writing =>
    intro other caller last phase
    rw [calls] at phase
    by_cases same : other = call
    · subst same
      rw [calls_withCall] at phase
      cases phase
      exact own
    · rw [calls_withCall_of_ne same] at phase
      exact later (writes.writing other caller last phase)
  case flying =>
    intro other last found flying
    rw [created] at flying
    by_cases same : other = call
    · subst same
      rw [Function.update_self] at flying
      cases flying
      exact ⟨own, bucket⟩
    · rw [Function.update_of_ne same] at flying
      obtain ⟨granted, expected⟩ := writes.flying other last found flying
      exact ⟨later granted, expected⟩
  case distinct =>
    intro mark last positive
    rw [marked_append, marks]
    split
    · rename_i both
      rw [List.nodup_append_comm, List.singleton_append, List.nodup_cons,
        both.1]
      exact ⟨fun member => others member rfl,
        writes.distinct .granted last positive⟩
    · rw [List.append_nil]
      exact writes.distinct mark last positive
  case buckets =>
    intro other last found member
    rcases List.mem_append.mp member with before | now
    · exact writes.buckets other last found before
    · exact absurd now (unwritten other last found)

theorem apply (writes : Writes trace storage) {call : Nat} {block : Int}
    {row : SessionRow} (flying : storage.writes call = .inFlight block row)
    (table : List SessionRow) :
    Writes (trace ++ [StorageEvent.wrote call block row])
      { storage with
        writes := Function.update storage.writes call .applied
        table := table } := by
  obtain ⟨granted, bucket⟩ := writes.flying call block row flying
  have earlier : ∀ {mark other last}, mark ≠ .wrote →
      other ∈ marked mark last (trace ++ [StorageEvent.wrote call block row]) →
      other ∈ marked mark last trace := by
    intro mark other last different member
    rw [marked_append, marked_wrote,
      if_neg (fun both => different both.1), List.append_nil] at member
    exact member
  have later : ∀ {mark other last}, other ∈ marked mark last trace →
      other ∈ marked mark last
        (trace ++ [StorageEvent.wrote call block row]) := by
    intro mark other last member
    rw [marked_append]
    exact List.mem_append_left _ member
  constructor
  case granted =>
    intro other last member
    exact writes.granted other last
      (earlier (fun same => Mark.noConfusion same) member)
  case wrote =>
    intro other last member
    rw [marked_append, marked_wrote] at member
    rcases List.mem_append.mp member with before | now
    · obtain ⟨applied, slot⟩ := writes.wrote other last before
      have different := ne_of_flying flying applied (by simp)
      simp only [Function.update_of_ne different]
      exact ⟨applied, later slot⟩
    · split at now
      · rename_i both
        rw [List.mem_singleton.mp now, ← both.2]
        exact ⟨Function.update_self .., later granted⟩
      · cases now
  case rolledBack =>
    intro other last positive member
    obtain ⟨lost, ended, slot⟩ := writes.rolledBack other last positive
      (earlier (fun same => Mark.noConfusion same) member)
    have different := ne_of_flying flying lost (by simp)
    simp only [Function.update_of_ne different]
    exact ⟨lost, ended, later slot⟩
  case writing =>
    intro other process last phase
    exact later (writes.writing other process last phase)
  case flying =>
    intro other last found still
    obtain ⟨slot, expected⟩ := writes.flying other last found
      (flying_of_update (by simp) still)
    exact ⟨later slot, expected⟩
  case distinct =>
    intro mark last positive
    rw [marked_append, marked_wrote]
    split
    · rename_i both
      rw [List.nodup_append_comm, List.singleton_append, List.nodup_cons,
        both.1]
      refine ⟨?_, writes.distinct .wrote last positive⟩
      intro member
      rw [(writes.wrote call last member).1] at flying
      cases flying
    · rw [List.append_nil]
      exact writes.distinct mark last positive
  case buckets =>
    intro other last found member
    rcases List.mem_append.mp member with before | now
    · exact writes.buckets other last found before
    · cases List.mem_singleton.mp now
      exact bucket

theorem lose (writes : Writes trace storage) {call : Nat} {block : Int}
    {row : SessionRow}
    (flying : storage.writes call = .inFlight block row) :
    Writes trace
      { storage with
        writes := Function.update storage.writes call .lost } := by
  constructor
  case granted => exact writes.granted
  case wrote =>
    intro other last member
    obtain ⟨applied, slot⟩ := writes.wrote other last member
    have different := ne_of_flying flying applied (by simp)
    simp only [Function.update_of_ne different]
    exact ⟨applied, slot⟩
  case rolledBack =>
    intro other last positive member
    obtain ⟨lost, ended, slot⟩ :=
      writes.rolledBack other last positive member
    have different := ne_of_flying flying lost (by simp)
    simp only [Function.update_of_ne different]
    exact ⟨lost, ended, slot⟩
  case writing => exact writes.writing
  case flying =>
    intro other last found still
    exact writes.flying other last found
      (flying_of_update (by simp) still)
  case distinct => exact writes.distinct
  case buckets => exact writes.buckets

/-- A call ends; a slot that it gives back to a block is its own, and its
write is lost. -/
theorem finish (writes : Writes trace storage) {call : Nat}
    {process : Process} {block : Int}
    (phase : storage.calls call = .writing process block)
    (calls : next.calls = (storage.withCall call .ended).calls)
    (same : next.writes = storage.writes)
    (unmarked : ∀ mark other, mark ≠ .rolledBack →
      marked mark other events = [])
    (own : ∀ other, 0 < other → marked .rolledBack other events = [] ∨
      marked .rolledBack other events = [call] ∧ other = block ∧
        storage.writes call = .lost)
    (unwritten : ∀ other last row, .wrote other last row ∉ events) :
    Writes (trace ++ events) next := by
  have kept : ∀ {mark}, mark ≠ .rolledBack → ∀ other,
      marked mark other (trace ++ events) = marked mark other trace := by
    intro mark different other
    rw [marked_append, unmarked mark other different, List.append_nil]
  have slots := kept (fun wrong : Mark.granted = .rolledBack =>
    Mark.noConfusion wrong)
  have uses := kept (fun wrong : Mark.wrote = .rolledBack =>
    Mark.noConfusion wrong)
  have ended : ∀ other, (storage.calls other).Decided →
      (next.calls other).Decided := by
    intro other decided
    rw [calls]
    by_cases here : other = call
    · subst here
      rw [calls_withCall]
      trivial
    · rw [calls_withCall_of_ne here]
      exact decided
  constructor
  case granted =>
    intro other last member
    rw [slots] at member
    exact ended other (writes.granted other last member)
  case wrote =>
    intro other last member
    rw [uses] at member
    rw [same, slots]
    exact writes.wrote other last member
  case rolledBack =>
    intro other last positive member
    rw [same, slots]
    rw [marked_append] at member
    rcases List.mem_append.mp member with before | now
    · obtain ⟨lost, ended, slot⟩ :=
        writes.rolledBack other last positive before
      refine ⟨lost, ?_, slot⟩
      have different : other ≠ call := by
        rintro rfl
        rw [ended] at phase
        cases phase
      rw [calls, calls_withCall_of_ne different]
      exact ended
    · rcases own last positive with none | ⟨one, rfl, lost⟩
      · rw [none] at now
        cases now
      · rw [one] at now
        rw [List.mem_singleton.mp now]
        refine ⟨lost, ?_, writes.writing call process _ phase⟩
        rw [calls, calls_withCall]
  case writing =>
    intro other caller last writing
    rw [slots]
    rw [calls] at writing
    by_cases here : other = call
    · subst here
      rw [calls_withCall] at writing
      cases writing
    · rw [calls_withCall_of_ne here] at writing
      exact writes.writing other caller last writing
  case flying =>
    intro other last row flying
    rw [same] at flying
    rw [slots]
    exact writes.flying other last row flying
  case distinct =>
    intro mark last positive
    by_cases rolled : mark = .rolledBack
    · subst rolled
      rw [marked_append]
      rcases own last positive with none | ⟨one, -, -⟩
      · rw [none, List.append_nil]
        exact writes.distinct .rolledBack last positive
      · rw [one, List.nodup_append_comm, List.singleton_append,
          List.nodup_cons]
        refine ⟨?_, writes.distinct .rolledBack last positive⟩
        intro member
        rw [(writes.rolledBack call last positive member).2.1] at phase
        cases phase
    · rw [kept rolled]
      exact writes.distinct mark last positive
  case buckets =>
    intro other last found member
    rcases List.mem_append.mp member with before | now
    · exact writes.buckets other last found before
    · exact absurd now (unwritten other last found)

end Writes

end CassStorage

end Storage

end TinyChat
