import TinyChat.Storage.SessionSteps

/-!
# Reading a session

`ReadSession` runs a query for every session that it is asked for, and
returns its first page with a token for the next one.  The query fixes the
bucket: it selects the first one only.
-/

namespace TinyChat

namespace Storage

open Redis
open Transition

def SessionRow.toMessage (row : SessionRow) : ServerMsgData :=
  { data :=
      { sessionId := 0
        senderId := row.senderId
        text := row.content }
    messageId := row.messageId }

/-- The query `read_session` on the rows of a channel; the rows of a
partition are in descending order. -/
def selectSession (table : List SessionRow) : List SessionRow :=
  (table.filter (fun row => row.bucket = 0 ∧ 0 < row.messageId)).mergeSort
    (fun first second => second.messageId ≤ first.messageId)

def pageSize : Nat := 200

/-- A token stands for the position where the next page begins. -/
structure CassSessionReply where
  token : Option Nat
  messages : List ServerMsgData

def sessionPage (rows : List SessionRow) (start : Nat) : CassSessionReply :=
  { token :=
      if start + pageSize < rows.length then some (start + pageSize)
      else none
    messages := ((rows.drop start).take pageSize).map SessionRow.toMessage }

/-- `ReadSession`; it raises if it is asked for no session. -/
def readSession (tables : Int → List SessionRow) :
    List Int → Option (List CassSessionReply)
  | [] => none
  | sessionIds =>
      some (sessionIds.map (fun sessionId =>
        sessionPage (selectSession (tables sessionId)) 0))

/-- The pages of a query, from the first to the last. -/
def followPages (rows : List SessionRow) (start : Nat) :
    List CassSessionReply :=
  if start + pageSize < rows.length then
    sessionPage rows start :: followPages rows (start + pageSize)
  else [sessionPage rows start]
termination_by rows.length - start
decreasing_by
  simp only [pageSize] at *
  omega

theorem mem_selectSession {table : List SessionRow} {row : SessionRow} :
    row ∈ selectSession table ↔
      row ∈ table ∧ row.bucket = 0 ∧ 0 < row.messageId := by
  simp [selectSession]

theorem followPages_messages (rows : List SessionRow) (start : Nat) :
    (followPages rows start).flatMap CassSessionReply.messages =
      (rows.drop start).map SessionRow.toMessage := by
  fun_induction followPages rows start with
  | case1 start more induction =>
      rw [List.flatMap_cons, induction, sessionPage, ← List.map_append,
        ← List.drop_drop, List.take_append_drop]
  | case2 start last =>
      rw [List.flatMap_cons, List.flatMap_nil, List.append_nil, sessionPage,
        List.take_of_length_le]
      rw [List.length_drop]
      omega

theorem readSession_single (tables : Int → List SessionRow)
    (sessionId : Int) :
    ∃ reply, readSession tables [sessionId] = some [reply] ∧
      (followPages (selectSession (tables sessionId)) 0).head? =
        some reply := by
  refine ⟨_, rfl, ?_⟩
  rw [followPages]
  split <;> rfl

theorem insertRow_keeps {table : List SessionRow} (row : SessionRow)
    {bucket messageId : Int}
    (stored : ∃ found ∈ table, found.bucket = bucket ∧
      found.messageId = messageId) :
    ∃ found ∈ insertRow table row, found.bucket = bucket ∧
      found.messageId = messageId := by
  obtain ⟨found, member, rfl, rfl⟩ := stored
  by_cases same : found.bucket = row.bucket ∧
      found.messageId = row.messageId
  · exact ⟨row, List.mem_cons_self, same.1.symm, same.2.symm⟩
  · refine ⟨found, List.mem_cons_of_mem _ ?_, rfl, rfl⟩
    rw [List.mem_filter]
    exact ⟨member, decide_eq_true same⟩

namespace CassStorage

variable {Process : Type}

/-- The messages of all successful calls are on the pages of the session. -/
def ReadsBack (trace : List StorageEvent) (storage : CassStorage Process) :
    Prop :=
  ∀ call, .replied call .success ∈ trace →
    (∃ block row, .wrote call block row ∈ trace) ∧
    ∀ block row, .wrote call block row ∈ trace →
      ∃ stored ∈ selectSession storage.table,
        stored.bucket = row.bucket ∧ stored.messageId = row.messageId ∧
        stored.toMessage ∈
          (followPages (selectSession storage.table) 0).flatMap
            CassSessionReply.messages

/-- The messages of all successful calls have positive ids and slots below
the size of a bucket. -/
def InFirstBucket (trace : List StorageEvent) : Prop :=
  ∀ call, .replied call .success ∈ trace →
    ∀ block row, .wrote call block row ∈ trace →
      block - blockSize < messageCountOneBucket ∧ 0 < row.messageId

/-- The row of a slot. -/
def Placed (block : Int) (row : SessionRow) : Prop :=
  row.bucket = (block - blockSize) / messageCountOneBucket ∧
    0 ≤ row.bucket

/-- The rows that were written are in the table, in the buckets of their
slots. -/
structure Stored (trace : List StorageEvent)
    (storage : CassStorage Process) : Prop where
  lines : ∀ index, 0 < (storage.lines index).endVal →
    (storage.lines index).bucket =
      ((storage.lines index).endVal - blockSize) / messageCountOneBucket
  flying : ∀ call block row, storage.writes call = .inFlight block row →
    Placed block row
  applied : ∀ call, storage.writes call = .applied →
    ∃ block row, .wrote call block row ∈ trace
  wrote : ∀ call block row, .wrote call block row ∈ trace →
    Placed block row ∧ ∃ stored ∈ storage.table,
      stored.bucket = row.bucket ∧ stored.messageId = row.messageId
  replied : ∀ call, .replied call .success ∈ trace →
    ∃ block row, .wrote call block row ∈ trace

/-- The event is no write, and reports a success only after one. -/
def Harmless (storage : CassStorage Process) : StorageEvent → Prop
  | .wrote _ _ _ => False
  | .replied call code => code = .success → storage.writes call = .applied
  | _ => True

variable {trace events : List StorageEvent}
  {storage next : CassStorage Process} {action : StorageAction Process}

namespace Stored

/-- Nothing is written. -/
theorem change (stored : Stored trace storage)
    (lines : ∀ index, 0 < (next.lines index).endVal →
      (next.lines index).bucket =
        ((next.lines index).endVal - blockSize) / messageCountOneBucket)
    (writes : ∀ call, next.writes call = storage.writes call ∨
      next.writes call = .lost ∨
      ∃ block row, next.writes call = .inFlight block row ∧
        Placed block row)
    (table : next.table = storage.table)
    (harmless : ∀ event ∈ events, Harmless storage event) :
    Stored (trace ++ events) next := by
  constructor
  case lines => exact lines
  case flying =>
    intro call block row flying
    rcases writes call with same | lost | ⟨slot, found, now, placed⟩
    · rw [same] at flying
      exact stored.flying call block row flying
    · rw [lost] at flying
      cases flying
    · rw [now] at flying
      cases flying
      exact placed
  case applied =>
    intro call applied
    rcases writes call with same | lost | ⟨slot, found, now, placed⟩
    · rw [same] at applied
      obtain ⟨block, row, wrote⟩ := stored.applied call applied
      exact ⟨block, row, List.mem_append_left events wrote⟩
    · rw [lost] at applied
      cases applied
    · rw [now] at applied
      cases applied
  case wrote =>
    intro call block row member
    rw [table]
    rcases List.mem_append.mp member with before | now
    · exact stored.wrote call block row before
    · exact (harmless _ now).elim
  case replied =>
    intro call member
    have wrote : ∃ block row, .wrote call block row ∈ trace := by
      rcases List.mem_append.mp member with before | now
      · exact stored.replied call before
      · exact stored.applied call (harmless _ now rfl)
    obtain ⟨block, row, listed⟩ := wrote
    exact ⟨block, row, List.mem_append_left events listed⟩

theorem keep (stored : Stored trace storage)
    (lines : ∀ index, 0 < (next.lines index).endVal →
      (next.lines index).bucket =
        ((next.lines index).endVal - blockSize) / messageCountOneBucket)
    (writes : next.writes = storage.writes)
    (table : next.table = storage.table)
    (failures : ∀ event ∈ events, ∃ call code, code ≠ .success ∧
      event = .replied call code) :
    Stored (trace ++ events) next := by
  refine stored.change lines (fun call => .inl (congrFun writes call)) table
    ?_
  intro event member
  obtain ⟨call, code, failure, rfl⟩ := failures event member
  exact fun same => absurd same failure

theorem quiet_lines (stored : Stored trace storage)
    (quiet : Quiet storage next) (index : Nat)
    (ready : 0 < (next.lines index).endVal) :
    (next.lines index).bucket =
      ((next.lines index).endVal - blockSize) / messageCountOneBucket := by
  rcases quiet.lines index with ⟨bucket, -, sameEnd⟩ | empty
  · rw [sameEnd] at ready ⊢
    rw [bucket]
    exact stored.lines index ready
  · rw [empty.2.2] at ready
    cases ready

theorem write (stored : Stored trace storage) {mid : CassStorage Process}
    (lines : ∀ index, 0 < (mid.lines index).endVal →
      (mid.lines index).bucket =
        ((mid.lines index).endVal - blockSize) / messageCountOneBucket)
    (writes : mid.writes = storage.writes)
    (table : mid.table = storage.table) (call : Nat) (process : Process)
    {block bucket : Int}
    (placed : bucket = (block - blockSize) / messageCountOneBucket)
    (request : CassMsgRequest)
    {before : List StorageEvent}
    (refills : ∀ event ∈ before, ∃ other index last,
      event = .refilled other index last) :
    Stored
      (trace ++ (before ++ (mid.write call process block bucket request).2))
      (mid.write call process block bucket request).1 := by
  have early : ∀ event ∈ before, Harmless storage event := by
    intro event member
    obtain ⟨other, index, last, rfl⟩ := refills event member
    trivial
  unfold CassStorage.write
  split
  · rename_i nonneg
    refine stored.change lines ?_ table
      (List.forall_mem_append.mpr ⟨early, ?_⟩)
    · intro other
      by_cases same : other = call
      · subst same
        simp only [Function.update_self]
        exact .inr (.inr ⟨block, _, rfl, placed, nonneg⟩)
      · simp only [Function.update_of_ne same]
        exact .inl (congrFun writes other)
    · intro event member
      rw [List.mem_singleton.mp member]
      trivial
  · have failing : ∀ later : List StorageEvent,
        (∀ event ∈ later, ∃ code, code ≠ .success ∧
          event = .replied call code) →
        Stored (trace ++ (before ++ later)) (mid.withCall call .ended) := by
      intro later failures
      refine stored.change lines (fun other => .inl (congrFun writes other))
        table (List.forall_mem_append.mpr ⟨early, ?_⟩)
      intro event member
      obtain ⟨code, failure, rfl⟩ := failures event member
      exact fun same => absurd same failure
    split
    · refine failing _ ?_
      intro event member
      exact ⟨.timeout, fun same => CassMessageStatusCode.noConfusion same,
        List.mem_singleton.mp member⟩
    · split
      · refine failing _ ?_
        intro event member
        exact ⟨.failed, fun same => CassMessageStatusCode.noConfusion same,
          List.mem_singleton.mp member⟩
      · exact failing _ (fun _ member => absurd member List.not_mem_nil)

theorem withLine (stored : Stored trace storage) {index : Nat}
    {line : BucketCacheLine}
    (bucket : 0 < line.endVal → line.bucket =
      (line.endVal - blockSize) / messageCountOneBucket) (other : Nat)
    (ready : 0 < ((storage.withLine index line).lines other).endVal) :
    ((storage.withLine index line).lines other).bucket =
      (((storage.withLine index line).lines other).endVal - blockSize) /
        messageCountOneBucket := by
  by_cases same : other = index
  · subst same
    rw [lines_withLine] at ready ⊢
    exact bucket ready
  · rw [lines_withLine_of_ne same] at ready ⊢
    exact stored.lines other ready

theorem quiet (stored : Stored trace storage)
    (quiet : Quiet storage next) : Stored trace next := by
  have changed : Stored (trace ++ []) next :=
    stored.keep (stored.quiet_lines quiet) quiet.writes quiet.table
      (fun _ member => absurd member List.not_mem_nil)
  rw [List.append_nil] at changed
  exact changed

theorem finish (stored : Stored trace storage) {call : Nat}
    (process : Process) {outcome : WriteOutcome} {contextCancelled : Bool}
    (written : outcome = .written → storage.writes call = .applied) :
    Stored
      (trace ++ (storage.finish call process outcome contextCancelled).2)
      (storage.finish call process outcome contextCancelled).1 := by
  have answers : ∀ event ∈ replies call outcome contextCancelled,
      Harmless storage event := by
    intro event member
    unfold replies at member
    split at member
    · rw [List.mem_singleton.mp member]
      exact fun _ => written rfl
    · rw [List.mem_singleton.mp member]
      intro same
      cases same
    · cases member
  unfold CassStorage.finish
  simp only
  split
  · refine stored.change stored.lines (fun _ => .inl rfl) rfl ?_
    intro event member
    split at member
    · exact answers event member
    · cases member
  · rename_i index cached
    refine stored.change
      (stored.withLine (fun ready => stored.lines index ready))
      (fun _ => .inl rfl) rfl (List.forall_mem_append.mpr ⟨?_, answers⟩)
    intro event back
    rw [List.eq_of_mem_replicate back]
    trivial

theorem apply (stored : Stored trace storage) {call : Nat} {block : Int}
    {row : SessionRow}
    (flying : storage.writes call = .inFlight block row) :
    Stored (trace ++ [StorageEvent.wrote call block row])
      { storage with
        writes := Function.update storage.writes call .applied
        table := insertRow storage.table row } := by
  constructor
  case lines => exact stored.lines
  case flying =>
    intro other last found still
    exact stored.flying other last found
      (flying_of_update (by simp) still)
  case applied =>
    intro other applied
    by_cases same : other = call
    · subst same
      exact ⟨block, row, List.mem_append_right _ List.mem_cons_self⟩
    · simp only [Function.update_of_ne same] at applied
      obtain ⟨last, found, wrote⟩ := stored.applied other applied
      exact ⟨last, found, List.mem_append_left _ wrote⟩
  case wrote =>
    intro other last found member
    rcases List.mem_append.mp member with before | now
    · obtain ⟨placed, kept⟩ := stored.wrote other last found before
      exact ⟨placed, insertRow_keeps row kept⟩
    · cases List.mem_singleton.mp now
      exact ⟨stored.flying call block row flying, row, List.mem_cons_self,
        rfl, rfl⟩
  case replied =>
    intro other member
    rcases List.mem_append.mp member with before | now
    · obtain ⟨last, found, wrote⟩ := stored.replied other before
      exact ⟨last, found, List.mem_append_left _ wrote⟩
    · cases List.mem_singleton.mp now

theorem changed (stored : Stored trace storage)
    (changed : Changed storage action next events) :
    Stored (trace ++ events) next := by
  have none : ∀ event ∈ ([] : List StorageEvent), ∃ call code,
      code ≠ .success ∧ event = .replied call code :=
    fun _ member => absurd member List.not_mem_nil
  cases changed with
  | quiet quiet =>
      rw [List.append_nil]
      exact stored.quiet quiet
  | served serving acted => exact stored.keep stored.lines rfl rfl none
  | timedOut acted => exact stored.keep stored.lines rfl rfl none
  | waits process index refill quiet requests =>
      have before := stored.quiet quiet
      exact before.keep before.lines rfl rfl none
  | asks process index quiet requests =>
      have before := stored.quiet quiet
      exact before.keep before.lines rfl rfl none
  | @advanced _ mid call index request process quiet requests available =>
      have ready : 0 < (mid.lines index).endVal := by
        simp only [BucketCacheLine.available, BucketCacheLine.ready,
          Bool.and_eq_true, decide_eq_true_eq] at available
        exact available.1
      have placed := stored.quiet_lines quiet index ready
      exact @write _ trace storage stored
        (mid.withLine index (mid.lines index).advance)
        ((stored.quiet quiet).withLine (fun _ => placed)) quiet.writes
        quiet.table call process _ _ placed request []
        (fun _ member => absurd member List.not_mem_nil)
  | @refilled _ mid call index request process incr told quiet phase listed
      result =>
      refine @write _ trace storage stored
        (mid.withLine index ((mid.lines index).fill incr.value))
        ((stored.quiet quiet).withLine (fun _ => rfl)) quiet.writes
        quiet.table call process _ _ rfl request
        [.refilled call index incr.value] ?_
      intro event member
      exact ⟨call, index, _, List.mem_singleton.mp member⟩
  | ends quiet undecided failures =>
      have before := stored.quiet quiet
      refine before.keep before.lines rfl rfl ?_
      intro event member
      obtain ⟨code, failure, same⟩ := failures event member
      exact ⟨_, code, failure, same⟩
  | cancelled acted undecided =>
      exact stored.keep stored.lines rfl rfl none
  | applied flying => exact stored.apply flying
  | @lost call block row flying =>
      refine stored.change stored.lines ?_ rfl
        (fun _ member => absurd member List.not_mem_nil)
      intro other
      by_cases same : other = call
      · subst same
        exact .inr (.inl (Function.update_self ..))
      · exact .inl (Function.update_of_ne same ..)
  | finished phase written => exact stored.finish _ written

theorem initial : Stored [] ({} : CassStorage Process) := by
  refine ⟨?_, ?_, ?_, ?_, ?_⟩
  · intro index ready
    cases ready
  · intro call block row flying
    cases flying
  · intro call applied
    cases applied
  · intro call block row member
    cases member
  · intro call member
    cases member

/-- A slot is in the first bucket exactly if it is below its size. -/
theorem first_bucket {block : Int} {row : SessionRow}
    (placed : Placed block row) :
    row.bucket = 0 ↔ block - blockSize < messageCountOneBucket := by
  obtain ⟨bucket, nonneg⟩ := placed
  simp only [messageCountOneBucket] at bucket ⊢
  omega

end Stored

/-- After every run, the messages of all successful calls can be read
exactly if all of them have positive ids and slots of the first bucket. -/
theorem reads_back_iff [DecidableEq Process]
    (run : AnyRun step {} trace storage) :
    ReadsBack trace storage ↔ InFirstBucket trace := by
  have stored : Stored trace storage := by
    refine run.invariant Stored.initial ?_
    intro trace events storage next action stored _ stepped
    exact stored.changed (step_changed stepped)
  constructor
  · intro reads call success block row wrote
    obtain ⟨found, selected, sameBucket, sameId, -⟩ :=
      (reads call success).2 block row wrote
    obtain ⟨-, first, positive⟩ := mem_selectSession.mp selected
    obtain ⟨placed, -⟩ := stored.wrote call block row wrote
    rw [← Stored.first_bucket placed, ← sameBucket, ← sameId]
    exact ⟨first, positive⟩
  · intro within call success
    refine ⟨stored.replied call success, ?_⟩
    intro block row wrote
    obtain ⟨below, positive⟩ := within call success block row wrote
    obtain ⟨placed, found, member, sameBucket, sameId⟩ :=
      stored.wrote call block row wrote
    have first := (Stored.first_bucket placed).mpr below
    have selected : found ∈ selectSession storage.table := by
      rw [mem_selectSession, sameBucket, sameId]
      exact ⟨member, first, positive⟩
    refine ⟨found, selected, sameBucket, sameId, ?_⟩
    rw [followPages_messages, List.drop_zero]
    exact List.mem_map_of_mem selected

/-- One message is written and read. -/
theorem reads_back_iff_one :
    ∃ trace storage, AnyRun step ({} : CassStorage Nat) trace storage ∧
      .replied 0 .success ∈ trace ∧ InFirstBucket trace ∧
      ReadsBack trace storage := by
  have executed : exec step (fun _ _ => True) ({} : CassStorage Nat)
      [.writeToSession 0 0 (numbered 0), .redis (.move 0 .take),
        .redis (.execute 0), .redis (.move 0 .reply), .resume 0, .apply 0,
        .finish 0 .written false] =
      some (_, [.refilled 0 0 100, .granted 0 100 0,
        .wrote 0 100 (sessionRow 0 (numbered 0)),
        .replied 0 .success]) := rfl
  have within : InFirstBucket [.refilled 0 0 100, .granted 0 100 0,
      .wrote 0 100 (sessionRow 0 (numbered 0)), .replied 0 .success] := by
    intro call _ block row wrote
    simp only [List.mem_cons, reduceCtorEq, StorageEvent.wrote.injEq,
      List.not_mem_nil, or_false, false_or] at wrote
    obtain ⟨-, rfl, rfl⟩ := wrote
    decide
  have run := Run.of_exec executed
  exact ⟨_, _, run, by simp, within, (reads_back_iff run).mpr within⟩

/-- The line of the process was evicted after every message, so that every
message has a block of its own. -/
structure Evicted (fresh : Nat) (storage : CassStorage Nat) : Prop where
  cached : storage.bucketCache 0 = none
  value : storage.redis.value = 100 * fresh
  unused : ∀ call, fresh ≤ call → storage.calls call = .unused

/-- A call of the process was told the end of a new block. -/
structure Told (call index : Nat) (block : Int)
    (storage : CassStorage Nat) : Prop where
  phase : storage.calls call = .incrementing 0 index (numbered call)
  task : ∃ incr, storage.redis.tasks call = some incr ∧
    incr.task.waiter = .result (some true) ∧ incr.value = block
  value : storage.redis.value = block
  cached : storage.bucketCache 0 = some index
  unused : ∀ other, call < other → storage.calls other = .unused

theorem Evicted.told {fresh : Nat} {storage : CassStorage Nat}
    (evicted : Evicted fresh storage)
    (run : AnyRun step {} trace storage) :
    ∃ index next, AnyRun step {} trace next ∧
      Told fresh index (100 * fresh + 100) next := by
  obtain ⟨mid, begun, sameRedis, sameCalls, sameCache⟩ :=
    step_writeToSession (numbered fresh)
      (evicted.unused fresh (Nat.le_refl _)) evicted.cached
  have value : mid.redis.value + blockSize = 100 * (fresh : Int) + 100 := by
    rw [sameRedis, evicted.value]
    rfl
  have asked := run.act _ trivial begun
  have sent := asked.act (.redis (.move fresh .take)) trivial
    (step_move (Function.update_self ..)
      (fun same => TaskMove.noConfusion same) rfl)
  have executed := sent.act (.redis (.execute fresh)) trivial
    (step_execute (Function.update_self ..) rfl)
  have told := executed.act (.redis (.move fresh .reply)) trivial
    (step_move (Function.update_self ..)
      (fun same => TaskMove.noConfusion same) rfl)
  simp only [List.append_nil] at told
  refine ⟨storage.created, _, told, Function.update_self ..,
    ⟨_, Function.update_self .., rfl, value⟩, value, ?_, ?_⟩
  · refine (congrFun sameCache 0).trans ?_
    exact Function.update_self ..
  · intro other later
    refine (Function.update_of_ne (by omega) ..).trans ?_
    rw [sameCalls]
    exact evicted.unused other (by omega)

/-- The call writes its message and is successful; then its line is
evicted. -/
theorem Told.writes {call index : Nat} {block : Int}
    {storage : CassStorage Nat} (told : Told call index block storage)
    (nonneg : 0 ≤ (block - blockSize) / messageCountOneBucket)
    (run : AnyRun step {} trace storage) :
    ∃ later next, AnyRun step {} (trace ++ later) next ∧
      next.bucketCache 0 = none ∧ next.redis.value = block ∧
      (∀ other, call < other → next.calls other = .unused) ∧
      .replied call .success ∈ later ∧
      .wrote call block
        (sessionRow ((block - blockSize) / messageCountOneBucket)
          (numbered call)) ∈ later := by
  obtain ⟨incr, listed, result, rfl⟩ := told.task
  have granted := run.act (.resume call) trivial
    (step_resume told.phase listed result nonneg)
  have applied := granted.act (.apply call) trivial
    (step_apply (Function.update_self ..))
  have finished := applied.act (.finish call .written false) trivial
    (step_finish (Function.update_self ..) told.cached
      (fun _ => Function.update_self ..))
  have evicted := finished.act (.evict 0) trivial rfl
  simp only [List.append_assoc] at evicted
  refine ⟨_, _, evicted, rfl, told.value, ?_, ?_, ?_⟩
  · intro other later
    refine (Function.update_of_ne (by omega) ..).trans
      ((Function.update_of_ne (by omega) ..).trans ?_)
    exact told.unused other later
  · simp [replies, rollbacks]
  · simp

theorem Evicted.writes {fresh : Nat} {storage : CassStorage Nat}
    (evicted : Evicted fresh storage)
    (run : AnyRun step {} trace storage) :
    ∃ later next, AnyRun step {} (trace ++ later) next ∧
      Evicted (fresh + 1) next ∧ .replied fresh .success ∈ later ∧
      .wrote fresh (100 * fresh + 100)
        (sessionRow (100 * fresh / 1000000) (numbered fresh)) ∈ later := by
  obtain ⟨index, mid, asked, told⟩ := evicted.told run
  have start : 100 * (fresh : Int) + 100 - blockSize = 100 * fresh :=
    Int.add_sub_cancel ..
  have nonneg : 0 ≤ (100 * (fresh : Int) + 100 - blockSize) /
      messageCountOneBucket := by
    rw [start]
    exact Int.ediv_nonneg (by omega) (by decide)
  obtain ⟨later, next, longer, cached, value, unused, success, wrote⟩ :=
    told.writes nonneg asked
  rw [start] at wrote
  refine ⟨later, next, longer, ⟨cached, ?_, ?_⟩, success, wrote⟩
  · rw [value]
    omega
  · exact fun call bound => unused call (by omega)

theorem evicted_after (count : Nat) :
    ∃ trace storage, AnyRun step ({} : CassStorage Nat) trace storage ∧
      Evicted count storage := by
  induction count with
  | zero =>
      exact ⟨[], {}, .refl, rfl, rfl, fun _ _ => rfl⟩
  | succ count induction =>
      obtain ⟨trace, storage, run, evicted⟩ := induction
      obtain ⟨later, next, longer, again, -, -⟩ := evicted.writes run
      exact ⟨trace ++ later, next, longer, again⟩

/-- The first message behind ten thousand blocks is stored in the second
bucket, which no query selects. -/
theorem second_bucket_unread :
    ∃ trace storage, AnyRun step ({} : CassStorage Nat) trace storage ∧
      .replied 10000 .success ∈ trace ∧ ¬ ReadsBack trace storage := by
  obtain ⟨trace, storage, run, evicted⟩ := evicted_after 10000
  obtain ⟨later, next, longer, -, success, wrote⟩ := evicted.writes run
  have answered := List.mem_append_right trace success
  have written := List.mem_append_right trace wrote
  refine ⟨trace ++ later, next, longer, answered, ?_⟩
  intro reads
  obtain ⟨stored, selected, bucket, -, -⟩ :=
    (reads 10000 answered).2 _ _ written
  have first := (mem_selectSession.mp selected).2.1
  rw [first] at bucket
  exact absurd bucket (by decide)

end CassStorage

end Storage

end TinyChat
