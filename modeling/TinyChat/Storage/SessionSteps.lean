import TinyChat.Storage.Session

/-!
# What a step of the storage service can do

Locks, evictions and new lines do not matter for the slots.  Apart from
them, a call waits, asks for a block, takes a slot of a line or of its own
block, or ends; a write is executed or lost; or something happens to a task
of the Redis service.
-/

namespace TinyChat

namespace Storage

open Redis
open Transition

/-- The lines have the same slots. -/
def BucketCacheLine.Same (line other : BucketCacheLine) : Prop :=
  other.bucket = line.bucket ∧ other.currVal = line.currVal ∧
    other.endVal = line.endVal

/-- The call has not asked for a block. -/
def SessionCall.Untasked {Process : Type} : SessionCall Process → Prop
  | .unused | .locking _ _ _ _ => True
  | _ => False

/-- The call has got a slot, or none. -/
def SessionCall.Decided {Process : Type} : SessionCall Process → Prop
  | .writing _ _ | .ended => True
  | _ => False

theorem SessionCall.Untasked.undecided {Process : Type}
    {phase : SessionCall Process} (untasked : phase.Untasked) :
    ¬ phase.Decided := by
  cases phase with
  | unused | locking => exact id
  | incrementing | writing | ended => exact untasked.elim

namespace CassStorage

variable {Process : Type} [DecidableEq Process]

/-- Nothing changes but locks, the caches and lines that become empty. -/
structure Quiet (storage next : CassStorage Process) : Prop where
  redis : next.redis = storage.redis
  calls : next.calls = storage.calls
  writes : next.writes = storage.writes
  table : next.table = storage.table
  lines : ∀ index, (storage.lines index).Same (next.lines index) ∨
    ({} : BucketCacheLine).Same (next.lines index)

/-- The request of a call that has not asked for a block. -/
def Requests (storage : CassStorage Process)
    (action : StorageAction Process) (call : Nat)
    (request : CassMsgRequest) : Prop :=
  (∃ process, action = .writeToSession call process request ∧
    storage.calls call = .unused) ∨
  ∃ process index refill,
    storage.calls call = .locking process index refill request

inductive Changed (storage : CassStorage Process) :
    StorageAction Process → CassStorage Process → List StorageEvent →
      Prop where
  | quiet {action : StorageAction Process} {next : CassStorage Process} :
      Quiet storage next → Changed storage action next []
  | served {command : CounterAction} {redis : RedisCounter} :
      serves command = true →
      storage.redis.act blockSize command = some redis →
      Changed storage (.redis command) { storage with redis := redis } []
  | timedOut {call : Nat} {redis : RedisCounter} :
      storage.redis.act blockSize (.move call .timeout) = some redis →
      Changed storage (.timeout call) { storage with redis := redis } []
  | waits {action : StorageAction Process} {mid : CassStorage Process}
      {call : Nat} {request : CassMsgRequest} (process : Process)
      (index : Nat) (refill : Bool) :
      Quiet storage mid → Requests storage action call request →
      Changed storage action
        (mid.withCall call (.locking process index refill request)) []
  | asks {action : StorageAction Process} {mid : CassStorage Process}
      {call : Nat} {request : CassMsgRequest} (process : Process)
      (index : Nat) :
      Quiet storage mid → Requests storage action call request →
      Changed storage action (mid.increment call process index request) []
  | advanced {action : StorageAction Process} {mid : CassStorage Process}
      {call index : Nat} {request : CassMsgRequest} (process : Process) :
      Quiet storage mid → Requests storage action call request →
      (mid.lines index).available = true →
      Changed storage action
        ((mid.withLine index (mid.lines index).advance).write call process
          (mid.lines index).endVal (mid.lines index).bucket request).1
        ((mid.withLine index (mid.lines index).advance).write call process
          (mid.lines index).endVal (mid.lines index).bucket request).2
  | refilled {action : StorageAction Process} {mid : CassStorage Process}
      {call index : Nat} {request : CassMsgRequest} {process : Process}
      {incr : IncrTask} {told : Bool} :
      Quiet storage mid →
      storage.calls call = .incrementing process index request →
      storage.redis.tasks call = some incr →
      incr.task.waiter = .result (some told) →
      Changed storage action
        ((mid.withLine index ((mid.lines index).fill incr.value)).write call
          process incr.value ((mid.lines index).fill incr.value).bucket
          request).1
        (.refilled call index incr.value ::
          ((mid.withLine index ((mid.lines index).fill incr.value)).write
            call process incr.value
            ((mid.lines index).fill incr.value).bucket request).2)
  | ends {action : StorageAction Process} {mid : CassStorage Process}
      {call : Nat} {events : List StorageEvent} :
      Quiet storage mid → ¬ (storage.calls call).Decided →
      (∀ event ∈ events, ∃ code, code ≠ .success ∧
        event = .replied call code) →
      Changed storage action (mid.withCall call .ended) events
  | cancelled {call : Nat} {redis : RedisCounter} :
      storage.redis.act blockSize (.move call .timeout) = some redis →
      ¬ (storage.calls call).Decided →
      Changed storage (.cancel call)
        ({ storage with redis := redis }.withCall call .ended) []
  | applied {call : Nat} {block : Int} {row : SessionRow} :
      storage.writes call = .inFlight block row →
      Changed storage (.apply call)
        { storage with
          writes := Function.update storage.writes call .applied
          table := insertRow storage.table row }
        [.wrote call block row]
  | lost {call : Nat} {block : Int} {row : SessionRow} :
      storage.writes call = .inFlight block row →
      Changed storage (.loseWrite call)
        { storage with
          writes := Function.update storage.writes call .lost } []
  | finished {call : Nat} {process : Process} {block : Int}
      {outcome : WriteOutcome} {contextCancelled : Bool} :
      storage.calls call = .writing process block →
      (outcome = .written → storage.writes call = .applied) →
      Changed storage (.finish call outcome contextCancelled)
        (storage.finish call process outcome contextCancelled).1
        (storage.finish call process outcome contextCancelled).2

variable {storage next : CassStorage Process}
  {action : StorageAction Process} {events : List StorageEvent}

omit [DecidableEq Process] in
theorem Quiet.refl (storage : CassStorage Process) :
    Quiet storage storage where
  redis := rfl
  calls := rfl
  writes := rfl
  table := rfl
  lines := fun _ => .inl ⟨rfl, rfl, rfl⟩

omit [DecidableEq Process] in
theorem Quiet.withLine {mid : CassStorage Process}
    (quiet : Quiet storage mid) (index : Nat) (lock : AsyncLock Nat) :
    Quiet storage
      (mid.withLine index { mid.lines index with lock := lock }) where
  redis := quiet.redis
  calls := quiet.calls
  writes := quiet.writes
  table := quiet.table
  lines := by
    intro other
    by_cases same : other = index
    · subst same
      simp only [CassStorage.withLine, Function.update_self]
      exact quiet.lines other
    · simp only [CassStorage.withLine, Function.update_of_ne same]
      exact quiet.lines other

theorem Quiet.findLine (storage : CassStorage Process) (process : Process) :
    Quiet storage (storage.findLine process).1 := by
  unfold CassStorage.findLine
  split
  · exact .refl storage
  · refine ⟨rfl, rfl, rfl, rfl, ?_⟩
    intro other
    by_cases same : other = storage.created
    · subst same
      simp only [Function.update_self]
      exact .inr ⟨rfl, rfl, rfl⟩
    · simp only [Function.update_of_ne same]
      exact .inl ⟨rfl, rfl, rfl⟩

omit [DecidableEq Process] in
theorem withLine_withLine (storage : CassStorage Process) (index : Nat)
    (first second : BucketCacheLine) :
    (storage.withLine index first).withLine index second =
      storage.withLine index second := by
  simp only [withLine, Function.update_idem]

omit [DecidableEq Process] in
theorem withLine_self (storage : CassStorage Process) (index : Nat) :
    storage.withLine index (storage.lines index) = storage := by
  simp only [withLine, Function.update_eq_self]

omit [DecidableEq Process] in
theorem lines_withLine (storage : CassStorage Process) (index : Nat)
    (line : BucketCacheLine) :
    (storage.withLine index line).lines index = line :=
  Function.update_self ..

omit [DecidableEq Process] in
theorem lines_withLine_of_ne {index other : Nat} (different : other ≠ index)
    (line : BucketCacheLine) :
    (storage.withLine index line).lines other = storage.lines other :=
  Function.update_of_ne different ..

omit [DecidableEq Process] in
theorem calls_withCall (storage : CassStorage Process) (call : Nat)
    (phase : SessionCall Process) :
    (storage.withCall call phase).calls call = phase :=
  Function.update_self ..

omit [DecidableEq Process] in
theorem calls_withCall_of_ne {call other : Nat} (different : other ≠ call)
    (phase : SessionCall Process) :
    (storage.withCall call phase).calls other = storage.calls other :=
  Function.update_of_ne different ..

omit [DecidableEq Process] in
theorem ne_of_flying {call other : Nat} {block : Int} {row : SessionRow}
    {stage : SessionWrite}
    (flying : storage.writes call = .inFlight block row)
    (reached : storage.writes other = stage)
    (settled : ∀ last found, stage ≠ .inFlight last found) :
    other ≠ call := by
  rintro rfl
  exact settled block row (reached.symm.trans flying)

omit [DecidableEq Process] in
/-- What is still in flight after a write has settled was so before. -/
theorem flying_of_update {call other : Nat} {block : Int} {row : SessionRow}
    {stage : SessionWrite}
    (settled : ∀ last found, stage ≠ .inFlight last found)
    (still : Function.update storage.writes call stage other =
      .inFlight block row) :
    storage.writes other = .inFlight block row := by
  by_cases same : other = call
  · subst same
    rw [Function.update_self] at still
    exact absurd still (settled block row)
  · rw [Function.update_of_ne same] at still
    exact still

omit [DecidableEq Process] in
theorem locked_changed {mid : CassStorage Process} {call : Nat}
    {request : CassMsgRequest} (quiet : Quiet storage mid)
    (requests : Requests storage action call request) (process : Process)
    (index : Nat) (refill : Bool) :
    Changed storage action (mid.locked call process index refill request).1
      (mid.locked call process index refill request).2 := by
  unfold CassStorage.locked
  simp only
  split
  · rename_i enabled
    have released := quiet.withLine index (mid.lines index).lock.release
    have changed := @Changed.advanced _ storage action _ call index request
      process released requests
    rw [lines_withLine, withLine_withLine] at changed
    exact changed enabled.2
  · exact .asks process index quiet requests

omit [DecidableEq Process] in
theorem acquire_changed {mid : CassStorage Process} {call : Nat}
    {request : CassMsgRequest} (quiet : Quiet storage mid)
    (requests : Requests storage action call request) (process : Process)
    (index : Nat) (refill : Bool) :
    Changed storage action
      (mid.acquire call process index refill request).1
      (mid.acquire call process index refill request).2 := by
  unfold CassStorage.acquire
  simp only
  split
  · exact locked_changed (quiet.withLine index _) requests process index
      refill
  · exact .waits process index refill (quiet.withLine index _) requests

omit [DecidableEq Process] in
theorem calBucketVal_changed {mid : CassStorage Process} {call : Nat}
    {request : CassMsgRequest} (quiet : Quiet storage mid)
    (requests : Requests storage action call request) (process : Process)
    (index : Nat) :
    Changed storage action (mid.calBucketVal call process index request).1
      (mid.calBucketVal call process index request).2 := by
  unfold CassStorage.calBucketVal
  simp only
  split
  · split
    · rename_i available
      exact .advanced process quiet requests available
    · exact acquire_changed quiet requests process index true
  · exact acquire_changed quiet requests process index false

omit [DecidableEq Process] in
theorem reply_changed {call index : Nat} {code : CassMessageStatusCode}
    (failure : code ≠ .success)
    (undecided : ¬ (storage.calls call).Decided) :
    Changed storage action ((storage.unlock index).reply call code).1
      ((storage.unlock index).reply call code).2 := by
  refine .ends ((Quiet.refl storage).withLine index _) undecided ?_
  intro event member
  exact ⟨code, failure, List.mem_singleton.mp member⟩

theorem step_changed (stepped : step storage action = some (next, events)) :
    Changed storage action next events := by
  cases action with
  | writeToSession call process request =>
      simp only [step] at stepped
      split at stepped
      · rename_i unused
        have changed := calBucketVal_changed
          (Quiet.findLine storage process)
          (.inl ⟨process, rfl, unused⟩ : Requests storage
            (.writeToSession call process request) call request) process
          (storage.findLine process).2
        rw [Option.some.inj stepped] at changed
        exact changed
      · cases stepped
  | acquire index position =>
      simp only [step] at stepped
      split at stepped
      · cases stepped
      · rename_i call lock resumed
        split at stepped
        · rename_i process _ refill request locking
          have changed := @locked_changed _ storage
            (.acquire index position) _ call request
            ((Quiet.refl storage).withLine index lock)
            (.inr ⟨process, _, refill, locking⟩) process index refill
          rw [Option.some.inj stepped] at changed
          exact changed
        · cases stepped
  | redis command =>
      simp only [step] at stepped
      split at stepped
      · rename_i serving
        obtain ⟨redis, acted, same⟩ := Option.map_eq_some_iff.mp stepped
        cases same
        exact .served serving acted
      · cases stepped
  | timeout call =>
      simp only [step] at stepped
      split at stepped
      · obtain ⟨redis, acted, same⟩ := Option.map_eq_some_iff.mp stepped
        cases same
        exact .timedOut acted
      · cases stepped
  | resume call =>
      simp only [step] at stepped
      split at stepped
      · rename_i process index request incr phase listed
        have undecided : ¬ (storage.calls call).Decided := by
          rw [phase]
          exact id
        split at stepped
        · cases stepped
        · rename_i told result
          have changed := @Changed.refilled _ storage (.resume call) _ call
            index request process incr told
            ((Quiet.refl storage).withLine index
              (storage.lines index).lock.release) phase listed result
          cases stepped
          exact changed
        · cases stepped
          exact reply_changed
            (fun same => CassMessageStatusCode.noConfusion same) undecided
        · cases stepped
          exact reply_changed
            (fun same => CassMessageStatusCode.noConfusion same) undecided
      · cases stepped
  | abandon call =>
      simp only [step] at stepped
      split at stepped
      · rename_i phase
        cases stepped
        refine reply_changed
          (fun same => CassMessageStatusCode.noConfusion same) ?_
        rw [phase]
        exact id
      · cases stepped
  | cancel call =>
      simp only [step] at stepped
      split at stepped
      · rename_i phase
        cases stepped
        refine .ends ((Quiet.refl storage).withLine _ _) ?_ ?_
        · rw [phase]
          exact id
        · exact fun _ member => absurd member List.not_mem_nil
      · rename_i phase
        have undecided : ¬ (storage.calls call).Decided := by
          rw [phase]
          exact id
        cases stepped
        cases acted :
          storage.redis.act blockSize (.move call .timeout) with
        | none =>
            refine .ends (.refl storage) undecided ?_
            exact fun _ member => absurd member List.not_mem_nil
        | some redis => exact .cancelled acted undecided
      · cases stepped
  | apply call =>
      simp only [step] at stepped
      split at stepped
      · rename_i block row flying
        cases stepped
        exact .applied flying
      · cases stepped
  | loseWrite call =>
      simp only [step] at stepped
      split at stepped
      · rename_i block row flying
        cases stepped
        exact .lost flying
      · cases stepped
  | finish call outcome contextCancelled =>
      simp only [step] at stepped
      split at stepped
      · rename_i process block phase
        split at stepped
        · cases stepped
        · rename_i possible
          have changed := @Changed.finished _ storage call process block
            outcome contextCancelled phase (by
              intro written
              by_contra unapplied
              exact possible ⟨written, unapplied⟩)
          rw [Option.some.inj stepped] at changed
          exact changed
      · cases stepped
  | evict process =>
      cases stepped
      refine .quiet ⟨rfl, rfl, rfl, rfl, ?_⟩
      exact fun _ => .inl ⟨rfl, rfl, rfl⟩

omit [DecidableEq Process] in
theorem write_granted (storage : CassStorage Process) (call : Nat)
    (process : Process) (block : Int) {bucket : Int}
    (nonneg : 0 ≤ bucket) (request : CassMsgRequest) :
    storage.write call process block bucket request =
      ({ storage.withCall call (.writing process block) with
          writes := Function.update storage.writes call
            (.inFlight block (sessionRow bucket request)) },
        [.granted call block bucket]) :=
  if_pos nonneg

omit [DecidableEq Process] in
theorem Requests.untasked {call : Nat} {request : CassMsgRequest}
    (requests : Requests storage action call request) :
    (storage.calls call).Untasked := by
  rcases requests with ⟨process, -, unused⟩ |
    ⟨process, index, refill, locking⟩
  · rw [unused]
    trivial
  · rw [locking]
    trivial

theorem step_apply {call : Nat} {block : Int} {row : SessionRow}
    (flying : storage.writes call = .inFlight block row) :
    step storage (.apply call) =
      some ({ storage with
          writes := Function.update storage.writes call .applied
          table := insertRow storage.table row },
        [.wrote call block row]) := by
  simp only [step, flying]

theorem step_finish {call index : Nat} {process : Process} {block : Int}
    {outcome : WriteOutcome} {contextCancelled : Bool}
    (phase : storage.calls call = .writing process block)
    (cached : storage.bucketCache process = some index)
    (written : outcome = .written → storage.writes call = .applied) :
    step storage (.finish call outcome contextCancelled) =
      some ((storage.withLine index
          { storage.lines index with
            currVal := (storage.lines index).currVal -
              rollbacks outcome contextCancelled }).withCall call .ended,
        List.replicate (rollbacks outcome contextCancelled)
            (.rolledBack call (storage.lines index).endVal) ++
          replies call outcome contextCancelled) := by
  simp only [step, phase, finish, cached]
  exact if_neg (fun both => both.2 (written both.1))

theorem step_move {call : Nat} {incr : IncrTask} {move : TaskMove}
    {task : RedisTask} (listed : storage.redis.tasks call = some incr)
    (serving : move ≠ .timeout) (moved : incr.task.move move = some task) :
    step storage (.redis (.move call move)) =
      some ({ storage with
        redis := storage.redis.withTask call { incr with task := task } },
        []) := by
  have served : serves (.move call move) = true := by
    cases move with
    | timeout => exact absurd rfl serving
    | take | lose | reply | fail | refuse => rfl
  simp only [step, served, if_true, RedisCounter.act, listed,
    Option.bind_some, moved, Option.map_some]

theorem step_execute {call : Nat} {incr : IncrTask}
    (listed : storage.redis.tasks call = some incr)
    (sent : incr.task.stage = .sent) :
    step storage (.redis (.execute call)) =
      some ({ storage with
        redis :=
          { storage.redis.withTask call
              { incr with
                task := { incr.task with stage := .executed true }
                value := storage.redis.value + blockSize } with
            value := storage.redis.value + blockSize } }, []) := by
  simp only [step, serves, if_true, RedisCounter.act, listed,
    Option.bind_some, RedisTask.execute, sent, Option.map_some]

theorem step_resume {call index : Nat} {process : Process}
    {request : CassMsgRequest} {incr : IncrTask} {told : Bool}
    (phase : storage.calls call = .incrementing process index request)
    (listed : storage.redis.tasks call = some incr)
    (result : incr.task.waiter = .result (some told))
    (nonneg : 0 ≤ (incr.value - blockSize) / messageCountOneBucket) :
    step storage (.resume call) =
      some ({ ((storage.unlock index).withLine index
            (((storage.unlock index).lines index).fill
              incr.value)).withCall call (.writing process incr.value) with
          writes := Function.update storage.writes call
            (.inFlight incr.value (sessionRow
              ((incr.value - blockSize) / messageCountOneBucket)
              request)) },
        [.refilled call index incr.value,
          .granted call incr.value
            ((incr.value - blockSize) / messageCountOneBucket)]) := by
  simp only [step, phase, listed, result, refill, BucketCacheLine.fill]
  rw [write_granted _ _ _ _ nonneg]
  rfl

theorem step_writeToSession {call : Nat} {process : Process}
    (request : CassMsgRequest) (unused : storage.calls call = .unused)
    (cached : storage.bucketCache process = none) :
    ∃ mid : CassStorage Process,
      step storage (.writeToSession call process request) =
        some (mid.increment call process storage.created request, []) ∧
      mid.redis = storage.redis ∧ mid.calls = storage.calls ∧
      mid.bucketCache = Function.update storage.bucketCache process
        (some storage.created) := by
  refine ⟨(storage.findLine process).1.withLine storage.created
    { lock := ({} : AsyncLock Nat).hold call }, ?_, ?_⟩
  · have empty : ({} : BucketCacheLine).ready = false := rfl
    have unfilled : ({ lock := ({} : AsyncLock Nat).hold call } :
        BucketCacheLine).available = false := rfl
    have free : ({} : AsyncLock Nat).available = true := rfl
    simp only [step, unused, findLine, cached, calBucketVal,
      Function.update_self, empty, acquire, free, locked, lines_withLine,
      unfilled, if_true, Bool.false_eq_true, if_false, and_false]
  · simp only [findLine, cached, withLine, and_self]

/-- The message with a number. -/
def numbered (number : Nat) : CassMsgRequest :=
  { messageData :=
      { sessionId := 1, senderId := 5, receiverId := 6, text := "hi" }
    messageId := number + 1
    deliveryId := number + 1 }

end CassStorage

end Storage

end TinyChat
