import TinyChat.Redis.Handlers
import TinyChat.Utils.Aggregator

/-!
# Batches of the Redis service

`redis_read_batch` and `redis_write_batch` are the executors of the
aggregators of the client.  The first one returns the results, over which the
aggregator iterates; the second one sets the futures itself.  Every future of
a batch is done afterwards unless the caller that runs the batch is cancelled
or the results do not reach all of them.
-/

namespace TinyChat

namespace Redis

open Utils

/-- How the `put` of a task on its channel and the wait for its waiter end:
the caller is cancelled while the channel is full, the `put` leaves too
little time, the waiter has a result, the time is over, or the caller is
cancelled while it waits. -/
inductive Turn where
  | stuck
  | late
  | answered (data : Reply)
  | timeout
  | cancelled
  deriving DecidableEq

/-- `redis_read` and `redis_write` differ in the channel only. -/
def request (closing : Bool) (turn : Turn) : Ending Reply :=
  if closing then .returned .absent
  else
    match turn with
    | .stuck | .cancelled => .cancelled
    | .late => .returned .absent
    | .answered data => .returned data
    | .timeout => .timeout

def redisRead (closing : Bool) (turn : Turn) : Ending Reply :=
  request closing turn

def redisWrite (closing : Bool) (turn : Turn) : Ending Reply :=
  request closing turn

/-- What `zip` finds in a result. -/
def Reply.iterate : Reply → Option (List Reply)
  | .list items => some (items.map (fun item =>
      match item with
      | some content => .bytes content
      | none => .absent))
  | .bytes content =>
      some (content.toList.map (fun byte => .number byte.toNat))
  | .dict entries => some (entries.map (fun entry => .bytes entry.1))
  | .absent | .truth _ | .number _ | .rate _ => none

/-- A batch of one message takes the path of a single task. -/
def redisReadBatch (closing : Bool) (messages : List (List Scalar))
    (turn : Turn) : Ending (Option (List Reply)) :=
  if closing then
    .returned (some (List.replicate messages.length .absent))
  else
    match messages with
    | [_] =>
        match redisRead closing turn with
        | .returned data => .returned (some [data])
        | .timeout => .timeout
        | .other => .other
        | .cancelled => .cancelled
    | _ =>
        match turn with
        | .stuck | .cancelled => .cancelled
        | .late =>
            .returned (some (List.replicate messages.length .absent))
        | .answered data => .returned data.iterate
        | .timeout => .timeout

def redisWriteBatch (closing : Bool) (messages : List (List Scalar))
    (futures : List (Future Reply)) (turn : Turn) :
    List (Future Reply) × Ending Unit :=
  if closing then
    (futures.map (Future.setResult .absent), .returned ())
  else
    match messages, futures with
    | [_], [] => (futures, .other)
    | [_], future :: rest =>
        match redisWrite closing turn with
        | .returned data => (future.setResult data :: rest, .returned ())
        | .timeout => (future.setTimeout :: rest, .returned ())
        | .other => (futures, .other)
        | .cancelled => (futures, .cancelled)
    | _, _ =>
        match turn with
        | .stuck | .cancelled => (futures, .cancelled)
        | .late => (futures.map (Future.setResult .absent), .returned ())
        | .answered data => (futures.map (Future.setResult data), .returned ())
        | .timeout => (futures.map Future.setTimeout, .returned ())

/-- The task of a batch, unless its type number is not in use. -/
def batchTask (taskType : RedisTaskType) :
    List (List Scalar) → Option (RedisTaskType × List Argument)
  | [message] => some (taskType, message.map .scalar)
  | messages =>
      taskType.batched.map (fun batched => (batched, messages.map .tuple))

/-- The executor of the task of a batch. -/
def executeBatch {σ : Type} (backend : Backend σ) (taskType : RedisTaskType)
    (messages : List (List Scalar)) (state : σ) : Option Reply × σ :=
  match batchTask taskType messages with
  | some (batched, data) => execute backend batched data state
  | none => (none, state)

/-- How a batch is executed: by an `Aggregator` whose executor ends somehow,
by an `Aggregator` over `redis_read_batch`, or by an `AsyncAggregator` over
`redis_write_batch`. -/
inductive BatchRun where
  | aggregator (ended : Ending (Option (List Reply)))
  | read (closing : Bool) (turn : Turn)
  | write (closing : Bool) (turn : Turn)

/-- The futures of a batch when the caller that runs it leaves `_execute`. -/
def BatchRun.leave (entries : List (List Scalar × Future Reply)) :
    BatchRun → List (Future Reply)
  | .aggregator ended => (Utils.execute ended (entries.map Prod.snd)).1
  | .read closing turn =>
      (Utils.execute (redisReadBatch closing (entries.map Prod.fst) turn)
        (entries.map Prod.snd)).1
  | .write closing turn =>
      (redisWriteBatch closing (entries.map Prod.fst)
        (entries.map Prod.snd) turn).1

def AllDone (futures : List (Future Reply)) : Prop :=
  ∀ future ∈ futures, future.done = true

instance (futures : List (Future Reply)) : Decidable (AllDone futures) :=
  inferInstanceAs (Decidable (∀ future ∈ futures, future.done = true))

/-- The results reach every future that is pending. -/
def Covers (results : List Reply) (futures : List (Future Reply)) : Prop :=
  ∀ position : Nat, futures[position]? = some .pending →
    position < results.length

/-- What must be known about an executor, the service and the task on the
channel. -/
def BatchRun.Reaches (entries : List (List Scalar × Future Reply)) :
    BatchRun → Prop
  | .aggregator .timeout => True
  | .aggregator (.returned (some results)) =>
      Covers results (entries.map Prod.snd)
  | .aggregator _ => False
  | .read closing turn =>
      closing = true ∨ turn = .late ∨ turn = .timeout ∨
        ∃ data, turn = .answered data ∧ (entries.length = 1 ∨
          ∃ results, data.iterate = some results ∧
            Covers results (entries.map Prod.snd))
  | .write closing turn =>
      closing = true ∨ turn ≠ .stuck ∧ turn ≠ .cancelled

theorem allDone_setResult (futures : List (Future Reply)) (data : Reply) :
    AllDone (futures.map (Future.setResult data)) := by
  intro future member
  obtain ⟨before, -, rfl⟩ := List.mem_map.mp member
  cases before <;> rfl

theorem allDone_setTimeout (futures : List (Future Reply)) :
    AllDone (futures.map Future.setTimeout) := by
  intro future member
  obtain ⟨before, -, rfl⟩ := List.mem_map.mp member
  cases before <;> rfl

theorem allDone_cons (future : Future Reply) (futures : List (Future Reply)) :
    AllDone (future :: futures) ↔ future.done = true ∧ AllDone futures :=
  List.forall_mem_cons

theorem covers_cons (result : Reply) (results : List Reply)
    (future : Future Reply) (futures : List (Future Reply)) :
    Covers (result :: results) (future :: futures) ↔
      Covers results futures := by
  constructor
  · intro covers position pending
    exact Nat.lt_of_succ_lt_succ (covers (position + 1) pending)
  · intro covers position pending
    cases position with
    | zero => exact Nat.zero_lt_succ _
    | succ position => exact Nat.succ_lt_succ (covers position pending)

/-- Without results, only a batch that is done is covered. -/
theorem covers_nil (futures : List (Future Reply)) :
    Covers [] futures ↔ AllDone futures := by
  constructor
  · intro covers future member
    obtain ⟨position, found⟩ := List.mem_iff_getElem?.mp member
    cases future with
    | pending => exact absurd (covers position found) (Nat.not_lt_zero _)
    | result | timeout | cancelled => rfl
  · intro done position pending
    cases done _ (List.mem_of_getElem? pending)

theorem allDone_settle (futures : List (Future Reply))
    (results : List Reply) :
    AllDone (settle futures results) ↔ Covers results futures := by
  induction futures generalizing results with
  | nil =>
      constructor
      · intro _ position pending
        cases pending
      · intro _ future member
        cases results <;> cases member
  | cons future futures induction =>
      cases results with
      | nil => exact (covers_nil (future :: futures)).symm
      | cons result results =>
          rw [settle, allDone_cons, covers_cons, induction]
          apply and_iff_right
          cases future <;> rfl

theorem covers_of_allDone {futures : List (Future Reply)}
    (done : AllDone futures) (results : List Reply) :
    Covers results futures := by
  intro position pending
  cases done _ (List.mem_of_getElem? pending)

theorem covers_of_length {futures : List (Future Reply)}
    {results : List Reply} (length : futures.length ≤ results.length) :
    Covers results futures := by
  intro position pending
  obtain ⟨within, -⟩ := List.getElem?_eq_some_iff.mp pending
  exact Nat.lt_of_lt_of_le within length

theorem allDone_execute (entries : List (List Scalar × Future Reply))
    (ended : Ending (Option (List Reply))) :
    AllDone (Utils.execute ended (entries.map Prod.snd)).1 ↔
      AllDone (entries.map Prod.snd) ∨
        BatchRun.Reaches entries (.aggregator ended) := by
  match ended with
  | .returned (some results) =>
      rw [Utils.execute, allDone_settle]
      exact (or_iff_right_of_imp (covers_of_allDone · results)).symm
  | .timeout =>
      exact iff_of_true (allDone_setTimeout _) (Or.inr trivial)
  | .returned none | .other | .cancelled =>
      exact (or_iff_left not_false).symm

theorem covers_replicate (entries : List (List Scalar × Future Reply)) :
    Covers (List.replicate (entries.map Prod.fst).length .absent)
      (entries.map Prod.snd) := by
  apply covers_of_length
  simp

theorem reaches_redisReadBatch
    (entries : List (List Scalar × Future Reply)) (closing : Bool)
    (turn : Turn) :
    BatchRun.Reaches entries
        (.aggregator (redisReadBatch closing (entries.map Prod.fst) turn)) ↔
      BatchRun.Reaches entries (.read closing turn) := by
  cases closing with
  | true => exact iff_of_true (covers_replicate entries) (Or.inl rfl)
  | false =>
      match entries with
      | [entry] =>
          cases turn with
          | stuck | cancelled =>
              exact iff_of_false not_false (by simp [BatchRun.Reaches])
          | timeout => exact iff_of_true trivial (by simp [BatchRun.Reaches])
          | late =>
              exact iff_of_true (covers_of_length (Nat.le_refl 1))
                (by simp [BatchRun.Reaches])
          | answered data =>
              exact iff_of_true (covers_of_length (Nat.le_refl 1))
                (by simp [BatchRun.Reaches])
      | [] | _ :: _ :: _ =>
          cases turn with
          | stuck | cancelled =>
              exact iff_of_false not_false (by simp [BatchRun.Reaches])
          | timeout => exact iff_of_true trivial (by simp [BatchRun.Reaches])
          | late =>
              exact iff_of_true (covers_replicate _)
                (by simp [BatchRun.Reaches])
          | answered data =>
              cases iterated : data.iterate with
              | none =>
                  simp [BatchRun.Reaches, redisReadBatch, iterated]
              | some results =>
                  simp [BatchRun.Reaches, redisReadBatch, iterated]

theorem allDone_redisWriteBatch
    (entries : List (List Scalar × Future Reply)) (closing : Bool)
    (turn : Turn) :
    AllDone (redisWriteBatch closing (entries.map Prod.fst)
        (entries.map Prod.snd) turn).1 ↔
      AllDone (entries.map Prod.snd) ∨
        BatchRun.Reaches entries (.write closing turn) := by
  cases closing with
  | true => exact iff_of_true (allDone_setResult _ _) (Or.inr (Or.inl rfl))
  | false =>
      match entries with
      | [entry] =>
          cases turn with
          | stuck | cancelled =>
              simp [BatchRun.Reaches, redisWriteBatch, redisWrite, request]
          | timeout =>
              exact iff_of_true (allDone_setTimeout [entry.2])
                (by simp [BatchRun.Reaches])
          | late =>
              exact iff_of_true (allDone_setResult [entry.2] .absent)
                (by simp [BatchRun.Reaches])
          | answered data =>
              exact iff_of_true (allDone_setResult [entry.2] data)
                (by simp [BatchRun.Reaches])
      | [] | _ :: _ :: _ =>
          cases turn with
          | stuck | cancelled =>
              simp [BatchRun.Reaches, redisWriteBatch]
          | timeout =>
              exact iff_of_true (allDone_setTimeout _)
                (by simp [BatchRun.Reaches])
          | late =>
              exact iff_of_true (allDone_setResult _ _)
                (by simp [BatchRun.Reaches])
          | answered data =>
              exact iff_of_true (allDone_setResult _ _)
                (by simp [BatchRun.Reaches])

/-- Every future of a batch is done when the caller that runs the batch
leaves `_execute`, exactly if it was done before or is reached. -/
theorem released_iff (entries : List (List Scalar × Future Reply))
    (run : BatchRun) :
    AllDone (run.leave entries) ↔
      AllDone (entries.map Prod.snd) ∨ run.Reaches entries := by
  cases run with
  | aggregator ended => exact allDone_execute entries ended
  | read closing turn =>
      rw [← reaches_redisReadBatch entries closing turn]
      exact allDone_execute entries _
  | write closing turn => exact allDone_redisWriteBatch entries closing turn

/-- The reader reports the failure of a batch of two with `None`, over which
`zip` fails. -/
theorem failed_batch_leaves_pending :
    ¬ AllDone (BatchRun.leave
      [([.text "a"], .pending), ([.text "b"], .pending)]
      (.read false (.answered .absent))) := by
  decide

end Redis

end TinyChat
