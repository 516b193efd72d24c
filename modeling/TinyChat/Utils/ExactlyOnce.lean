import TinyChat.Utils.AggregatorInvariant

/-!
# Every batch is executed once

The lock of a batch keeps a second caller from running the executor as long
as the batch owns it.  It is put back, and unlocked, when the executor ends.
If no caller of the batch waits any more at that time, every batch is
executed exactly once, and no two batches share a lock or an event.
-/

namespace TinyChat

namespace Utils

open Transition

namespace Aggregators

variable {Arg Res : Type}

/-- Every argument is in one batch of a bounded size; a batch whose callers
need not wait any more was executed once, as a whole; the future of every
caller gets the result at its own position, and so does the caller; batches
that are not finished have locks and events of their own. -/
structure ExactlyOnce (trace : List (AggregateEvent Arg Res))
    (process : Aggregators Arg Res) : Prop where
  listed : ∀ call batch position arg,
    .joined call batch position arg ∈ trace →
    (process.batches batch).args[position]? = some arg
  unique : ∀ call batch position arg other place same,
    .joined call batch position arg ∈ trace →
    .joined call other place same ∈ trace →
    batch = other ∧ position = place
  alone : ∀ call caller batch position arg same,
    .joined call batch position arg ∈ trace →
    .joined caller batch position same ∈ trace → call = caller
  filled : ∀ batch position,
    position < (process.batches batch).args.length →
    ∃ call arg, .joined call batch position arg ∈ trace
  bounded : ∀ batch < process.batchCount, ∀ aggregator count,
    process.aggregators (process.batches batch).owner = some aggregator →
    aggregator.maxCount = some count →
    (process.batches batch).args.length ≤ count
  once : (trace.filterMap executedBatch).Nodup
  whole : ∀ batch args, .executed batch args ∈ trace →
    args = (process.batches batch).args
  executed : ∀ call batch position arg,
    .joined call batch position arg ∈ trace →
    (∃ signalled, process.calls call = .waiting batch position signalled) ∨
      Executed trace batch
  settled : ∀ (batch : Nat) (results : List Res) (position : Nat)
    (value : Res), .answered batch results ∈ trace →
    position < (process.batches batch).args.length →
    results[position]? = some value →
    (process.batches batch).futures[position]? = some (.result value)
  received : ∀ call value, .received call (.result value) ∈ trace →
    ∃ batch position arg results,
      .joined call batch position arg ∈ trace ∧
      .answered batch results ∈ trace ∧ results[position]? = some value
  apart : ∀ first < process.batchCount, ∀ second < process.batchCount,
    ¬ Released trace first → ¬ Released trace second → first ≠ second →
    (process.batches first).lock ≠ (process.batches second).lock ∧
      (process.batches first).event ≠ (process.batches second).event

/-- An executor returns only when no caller of its batch waits any more. -/
def AllAwake (process : Aggregators Arg Res) :
    AggregateAction Arg Res → Prop
  | .finish call (.returned (some _)) | .finish call .timeout =>
      ∀ batch position, process.calls call = .executing batch position →
      ∀ other place signalled,
        process.calls other ≠ .waiting batch place signalled
  | _ => True

/-- Every result is that of an execution, at the same position. -/
structure Answers (trace : List (AggregateEvent Arg Res))
    (process : Aggregators Arg Res) : Prop where
  answered : ∀ (batch position : Nat) (value : Res),
    (process.batches batch).futures[position]? =
      some (Future.result value) →
    ∃ results, .answered batch results ∈ trace ∧
      results[position]? = some value
  received : ∀ call value, .received call (.result value) ∈ trace →
    ∃ batch position arg results,
      .joined call batch position arg ∈ trace ∧
      .answered batch results ∈ trace ∧ results[position]? = some value

/-- The batch is not executed, or its executor has not returned. -/
def Unfinished (trace : List (AggregateEvent Arg Res))
    (process : Aggregators Arg Res) (batch : Nat) : Prop :=
  ¬ Executed trace batch ∨
    ∃ call position, process.calls call = .executing batch position

/-- All futures of a batch are pending until its executor returns, and have
their results then. -/
structure Delivered (trace : List (AggregateEvent Arg Res))
    (process : Aggregators Arg Res) : Prop where
  pending : ∀ batch, Unfinished trace process batch →
    (process.batches batch).futures =
      List.replicate (process.batches batch).args.length .pending
  finished : ∀ batch results, .answered batch results ∈ trace →
    ¬ Unfinished trace process batch
  settled : ∀ (batch : Nat) (results : List Res) (position : Nat)
    (value : Res), .answered batch results ∈ trace →
    position < (process.batches batch).args.length →
    results[position]? = some value →
    (process.batches batch).futures[position]? = some (.result value)

/-- The sizes of the batches. -/
structure Capped (process : Aggregators Arg Res) : Prop where
  owned : ∀ batch < process.batchCount,
    process.aggregators (process.batches batch).owner ≠ none
  bounded : ∀ batch < process.batchCount, ∀ aggregator count,
    process.aggregators (process.batches batch).owner = some aggregator →
    aggregator.maxCount = some count →
    (process.batches batch).args.length ≤ count

/-- The batch that new callers join is not full. -/
def Open (process : Aggregators Arg Res) : Prop :=
  ∀ index aggregator count, process.aggregators index = some aggregator →
    aggregator.maxCount = some count →
    (process.batches aggregator.batch).args.length < count

variable {trace events : List (AggregateEvent Arg Res)}
  {process next : Aggregators Arg Res}

theorem settle_result {futures : List (Future Res)} {results : List Res}
    {position : Nat} {value : Res}
    (found : (settle futures results)[position]? =
      some (Future.result value)) :
    futures[position]? = some (Future.result value) ∨
      results[position]? = some value := by
  induction futures, results using settle.induct generalizing position with
  | case1 future futures result results induction =>
      cases position with
      | zero =>
          simp only [settle, List.getElem?_cons_zero,
            Option.some.injEq] at found
          cases future with
          | pending =>
              cases found
              exact Or.inr rfl
          | result | timeout | cancelled => exact Or.inl (congrArg some found)
      | succ position =>
          simp only [settle, List.getElem?_cons_succ] at found
          exact induction found
  | case2 futures results different =>
      rw [settle.eq_2 futures results different] at found
      exact Or.inl found

theorem execute_result {ended : Ending (Option (List Res))}
    {futures : List (Future Res)} {position : Nat} {value : Res}
    (found : (execute ended futures).1[position]? =
      some (Future.result value)) :
    futures[position]? = some (Future.result value) ∨
      ∃ results, ended = .returned (some results) ∧
        results[position]? = some value := by
  unfold execute at found
  split at found
  · rename_i results
    rcases settle_result found with before | given
    · exact Or.inl before
    · exact Or.inr ⟨results, rfl, given⟩
  · exact Or.inl found
  · rw [List.getElem?_map, Option.map_eq_some_iff] at found
    obtain ⟨future, present, set⟩ := found
    refine Or.inl (present.trans (congrArg some ?_))
    cases future with
    | pending => cases set
    | result | timeout | cancelled => exact set
  · exact Or.inl found
  · exact Or.inl found

namespace Answers

/-- What happens to the futures is answered, and what is received was in a
future. -/
theorem frame (answers : Answers trace process)
    (answered : ∀ (batch position : Nat) (value : Res),
      (next.batches batch).futures[position]? =
        some (Future.result value) →
      (process.batches batch).futures[position]? =
          some (Future.result value) ∨
        ∃ results, .answered batch results ∈ events ∧
          results[position]? = some value)
    (received : ∀ call value, .received call (.result value) ∈ events →
      ∃ batch position arg,
        .joined call batch position arg ∈ trace ∧
        (process.batches batch).futures[position]? =
          some (Future.result value)) :
    Answers (trace ++ events) next := by
  constructor
  case answered =>
    intro batch position value found
    rcases answered batch position value found with
      before | ⟨results, member, same⟩
    · obtain ⟨results, member, same⟩ :=
        answers.answered batch position value before
      exact ⟨results, List.mem_append_left _ member, same⟩
    · exact ⟨results, List.mem_append_right _ member, same⟩
  case received =>
    intro call value member
    rcases List.mem_append.mp member with old | new
    · obtain ⟨batch, position, arg, results, joined, given, same⟩ :=
        answers.received call value old
      exact ⟨batch, position, arg, results, List.mem_append_left _ joined,
        List.mem_append_left _ given, same⟩
    · obtain ⟨batch, position, arg, joined, found⟩ :=
        received call value new
      obtain ⟨results, given, same⟩ :=
        answers.answered batch position value found
      exact ⟨batch, position, arg, results, List.mem_append_left _ joined,
        List.mem_append_left _ given, same⟩

theorem keep (answers : Answers trace process)
    (futures : ∀ (batch position : Nat) (value : Res),
      (next.batches batch).futures[position]? =
        some (Future.result value) →
      (process.batches batch).futures[position]? =
        some (Future.result value))
    (quiet : ∀ call future, .received call future ∉ events) :
    Answers (trace ++ events) next :=
  answers.frame
    (fun batch position value found =>
      Or.inl (futures batch position value found))
    (fun call value member => absurd member (quiet call (.result value)))

theorem enter (answers : Answers trace process) (call batch : Nat)
    (arg : Arg) (signalled : Bool) (position : Nat) :
    Answers
      (trace ++ [AggregateEvent.joined call batch position arg])
      (process.enter call batch arg signalled) := by
  refine answers.keep ?_ (by simp)
  intro other place value found
  rw [enter_futures] at found
  split at found
  · rename_i same
    subst same
    rw [List.getElem?_append] at found
    split at found
    · exact found
    · rw [List.getElem?_singleton] at found
      split at found <;> cases found
  · exact found

theorem execute (answers : Answers trace process) (batch : Nat)
    (ended : Ending (Option (List Res))) :
    Answers (trace ++ Aggregators.answers batch ended)
      (process.withBatch batch
        { process.batches batch with
          futures := (execute ended (process.batches batch).futures).1 }) := by
  refine answers.frame ?_ ?_
  · intro other position value found
    by_cases same : other = batch
    · subst same
      simp only [withBatch, Function.update_self] at found
      rcases execute_result found with before | ⟨results, rfl, given⟩
      · exact Or.inl before
      · exact Or.inr ⟨results, List.mem_cons_self, given⟩
    · simp only [withBatch, Function.update_of_ne same] at found
      exact Or.inl found
  · intro call value member
    unfold Aggregators.answers at member
    split at member <;> simp at member

end Answers

theorem Capped.congr (capped : Capped process)
    (aggregators : next.aggregators = process.aggregators)
    (count : next.batchCount = process.batchCount)
    (batches : ∀ batch,
      (next.batches batch).owner = (process.batches batch).owner ∧
        (next.batches batch).args = (process.batches batch).args) :
    Capped next where
  owned := by
    intro batch below
    rw [count] at below
    rw [(batches batch).1, aggregators]
    exact capped.owned batch below
  bounded := by
    intro batch below
    rw [count] at below
    rw [(batches batch).1, (batches batch).2, aggregators]
    exact capped.bounded batch below

theorem Open.congr (opened : Open process)
    (aggregators : next.aggregators = process.aggregators)
    (batches : ∀ batch,
      (next.batches batch).args = (process.batches batch).args) :
    Open next := by
  intro index aggregator count
  rw [aggregators, batches]
  exact opened index aggregator count

theorem Capped.enter (capped : Capped process) {index batch : Nat}
    {aggregator : Aggregator}
    (found : process.aggregators index = some aggregator)
    (owner : (process.batches batch).owner = index)
    (room : ∀ count, aggregator.maxCount = some count →
      (process.batches batch).args.length < count)
    (call : Nat) (arg : Arg) (signalled : Bool) :
    Capped (process.enter call batch arg signalled) := by
  have owners : ∀ other,
      ((process.enter call batch arg signalled).batches other).owner =
        (process.batches other).owner := by
    intro other
    by_cases same : other = batch
    · subst same
      simp only [Aggregators.enter, withCall, join, withBatch,
        Function.update_self]
    · simp only [Aggregators.enter, withCall, join, withBatch,
        Function.update_of_ne same]
  constructor
  case owned =>
    intro other below
    rw [owners]
    exact capped.owned other below
  case bounded =>
    intro other below same count present maximum
    rw [owners] at present
    rw [enter_args]
    split
    · rename_i isBatch
      subst isBatch
      rw [owner] at present
      cases found.symm.trans present
      rw [List.length_append]
      exact room count maximum
    · exact capped.bounded other below same count present maximum

theorem Capped.clear (capped : Capped process) {index : Nat}
    {maxCount : Option Nat}
    (same : ∀ aggregator, process.aggregators index = some aggregator →
      aggregator.maxCount = maxCount) :
    Capped (process.clear index maxCount) := by
  constructor
  case owned =>
    intro batch below
    rcases Nat.lt_succ_iff_lt_or_eq.mp below with before | rfl
    · simp only [Aggregators.clear,
        Function.update_of_ne (Nat.ne_of_lt before)]
      by_cases isIndex : (process.batches batch).owner = index
      · rw [isIndex, Function.update_self]
        exact Option.some_ne_none _
      · rw [Function.update_of_ne isIndex]
        exact capped.owned batch before
    · simp [Aggregators.clear]
  case bounded =>
    intro batch below aggregator count found maximum
    rcases Nat.lt_succ_iff_lt_or_eq.mp below with before | rfl
    · have old : (process.clear index maxCount).batches batch =
          process.batches batch :=
        Function.update_of_ne (Nat.ne_of_lt before) ..
      rw [old] at found ⊢
      by_cases isIndex : (process.batches batch).owner = index
      · rw [isIndex] at found
        simp only [Aggregators.clear, Function.update_self,
          Option.some.injEq] at found
        subst found
        obtain ⟨earlier, present⟩ :=
          Option.ne_none_iff_exists'.mp (capped.owned batch before)
        refine capped.bounded batch before earlier count present ?_
        rw [isIndex] at present
        rw [same earlier present]
        exact maximum
      · simp only [Aggregators.clear, Function.update_of_ne isIndex]
          at found
        exact capped.bounded batch before aggregator count found maximum
    · simp [Aggregators.clear]

theorem Execution.open_clear (execution : Execution trace process)
    {index : Nat} {maxCount : Option Nat} (positive : maxCount ≠ some 0)
    (others : ∀ other aggregator count, other ≠ index →
      process.aggregators other = some aggregator →
      aggregator.maxCount = some count →
      (process.batches aggregator.batch).args.length < count) :
    Open (process.clear index maxCount) := by
  intro other aggregator count found maximum
  by_cases same : other = index
  · subst same
    simp only [Aggregators.clear, Function.update_self,
      Option.some.injEq] at found
    subst found
    simp only [Aggregators.clear, Function.update_self, List.length_nil]
    refine Nat.pos_of_ne_zero ?_
    rintro rfl
    exact positive maximum
  · simp only [Aggregators.clear, Function.update_of_ne same] at found ⊢
    obtain ⟨below, -, -⟩ := execution.current other aggregator found
    rw [Function.update_of_ne (Nat.ne_of_lt below)]
    exact others other aggregator count same found maximum

/-- What holds in all states of a step, also between its parts. -/
structure Sound (trace : List (AggregateEvent Arg Res))
    (process : Aggregators Arg Res) : Prop where
  membership : Membership trace process
  execution : Execution trace process
  answers : Answers trace process
  capped : Capped process

theorem proceed_frame (process : Aggregators Arg Res)
    (call batch position : Nat) :
    (process.proceed call batch position).1.aggregators =
        process.aggregators ∧
      (process.proceed call batch position).1.batches = process.batches ∧
      (process.proceed call batch position).1.batchCount =
        process.batchCount ∧
      (∃ phase : CallPhase, phase.place = some (batch, position) ∧
        (process.proceed call batch position).1.calls =
          Function.update process.calls call phase) ∧
      ∀ event ∈ (process.proceed call batch position).2,
        ∃ args, event = .executed batch args := by
  unfold proceed
  split
  · exact ⟨rfl, rfl, rfl, ⟨_, rfl, rfl⟩,
      fun _ member => absurd member List.not_mem_nil⟩
  · exact ⟨rfl, rfl, rfl, ⟨_, rfl, rfl⟩,
      fun _ member => ⟨_, List.mem_singleton.mp member⟩⟩

theorem place_update {calls : Nat → CallPhase} {call batch position : Nat}
    {signalled : Bool} {phase : CallPhase}
    (waiting : calls call = .waiting batch position signalled)
    (same : phase.place = some (batch, position)) (caller : Nat) :
    (Function.update calls call phase caller).place =
      (calls caller).place := by
  by_cases isCall : caller = call
  · subst isCall
    rw [Function.update_self, same, waiting]
    rfl
  · rw [Function.update_of_ne isCall]

theorem unused_update {calls : Nat → CallPhase} {call : Nat}
    {phase : CallPhase} (used : phase ≠ .unused) {caller : Nat}
    (unused : Function.update calls call phase caller = .unused) :
    calls caller = .unused := by
  by_cases isCall : caller = call
  · subst isCall
    rw [Function.update_self] at unused
    exact absurd unused used
  · rw [Function.update_of_ne isCall] at unused
    exact unused

namespace Sound

theorem signal (sound : Sound trace process) {batch : Nat}
    (holding : Holds trace process batch) :
    Sound trace (process.signal (process.batches batch).event) where
  membership := by
    have framed : Membership (trace ++ [])
        (process.signal (process.batches batch).event) := by
      refine sound.membership.frame (fun _ => Or.inl rfl) (Nat.le_refl _)
        ?_ ?_ (fun _ _ _ _ => List.not_mem_nil)
      · intro call unused
        simp only [Aggregators.signal] at unused
        split at unused
        · cases unused
        · exact unused
      · intro call place placed
        simp only [Aggregators.signal] at placed
        split at placed
        · rename_i phase
          rw [phase]
          exact placed
        · exact placed
    rw [List.append_nil] at framed
    exact framed
  execution := sound.execution.signal holding
  answers :=
    ⟨sound.answers.answered, sound.answers.received⟩
  capped := sound.capped.congr rfl rfl (fun _ => ⟨rfl, rfl⟩)

theorem clear (sound : Sound trace process) {index : Nat}
    {maxCount : Option Nat}
    (same : ∀ aggregator, process.aggregators index = some aggregator →
      aggregator.maxCount = maxCount) :
    Sound trace (process.clear index maxCount) where
  membership := by
    have framed : Membership (trace ++ [])
        (process.clear index maxCount) := by
      refine sound.membership.frame ?_ (Nat.le_succ _) (fun _ => id)
        (fun _ _ => id) (fun _ _ _ _ => List.not_mem_nil)
      intro batch
      by_cases isNew : batch = process.batchCount
      · subst isNew
        refine Or.inr ⟨Nat.le_refl _, ?_⟩
        simp only [Aggregators.clear, Function.update_self]
      · refine Or.inl ?_
        simp only [Aggregators.clear, Function.update_of_ne isNew]
    rw [List.append_nil] at framed
    exact framed
  execution := sound.execution.clear index maxCount
  answers := by
    refine ⟨?_, sound.answers.received⟩
    intro batch position value found
    by_cases isNew : batch = process.batchCount
    · subst isNew
      simp only [Aggregators.clear, Function.update_self,
        List.getElem?_nil] at found
      cases found
    · simp only [Aggregators.clear, Function.update_of_ne isNew] at found
      exact sound.answers.answered batch position value found
  capped := sound.capped.clear same

theorem proceed (sound : Sound trace process)
    {call batch position : Nat} {signalled : Bool}
    (waiting : process.calls call = .waiting batch position signalled)
    (closed : ∀ index aggregator,
      process.aggregators index = some aggregator →
      aggregator.batch ≠ batch) :
    Sound (trace ++ (process.proceed call batch position).2)
      (process.proceed call batch position).1 := by
  obtain ⟨aggregators, batches, count, ⟨phase, place, calls⟩, events⟩ :=
    process.proceed_frame call batch position
  constructor
  case membership =>
    refine sound.membership.frame ?_ ?_ ?_ ?_ ?_
    · intro other
      rw [batches]
      exact Or.inl rfl
    · exact Nat.le_of_eq count.symm
    · intro caller unused
      rw [calls] at unused
      refine unused_update ?_ unused
      rintro rfl
      cases place
    · intro caller spot placed
      rw [calls, place_update waiting place] at placed
      exact placed
    · intro caller other spot arg member
      obtain ⟨args, same⟩ := events _ member
      cases same
  case execution => exact sound.execution.proceed waiting closed
  case answers =>
    refine sound.answers.keep ?_ ?_
    · intro other spot value
      rw [batches]
      exact id
    · intro caller future member
      obtain ⟨args, same⟩ := events _ member
      cases same
  case capped =>
    refine sound.capped.congr aggregators count ?_
    intro other
    rw [batches]
    exact ⟨rfl, rfl⟩

theorem enter (sound : Sound trace process) {call index : Nat}
    {aggregator : Aggregator}
    (unused : process.calls call = .unused)
    (found : process.aggregators index = some aggregator)
    (opened : Open process) (arg : Arg) (signalled : Bool) :
    Sound
      (trace ++ [AggregateEvent.joined call aggregator.batch
        (process.batches aggregator.batch).args.length arg])
      (process.enter call aggregator.batch arg signalled) := by
  obtain ⟨below, owner, -⟩ :=
    sound.execution.current index aggregator found
  exact ⟨sound.membership.enter unused below arg signalled,
    sound.execution.enter unused found arg signalled,
    sound.answers.enter call aggregator.batch arg signalled _,
    sound.capped.enter found owner
      (fun count => opened index aggregator count found) call arg signalled⟩

theorem open_proceed (opened : Open process) (call batch position : Nat) :
    Open (process.proceed call batch position).1 := by
  obtain ⟨aggregators, batches, -⟩ :=
    process.proceed_frame call batch position
  exact opened.congr aggregators (fun other => by rw [batches])

theorem close (sound : Sound trace process)
    {call index position : Nat} {aggregator : Aggregator} {signalled : Bool}
    (found : process.aggregators index = some aggregator)
    (waiting : process.calls call =
      .waiting aggregator.batch position signalled)
    (positive : aggregator.maxCount ≠ some 0)
    (others : ∀ other same count, other ≠ index →
      process.aggregators other = some same →
      same.maxCount = some count →
      (process.batches same.batch).args.length < count) :
    Sound (trace ++ ((process.clear index aggregator.maxCount).proceed call
          aggregator.batch position).2)
        ((process.clear index aggregator.maxCount).proceed call
          aggregator.batch position).1 ∧
      Open ((process.clear index aggregator.maxCount).proceed call
        aggregator.batch position).1 := by
  obtain ⟨below, mine, -⟩ := sound.execution.current index aggregator found
  have cleared : Sound trace (process.clear index aggregator.maxCount) := by
    refine sound.clear ?_
    intro other present
    cases found.symm.trans present
    rfl
  refine ⟨cleared.proceed waiting ?_,
    open_proceed (sound.execution.open_clear positive others) _ _ _⟩
  intro other same present shared
  by_cases isIndex : other = index
  · subst isIndex
    simp only [Aggregators.clear, Function.update_self,
      Option.some.injEq] at present
    subst present
    exact Nat.ne_of_gt below shared
  · simp only [Aggregators.clear, Function.update_of_ne isIndex] at present
    obtain ⟨-, owner, -⟩ := sound.execution.current other same present
    rw [shared, mine] at owner
    exact isIndex owner.symm

/-- A call stops waiting for its batch, which it closes if nobody has. -/
theorem resume (sound : Sound trace process) (opened : Open process)
    {call batch position : Nat} {signalled : Bool}
    (waiting : process.calls call = .waiting batch position signalled) :
    Sound (trace ++ (process.resume call batch position).2)
        (process.resume call batch position).1 ∧
      Open (process.resume call batch position).1 := by
  unfold Aggregators.resume
  split
  · rw [List.append_nil]
    exact ⟨sound, opened⟩
  · rename_i aggregator found
    split
    · rename_i current
      subst current
      refine sound.close found waiting ?_
        (fun other same count _ => opened other same count)
      intro zero
      exact Nat.not_lt_zero _ (opened _ aggregator 0 found zero)
    · rename_i different
      refine ⟨sound.proceed waiting ?_, open_proceed opened _ _ _⟩
      intro index other present same
      obtain ⟨-, owner, -⟩ := sound.execution.current index other present
      rw [same] at owner
      rw [owner, present] at found
      cases found
      exact different same

theorem settle (sound : Sound trace process) (batch : Nat)
    (ended : Ending (Option (List Res))) :
    Sound (trace ++ Aggregators.answers batch ended)
      (process.withBatch batch
        { process.batches batch with
          futures := (execute ended (process.batches batch).futures).1 }) := by
  have quiet : ∀ event : AggregateEvent Arg Res,
      event ∈ Aggregators.answers batch ended →
      ∃ results, event = .answered batch results := by
    intro event member
    unfold Aggregators.answers at member
    split at member
    · exact ⟨_, List.mem_singleton.mp member⟩
    · cases member
  have fields : ∀ other,
      ((process.withBatch batch
        { process.batches batch with
          futures := (execute ended (process.batches batch).futures).1 }
        ).batches other).owner = (process.batches other).owner ∧
      ((process.withBatch batch
        { process.batches batch with
          futures := (execute ended (process.batches batch).futures).1 }
        ).batches other).args = (process.batches other).args := by
    intro other
    by_cases same : other = batch
    · subst same
      simp only [withBatch, Function.update_self, and_self]
    · simp only [withBatch, Function.update_of_ne same, and_self]
  constructor
  case membership =>
    refine sound.membership.frame (fun other => Or.inl (fields other).2)
      (Nat.le_refl _) (fun _ => id) (fun _ _ => id) ?_
    intro call other position arg member
    obtain ⟨results, same⟩ := quiet _ member
    cases same
  case execution => exact sound.execution.settle batch _ quiet
  case answers => exact sound.answers.execute batch ended
  case capped => exact sound.capped.congr rfl rfl fields

/-- The lock and the event of a batch that nobody waits for go back. -/
theorem release (sound : Sound trace process) {call batch position : Nat}
    (running : process.calls call = .executing batch position)
    (awake : ∀ caller place signalled,
      process.calls caller ≠ .waiting batch place signalled) :
    Sound (trace ++ [AggregateEvent.released batch])
      ((process.release batch).withCall call
        (.awaiting batch position)) := by
  constructor
  case membership =>
    refine sound.membership.frame (fun _ => Or.inl rfl) (Nat.le_refl _)
      (fun _ => unused_update CallPhase.noConfusion) ?_ (by simp)
    intro caller place placed
    by_cases same : caller = call
    · subst same
      rw [calls_withCall] at placed
      rw [running]
      exact placed
    · rw [calls_withCall_of_ne same] at placed
      exact placed
  case execution =>
    exact sound.execution.release running awake
      (fun _ _ _ => CallPhase.noConfusion) (fun _ _ => CallPhase.noConfusion)
  case answers => exact sound.answers.keep (fun _ _ _ => id) (by simp)
  case capped => exact sound.capped.congr rfl rfl (fun _ => ⟨rfl, rfl⟩)

theorem stop (sound : Sound trace process) {call : Nat}
    (active : ∀ batch position signalled,
      process.calls call ≠ .waiting batch position signalled)
    (quiet : ∀ event ∈ events, ∃ future batch position,
      event = .received call future ∧
        process.calls call = .awaiting batch position ∧
        (process.batches batch).futures[position]? = some future) :
    Sound (trace ++ events) (process.withCall call .ended) := by
  have unjoined : ∀ caller batch position arg,
      .joined caller batch position arg ∉ events := by
    intro caller batch position arg member
    obtain ⟨future, other, place, same, -⟩ := quiet _ member
    cases same
  constructor
  case membership =>
    refine sound.membership.frame (fun _ => Or.inl rfl) (Nat.le_refl _)
      (fun _ => unused_update CallPhase.noConfusion) ?_ unjoined
    intro caller place placed
    by_cases same : caller = call
    · subst same
      rw [calls_withCall] at placed
      cases placed
    · rw [calls_withCall_of_ne same] at placed
      exact placed
  case execution =>
    refine sound.execution.stop active ?_ unjoined
    intro event member
    obtain ⟨future, other, place, rfl, -⟩ := quiet event member
    exact ⟨rfl, by simp⟩
  case answers =>
    refine sound.answers.frame (fun _ _ _ => Or.inl) ?_
    intro caller value member
    obtain ⟨future, batch, position, same, awaiting, found⟩ :=
      quiet _ member
    cases same
    obtain ⟨arg, joined⟩ :=
      sound.membership.placed call batch position (by rw [awaiting]; rfl)
    exact ⟨batch, position, arg, joined, found⟩
  case capped => exact sound.capped.congr rfl rfl (fun _ => ⟨rfl, rfl⟩)

theorem finish (sound : Sound trace process)
    {call batch position : Nat}
    (running : process.calls call = .executing batch position)
    {ended : Ending (Option (List Res))}
    (awake : AllAwake process (.finish call ended)) :
    Sound (trace ++ (process.finish call batch position ended).2)
      (process.finish call batch position ended).1 := by
  have settled := sound.settle batch ended
  have active : ∀ other place signalled,
      process.calls call ≠ .waiting other place signalled := by
    intro other place signalled waiting
    cases running.symm.trans waiting
  match ended with
  | .returned (some results) =>
      have released :=
        settled.release running (awake batch position running)
      rw [List.append_assoc] at released
      exact released
  | .timeout =>
      have released :=
        settled.release running (awake batch position running)
      rw [List.append_assoc] at released
      exact released
  | .returned none | .other | .cancelled =>
      change Sound (trace ++ []) _ at settled
      rw [List.append_nil] at settled
      exact settled.stop active
        (fun _ member => absurd member List.not_mem_nil)

end Sound

theorem sound_initial : Sound [] ({} : Aggregators Arg Res) where
  membership :=
    { known := fun _ _ _ _ member => absurd member List.not_mem_nil
      unused := fun _ _ _ _ _ => List.not_mem_nil
      placed := fun _ _ _ found => by cases found
      unique := fun _ _ _ _ _ _ _ member => absurd member List.not_mem_nil
      alone := fun _ _ _ _ _ _ member => absurd member List.not_mem_nil
      filled := fun _ _ within => absurd within (Nat.not_lt_zero _) }
  execution :=
    { current := fun _ _ found => by cases found
      created := fun _ member => absurd member List.not_mem_nil
      once := List.nodup_nil
      whole := fun _ _ member => absurd member List.not_mem_nil
      left := fun _ _ _ _ member => absurd member List.not_mem_nil
      returned := fun _ member => absurd member List.not_mem_nil
      waits := fun _ _ _ _ => CallPhase.noConfusion
      runs := fun _ _ _ => CallPhase.noConfusion
      runner := fun _ _ _ _ _ => CallPhase.noConfusion
      locks := (ObjectPool.leased_empty _).congr
        (fun _ holding => Nat.not_lt_zero _ holding.1) (fun _ _ => rfl)
      locked := fun _ holding => absurd holding.1 (Nat.not_lt_zero _)
      events := (ObjectPool.leased_empty _).congr
        (fun _ holding => Nat.not_lt_zero _ holding.1) (fun _ _ => rfl) }
  answers :=
    { answered := fun _ _ _ found => by cases found
      received := fun _ _ member => absurd member List.not_mem_nil }
  capped :=
    { owned := fun _ below => absurd below (Nat.not_lt_zero _)
      bounded := fun _ below => absurd below (Nat.not_lt_zero _) }

theorem finish_frame (process : Aggregators Arg Res)
    (call batch position : Nat) (ended : Ending (Option (List Res))) :
    (process.finish call batch position ended).1.aggregators =
        process.aggregators ∧
      (process.finish call batch position ended).1.batches =
        Function.update process.batches batch
          { process.batches batch with
            futures := (execute ended (process.batches batch).futures).1 } ∧
      (∃ phase : CallPhase, (∀ other place, phase ≠ .executing other place) ∧
        (process.finish call batch position ended).1.calls =
          Function.update process.calls call phase) ∧
      ∀ event ∈ (process.finish call batch position ended).2,
        event = .released batch ∨ ∃ results,
          ended = .returned (some results) ∧
            event = .answered batch results := by
  match ended with
  | .returned (some results) =>
      refine ⟨rfl, rfl, ⟨.awaiting batch position, ?_, rfl⟩, ?_⟩
      · exact fun _ _ => CallPhase.noConfusion
      · intro event member
        rcases List.mem_cons.mp member with rfl | last
        · exact Or.inr ⟨results, rfl, rfl⟩
        · exact Or.inl (List.mem_singleton.mp last)
  | .timeout =>
      refine ⟨rfl, rfl, ⟨.awaiting batch position, ?_, rfl⟩, ?_⟩
      · exact fun _ _ => CallPhase.noConfusion
      · intro event member
        exact Or.inl (List.mem_singleton.mp member)
  | .returned none | .other | .cancelled =>
      refine ⟨rfl, rfl, ⟨.ended, ?_, rfl⟩, ?_⟩
      · exact fun _ _ => CallPhase.noConfusion
      · exact fun _ member => absurd member List.not_mem_nil

/-- The call that fills a batch need not be registered before it goes on. -/
theorem enter_full (process : Aggregators Arg Res) (call index batch : Nat)
    (arg : Arg) (maxCount : Option Nat) (event : Nat) :
    (((process.enter call batch arg true).signal event).clear index
        maxCount).proceed call batch (process.batches batch).args.length =
      (((process.join batch arg).signal event).clear index
        maxCount).proceed call batch
          (process.batches batch).args.length := by
  have calls : ∀ phase,
      Function.update ((process.enter call batch arg true).signal
        event).calls call phase =
      Function.update ((process.join batch arg).signal event).calls call
        phase := by
    intro phase
    funext caller
    by_cases same : caller = call
    · subst same
      rw [Function.update_self, Function.update_self]
    · rw [Function.update_of_ne same, Function.update_of_ne same]
      simp only [signal, enter, calls_withCall_of_ne same]
      rfl
  unfold proceed
  simp only [withCall, clear]
  rw [calls, calls]
  rfl

theorem Sound.enter_others (sound : Sound trace process)
    (opened : Open process) {index : Nat} {aggregator : Aggregator}
    (found : process.aggregators index = some aggregator) (call : Nat)
    (arg : Arg) (signalled : Bool) {other count : Nat} {same : Aggregator}
    (different : other ≠ index)
    (present : process.aggregators other = some same)
    (maximum : same.maxCount = some count) :
    ((process.enter call aggregator.batch arg signalled).batches
      same.batch).args.length < count := by
  rw [enter_args, if_neg]
  · exact opened other same count present maximum
  · intro shared
    obtain ⟨-, mine, -⟩ := sound.execution.current index aggregator found
    obtain ⟨-, owner, -⟩ := sound.execution.current other same present
    rw [shared, mine] at owner
    exact different owner.symm

theorem step_aggregate {call index : Nat} {aggregator : Aggregator}
    (unused : process.calls call = .unused)
    (found : process.aggregators index = some aggregator) {arg : Arg}
    (stepped : process.step (.aggregate call index arg) =
      some (next, events)) :
    (some ((process.batches aggregator.batch).args.length + 1) ≠
        aggregator.maxCount ∧
      events = [.joined call aggregator.batch
        (process.batches aggregator.batch).args.length arg] ∧
      ∃ signalled,
        next = process.enter call aggregator.batch arg signalled) ∨
    some ((process.batches aggregator.batch).args.length + 1) =
        aggregator.maxCount ∧
      ∃ more, events = .joined call aggregator.batch
          (process.batches aggregator.batch).args.length arg :: more ∧
        (((process.enter call aggregator.batch arg true).signal
          ((process.enter call aggregator.batch arg true).batches
            aggregator.batch).event).clear index
              aggregator.maxCount).proceed call aggregator.batch
                (process.batches aggregator.batch).args.length =
          (next, more) := by
  simp only [step, unused, found] at stepped
  split at stepped
  · rename_i full
    cases stepped
    refine Or.inr ⟨full, _, rfl, ?_⟩
    have event : ((process.enter call aggregator.batch arg true).batches
        aggregator.batch).event =
          (process.batches aggregator.batch).event := by
      simp only [enter, withCall, join, withBatch, Function.update_self]
    rw [event, enter_full]
  · rename_i room
    cases stepped
    exact Or.inl ⟨room, rfl, _, rfl⟩

theorem signal_awake {call batch position : Nat}
    (waiting : process.calls call = .waiting batch position true)
    (event : Nat) :
    (process.signal event).calls call = .waiting batch position true := by
  simp only [signal, waiting, Bool.true_or]

theorem enter_awake (process : Aggregators Arg Res) (call batch : Nat)
    (arg : Arg) :
    (process.enter call batch arg true).calls call =
      .waiting batch (process.batches batch).args.length true :=
  calls_withCall ..

theorem Sound.aggregate (sound : Sound trace process)
    (opened : Open process) {call index : Nat} {aggregator : Aggregator}
    (unused : process.calls call = .unused)
    (found : process.aggregators index = some aggregator) {arg : Arg}
    (stepped : process.step (.aggregate call index arg) =
      some (next, events)) :
    Sound (trace ++ events) next ∧ Open next := by
  rcases step_aggregate unused found stepped with
    ⟨room, rfl, signalled, rfl⟩ | ⟨full, more, rfl, proceeded⟩
  · refine ⟨sound.enter unused found opened arg signalled, ?_⟩
    intro other same count present maximum
    by_cases isIndex : other = index
    · subst isIndex
      cases found.symm.trans present
      have below := opened other aggregator count found maximum
      rw [enter_args, if_pos rfl, List.length_append, List.length_singleton]
      refine Nat.lt_of_le_of_ne below ?_
      rintro rfl
      exact room maximum.symm
    · exact sound.enter_others opened found call arg signalled isIndex
        present maximum
  · have entered := sound.enter unused found opened arg true
    have waiting := process.enter_awake call aggregator.batch arg
    have signalled :=
      entered.signal (entered.execution.waits call _ _ _ waiting)
    have closed := signalled.close found (signal_awake waiting _)
      (by rw [← full]; exact fun zero => by cases zero)
      (fun other same count => sound.enter_others opened found call arg true)
    rw [proceeded, List.append_assoc] at closed
    exact closed

theorem Sound.step (sound : Sound trace process) (opened : Open process)
    {action : AggregateAction Arg Res} (awake : AllAwake process action)
    (stepped : process.step action = some (next, events)) :
    Sound (trace ++ events) next ∧ Open next := by
  cases action with
  | create index maxCount =>
      simp only [Aggregators.step] at stepped
      split at stepped
      · cases stepped
      · rename_i missing
        split at stepped
        · cases stepped
        · rename_i positive
          cases stepped
          rw [List.append_nil]
          refine ⟨sound.clear ?_, sound.execution.open_clear positive
            (fun other same count _ => opened other same count)⟩
          intro aggregator found
          cases missing.symm.trans found
  | aggregate call index arg =>
      cases unused : process.calls call with
      | unused =>
          cases found : process.aggregators index with
          | none => simp [Aggregators.step, unused, found] at stepped
          | some aggregator =>
              exact sound.aggregate opened unused found stepped
      | waiting | executing | awaiting | ended =>
          simp [Aggregators.step, unused] at stepped
  | wake call =>
      simp only [Aggregators.step] at stepped
      split at stepped
      · rename_i batch position waiting
        have resumed := sound.resume opened waiting
        rw [Option.some.inj stepped] at resumed
        exact resumed
      · cases stepped
  | expire call =>
      simp only [Aggregators.step] at stepped
      split at stepped
      · rename_i batch position signalled waiting
        have resumed := sound.resume opened waiting
        rw [Option.some.inj stepped] at resumed
        exact resumed
      · cases stepped
  | finish call ended =>
      simp only [Aggregators.step] at stepped
      split at stepped
      · rename_i batch position running
        have finished := sound.finish running awake
        obtain ⟨aggregators, batches, -⟩ :=
          process.finish_frame call batch position ended
        rw [Option.some.inj stepped] at finished aggregators batches
        refine ⟨finished, opened.congr aggregators ?_⟩
        intro other
        rw [batches]
        by_cases same : other = batch
        · subst same
          rw [Function.update_self]
        · rw [Function.update_of_ne same]
      · cases stepped
  | receive call =>
      simp only [Aggregators.step] at stepped
      split at stepped
      · rename_i batch position awaiting
        split at stepped
        · rename_i future found
          split at stepped
          · cases stepped
            refine ⟨sound.stop ?_ ?_,
              opened.congr rfl (fun _ => rfl)⟩
            · intro other place signalled waiting
              cases awaiting.symm.trans waiting
            · intro event member
              exact ⟨future, batch, position, List.mem_singleton.mp member,
                awaiting, found⟩
          · cases stepped
        · cases stepped
      · cases stepped

theorem Unfinished.before {batch : Nat}
    (still : Unfinished (trace ++ events) next batch)
    (calls : ∀ call position,
      next.calls call = .executing batch position →
      process.calls call = .executing batch position) :
    Unfinished trace process batch := by
  rcases still with unexecuted | ⟨call, position, running⟩
  · refine Or.inl ?_
    intro executed
    exact unexecuted ((executed_append batch).mpr (Or.inl executed))
  · exact Or.inr ⟨call, position, calls call position running⟩

namespace Delivered

/-- At most one batch changes, whose futures are pending. -/
theorem frame (delivered : Delivered trace process) (batch : Nat)
    (others : ∀ other, next.batches other = process.batches other ∨
      other = batch ∧ Unfinished trace process batch ∧
        (next.batches batch).futures =
          List.replicate (next.batches batch).args.length .pending)
    (unfinished : ∀ other, Unfinished (trace ++ events) next other →
      Unfinished trace process other)
    (quiet : ∀ other results, .answered other results ∉ events) :
    Delivered (trace ++ events) next := by
  have before : ∀ {other results},
      .answered other results ∈ trace ++ events →
      .answered other results ∈ trace := by
    intro other results member
    rcases List.mem_append.mp member with old | new
    · exact old
    · exact absurd new (quiet other results)
  constructor
  case pending =>
    intro other still
    rcases others other with same | ⟨rfl, -, pending⟩
    · rw [same]
      exact delivered.pending other (unfinished other still)
    · exact pending
  case finished =>
    intro other results member still
    exact delivered.finished other results (before member)
      (unfinished other still)
  case settled =>
    intro other results position value member
    rcases others other with same | ⟨rfl, still, -⟩
    · rw [same]
      exact delivered.settled other results position value (before member)
    · exact absurd still (delivered.finished other results (before member))

theorem enter (delivered : Delivered trace process)
    (execution : Execution trace process) {index : Nat}
    {aggregator : Aggregator}
    (found : process.aggregators index = some aggregator)
    (call : Nat) (arg : Arg) (signalled : Bool) :
    Delivered
      (trace ++ [AggregateEvent.joined call aggregator.batch
        (process.batches aggregator.batch).args.length arg])
      (process.enter call aggregator.batch arg signalled) := by
  obtain ⟨-, -, unexecuted⟩ := execution.current index aggregator found
  refine delivered.frame aggregator.batch ?_ ?_ (by simp)
  · intro other
    by_cases same : other = aggregator.batch
    · refine Or.inr ⟨same, Or.inl unexecuted, ?_⟩
      rw [enter_futures, enter_args, if_pos rfl, if_pos rfl,
        delivered.pending _ (Or.inl unexecuted), List.length_append]
      exact List.replicate_succ'.symm
    · refine Or.inl ?_
      simp only [Aggregators.enter, withCall, join, withBatch,
        Function.update_of_ne same]
  · intro other still
    refine still.before ?_
    intro caller place running
    by_cases same : caller = call
    · subst same
      rw [Aggregators.enter, calls_withCall] at running
      cases running
    · rw [Aggregators.enter, calls_withCall_of_ne same] at running
      exact running

theorem signal (delivered : Delivered trace process) (event : Nat) :
    Delivered trace (process.signal event) := by
  have framed : Delivered (trace ++ []) (process.signal event) := by
    refine delivered.frame 0 (fun _ => Or.inl rfl) ?_
      (fun _ _ => List.not_mem_nil)
    intro other still
    refine still.before ?_
    intro call position running
    simp only [Aggregators.signal] at running
    split at running
    · cases running
    · exact running
  rw [List.append_nil] at framed
  exact framed

theorem clear (delivered : Delivered trace process)
    (execution : Execution trace process) (index : Nat)
    (maxCount : Option Nat) :
    Delivered trace (process.clear index maxCount) := by
  have framed : Delivered (trace ++ []) (process.clear index maxCount) := by
    refine delivered.frame process.batchCount ?_
      (fun other still => still.before (fun _ _ => id))
      (fun _ _ => List.not_mem_nil)
    intro other
    by_cases same : other = process.batchCount
    · refine Or.inr ⟨same, Or.inl ?_, ?_⟩
      · intro executed
        exact Nat.lt_irrefl _ (execution.created _ executed)
      · simp only [Aggregators.clear, Function.update_self,
          List.length_nil, List.replicate_zero]
    · refine Or.inl ?_
      simp only [Aggregators.clear, Function.update_of_ne same]
  rw [List.append_nil] at framed
  exact framed

theorem proceed (delivered : Delivered trace process)
    (execution : Execution trace process)
    {call batch position : Nat} {signalled : Bool}
    (waiting : process.calls call = .waiting batch position signalled) :
    Delivered (trace ++ (process.proceed call batch position).2)
      (process.proceed call batch position).1 := by
  obtain ⟨-, batches, -, -, events⟩ :=
    process.proceed_frame call batch position
  refine delivered.frame batch
    (fun other => Or.inl (congrFun batches other)) ?_ ?_
  · intro other still
    have holding := execution.waits call batch position signalled waiting
    unfold Aggregators.proceed at still
    split at still
    · refine still.before ?_
      intro caller place running
      by_cases same : caller = call
      · subst same
        rw [calls_withCall] at running
        cases running
      · rw [calls_withCall_of_ne same] at running
        exact running
    · rename_i unlocked
      by_cases same : other = batch
      · subst same
        refine Or.inl ?_
        intro executed
        exact unlocked ((execution.locked other holding).mpr executed)
      · refine still.before ?_
        intro caller place running
        by_cases isCall : caller = call
        · subst isCall
          have now : CallPhase.executing batch position =
              .executing other place :=
            (calls_withCall ..).symm.trans running
          cases now
          exact absurd rfl same
        · exact (calls_withCall_of_ne isCall _).symm.trans running
  · intro other results member
    obtain ⟨args, same⟩ := events _ member
    cases same

theorem finish (delivered : Delivered trace process)
    (execution : Execution trace process) {call batch position : Nat}
    (running : process.calls call = .executing batch position)
    (ended : Ending (Option (List Res))) :
    Delivered (trace ++ (process.finish call batch position ended).2)
      (process.finish call batch position ended).1 := by
  obtain ⟨-, batches, ⟨phase, idle, calls⟩, events⟩ :=
    process.finish_frame call batch position ended
  have earlier : ∀ {other},
      Unfinished (trace ++ (process.finish call batch position ended).2)
        (process.finish call batch position ended).1 other →
      other ≠ batch ∧ Unfinished trace process other := by
    intro other still
    have before : ∀ caller place,
        (process.finish call batch position ended).1.calls caller =
          .executing other place →
        caller ≠ call ∧ process.calls caller = .executing other place := by
      intro caller place now
      rw [calls] at now
      by_cases same : caller = call
      · subst same
        rw [Function.update_self] at now
        exact absurd now (idle other place)
      · rw [Function.update_of_ne same] at now
        exact ⟨same, now⟩
    refine ⟨?_, still.before (fun caller place now =>
      (before caller place now).2)⟩
    rintro rfl
    rcases still with unexecuted | ⟨caller, place, now⟩
    · exact unexecuted ((executed_append other).mpr
        (Or.inl (execution.runs call other position running).1))
    · obtain ⟨different, was⟩ := before caller place now
      exact different
        (execution.runner caller call other place position was running)
  have pending := delivered.pending batch (Or.inr ⟨call, position, running⟩)
  constructor
  case pending =>
    intro other still
    obtain ⟨different, was⟩ := earlier still
    rw [batches, Function.update_of_ne different]
    exact delivered.pending other was
  case finished =>
    intro other results member still
    obtain ⟨different, was⟩ := earlier still
    rcases List.mem_append.mp member with old | new
    · exact delivered.finished other results old was
    · rcases events _ new with same | ⟨given, -, same⟩
      · cases same
      · cases same
        exact different rfl
  case settled =>
    intro other results place value member within found
    rw [batches] at within ⊢
    by_cases same : other = batch
    · subst same
      rw [Function.update_self] at within ⊢
      rcases List.mem_append.mp member with old | new
      · exact absurd (Or.inr ⟨call, position, running⟩)
          (delivered.finished other results old)
      · rcases events _ new with released | ⟨given, rfl, same⟩
        · cases released
        · cases same
          simp only [execute, pending]
          exact settle_pending within found
    · rw [Function.update_of_ne same] at within ⊢
      rcases List.mem_append.mp member with old | new
      · exact delivered.settled other results place value old within found
      · rcases events _ new with released | ⟨given, -, isBatch⟩
        · cases released
        · cases isBatch
          exact absurd rfl same

theorem stop (delivered : Delivered trace process) (call : Nat)
    (future : Future Res) :
    Delivered (trace ++ [AggregateEvent.received call future])
      (process.withCall call .ended) := by
  refine delivered.frame 0 (fun _ => Or.inl rfl) ?_ (by simp)
  intro other still
  refine still.before ?_
  intro caller position running
  by_cases same : caller = call
  · subst same
    rw [calls_withCall] at running
    cases running
  · rw [calls_withCall_of_ne same] at running
    exact running

theorem resume (delivered : Delivered trace process)
    (execution : Execution trace process)
    {call batch position : Nat} {signalled : Bool}
    (waiting : process.calls call = .waiting batch position signalled) :
    Delivered (trace ++ (process.resume call batch position).2)
      (process.resume call batch position).1 := by
  unfold Aggregators.resume
  split
  · rw [List.append_nil]
    exact delivered
  · split
    · exact (delivered.clear execution ..).proceed (execution.clear ..)
        waiting
    · exact delivered.proceed execution waiting

theorem aggregate (delivered : Delivered trace process)
    (execution : Execution trace process) {call index : Nat}
    {aggregator : Aggregator} (unused : process.calls call = .unused)
    (found : process.aggregators index = some aggregator) {arg : Arg}
    (stepped : process.step (.aggregate call index arg) =
      some (next, events)) :
    Delivered (trace ++ events) next := by
  rcases step_aggregate unused found stepped with
    ⟨-, rfl, signalled, rfl⟩ | ⟨-, more, rfl, proceeded⟩
  · exact delivered.enter execution found call arg signalled
  · have entered := execution.enter unused found arg true
    have waiting := process.enter_awake call aggregator.batch arg
    have signalled := entered.signal (entered.waits call _ _ _ waiting)
    have signals := (delivered.enter execution found call arg true).signal
      ((process.enter call aggregator.batch arg true).batches
        aggregator.batch).event
    have closed := (signals.clear signalled index
      aggregator.maxCount).proceed (signalled.clear ..)
        (signal_awake waiting _)
    rw [proceeded, List.append_assoc] at closed
    exact closed

theorem step (delivered : Delivered trace process)
    (execution : Execution trace process)
    {action : AggregateAction Arg Res}
    (stepped : process.step action = some (next, events)) :
    Delivered (trace ++ events) next := by
  cases action with
  | create index maxCount =>
      simp only [Aggregators.step] at stepped
      split at stepped
      · cases stepped
      · split at stepped
        · cases stepped
        · cases stepped
          rw [List.append_nil]
          exact delivered.clear execution index maxCount
  | aggregate call index arg =>
      cases unused : process.calls call with
      | unused =>
          cases found : process.aggregators index with
          | none => simp [Aggregators.step, unused, found] at stepped
          | some aggregator =>
              exact delivered.aggregate execution unused found stepped
      | waiting | executing | awaiting | ended =>
          simp [Aggregators.step, unused] at stepped
  | wake call =>
      simp only [Aggregators.step] at stepped
      split at stepped
      · rename_i batch position waiting
        have resumed := delivered.resume execution waiting
        rw [Option.some.inj stepped] at resumed
        exact resumed
      · cases stepped
  | expire call =>
      simp only [Aggregators.step] at stepped
      split at stepped
      · rename_i batch position signalled waiting
        have resumed := delivered.resume execution waiting
        rw [Option.some.inj stepped] at resumed
        exact resumed
      · cases stepped
  | finish call ended =>
      simp only [Aggregators.step] at stepped
      split at stepped
      · rename_i batch position running
        have finished := delivered.finish execution running ended
        rw [Option.some.inj stepped] at finished
        exact finished
      · cases stepped
  | receive call =>
      simp only [Aggregators.step] at stepped
      split at stepped
      · split at stepped
        · split at stepped
          · cases stepped
            exact delivered.stop call _
          · cases stepped
        · cases stepped
      · cases stepped

end Delivered

theorem delivered_initial :
    Delivered [] ({} : Aggregators Arg Res) where
  pending := fun _ _ => rfl
  finished := fun _ _ member => absurd member List.not_mem_nil
  settled := fun _ _ _ _ member => absurd member List.not_mem_nil

/-- Every batch is executed once, provided that an executor returns only when
no caller of its batch waits any more. -/
theorem run_exactlyOnce
    (run : Run step AllAwake ({} : Aggregators Arg Res) trace process) :
    ExactlyOnce trace process := by
  obtain ⟨⟨sound, -⟩, delivered⟩ :
      (Sound trace process ∧ Open process) ∧ Delivered trace process := by
    induction run with
    | refl =>
        exact ⟨⟨sound_initial, fun _ _ _ found => by cases found⟩,
          delivered_initial⟩
    | snoc _ awake stepped before =>
        obtain ⟨⟨sound, opened⟩, delivered⟩ := before
        exact ⟨sound.step opened awake stepped,
          delivered.step sound.execution stepped⟩
  constructor
  case listed =>
    intro call batch position arg member
    exact (sound.membership.known call batch position arg member).2
  case unique => exact sound.membership.unique
  case alone => exact sound.membership.alone
  case filled => exact sound.membership.filled
  case bounded => exact sound.capped.bounded
  case once => exact sound.execution.once
  case whole => exact sound.execution.whole
  case executed => exact sound.execution.left
  case settled => exact delivered.settled
  case received => exact sound.answers.received
  case apart =>
    intro first before second below one two different
    refine ⟨?_, ?_⟩
    · intro shared
      exact different (sound.execution.locks.distinct first second
        ⟨before, one⟩ ⟨below, two⟩ shared)
    · intro shared
      exact different (sound.execution.events.distinct first second
        ⟨before, one⟩ ⟨below, two⟩ shared)

/-- Two callers fill a batch; the first of them wakes up before the executor
that the second one runs returns. -/
theorem run_exactlyOnce_two_callers :
    ∃ process, Run step AllAwake ({} : Aggregators Nat Nat)
        [.joined 0 0 0 7, .joined 1 0 1 8, .executed 0 [7, 8],
          .answered 0 [70, 80], .released 0, .received 0 (.result 70),
          .received 1 (.result 80)] process ∧
      ExactlyOnce
        [.joined 0 0 0 7, .joined 1 0 1 8, .executed 0 [7, 8],
          .answered 0 [70, 80], .released 0, .received 0 (.result 70),
          .received 1 (.result 80)] process := by
  have start : Run step AllAwake ({} : Aggregators Nat Nat) [] {} := .refl
  have run := (((((start.act
      (.create 0 (some 2)) trivial rfl).act
      (.aggregate 0 0 7) trivial rfl).act
      (.aggregate 1 0 8) trivial rfl).act
      (.wake 0) trivial rfl).act
      (.finish 1 (.returned (some [70, 80]))) (by
        intro batch position running other place signalled waiting
        match other with
        | 0 => cases waiting
        | 1 => cases waiting
        | _ + 2 => cases waiting) rfl).act
      (.receive 0) trivial rfl
  exact ⟨_, run.act (.receive 1) trivial rfl,
    run_exactlyOnce (run.act (.receive 1) trivial rfl)⟩

/-- Both callers wait until the leeway is over; the executor that the first
of them runs returns before the second one wakes up, which runs it again and
puts the lock and the event back once more. -/
theorem executes_batch_twice :
    ∃ process, AnyRun step ({} : Aggregators Nat Nat)
        [.joined 0 0 0 7, .joined 1 0 1 8, .executed 0 [7, 8],
          .answered 0 [70, 80], .released 0, .executed 0 [7, 8],
          .answered 0 [70, 80], .released 0] process ∧
      ¬ ExactlyOnce
        [.joined 0 0 0 7, .joined 1 0 1 8, .executed 0 [7, 8],
          .answered 0 [70, 80], .released 0, .executed 0 [7, 8],
          .answered 0 [70, 80], .released 0] process := by
  have start : AnyRun step ({} : Aggregators Nat Nat) [] {} := .refl
  have run := (((((start.act
      (.create 0 none) trivial rfl).act
      (.aggregate 0 0 7) trivial rfl).act
      (.aggregate 1 0 8) trivial rfl).act
      (.expire 0) trivial rfl).act
      (.finish 0 (.returned (some [70, 80]))) trivial rfl).act
      (.expire 1) trivial rfl
  refine ⟨_, run.act (.finish 1 (.returned (some [70, 80]))) trivial rfl, ?_⟩
  intro exactlyOnce
  exact absurd exactlyOnce.once (by decide)

end Aggregators

end Utils

end TinyChat
