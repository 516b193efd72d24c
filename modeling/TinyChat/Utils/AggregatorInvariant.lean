import TinyChat.Utils.Aggregator

/-!
# The callers and the locks of batches

As long as a batch has its lock and its event, no other batch has them, and
the lock is taken if and only if the batch was executed.
-/

namespace TinyChat

namespace Utils

open Transition

/-- The batch of a call that has not ended, and its position there. -/
def CallPhase.place : CallPhase → Option (Nat × Nat)
  | .waiting batch position _ | .executing batch position
  | .awaiting batch position => some (batch, position)
  | .unused | .ended => none

namespace Aggregators

variable {Arg Res : Type}

/-- The batch whose arguments an event passes to the executor. -/
def executedBatch : AggregateEvent Arg Res → Option Nat
  | .executed batch _ => some batch
  | _ => none

def Executed (trace : List (AggregateEvent Arg Res)) (batch : Nat) : Prop :=
  batch ∈ trace.filterMap executedBatch

def Released (trace : List (AggregateEvent Arg Res)) (batch : Nat) : Prop :=
  .released batch ∈ trace

/-- What the trace says about the callers of the batches. -/
structure Membership (trace : List (AggregateEvent Arg Res))
    (process : Aggregators Arg Res) : Prop where
  known : ∀ call batch position arg,
    .joined call batch position arg ∈ trace →
    batch < process.batchCount ∧
      (process.batches batch).args[position]? = some arg
  unused : ∀ call, process.calls call = .unused →
    ∀ batch position arg, .joined call batch position arg ∉ trace
  placed : ∀ call batch position,
    (process.calls call).place = some (batch, position) →
    ∃ arg, .joined call batch position arg ∈ trace
  unique : ∀ call batch position arg other place same,
    .joined call batch position arg ∈ trace →
    .joined call other place same ∈ trace →
    batch = other ∧ position = place
  alone : ∀ call caller batch position arg same,
    .joined call batch position arg ∈ trace →
    .joined caller batch position same ∈ trace → call = caller
  filled : ∀ batch position,
    position < (process.batches batch).args.length →
    ∃ call arg, .joined call batch position arg ∈ trace

/-- The batch was created and its lock and event are not put back. -/
def Holds (trace : List (AggregateEvent Arg Res))
    (process : Aggregators Arg Res) (batch : Nat) : Prop :=
  batch < process.batchCount ∧ ¬ Released trace batch

/-- What the locks of the batches say about their execution. -/
structure Execution (trace : List (AggregateEvent Arg Res))
    (process : Aggregators Arg Res) : Prop where
  current : ∀ index aggregator,
    process.aggregators index = some aggregator →
    aggregator.batch < process.batchCount ∧
      (process.batches aggregator.batch).owner = index ∧
      ¬ Executed trace aggregator.batch
  created : ∀ batch, Executed trace batch → batch < process.batchCount
  once : (trace.filterMap executedBatch).Nodup
  whole : ∀ batch args, .executed batch args ∈ trace →
    args = (process.batches batch).args
  left : ∀ call batch position arg,
    .joined call batch position arg ∈ trace →
    (∃ signalled, process.calls call = .waiting batch position signalled) ∨
      Executed trace batch
  returned : ∀ batch, Released trace batch → Executed trace batch
  waits : ∀ call batch position signalled,
    process.calls call = .waiting batch position signalled →
    Holds trace process batch
  runs : ∀ call batch position,
    process.calls call = .executing batch position →
    Executed trace batch ∧ Holds trace process batch
  runner : ∀ call caller batch position place,
    process.calls call = .executing batch position →
    process.calls caller = .executing batch place → call = caller
  locks : process.locks.Leased (Holds trace process)
    (fun batch => (process.batches batch).lock)
  locked : ∀ batch, Holds trace process batch →
    (process.locks.flag (process.batches batch).lock = true ↔
      Executed trace batch)
  events : process.events.Leased (Holds trace process)
    (fun batch => (process.batches batch).event)

variable {trace events : List (AggregateEvent Arg Res)}
  {process next : Aggregators Arg Res}

theorem executed_append (batch : Nat) :
    Executed (trace ++ events) batch ↔
      Executed trace batch ∨ Executed events batch := by
  rw [Executed, List.filterMap_append, List.mem_append]
  rfl

theorem executed_of_mem {batch : Nat} {args : List Arg}
    (member : .executed batch args ∈ trace) : Executed trace batch :=
  List.mem_filterMap.mpr ⟨_, member, rfl⟩

theorem released_append (batch : Nat) :
    Released (trace ++ events) batch ↔
      Released trace batch ∨ Released events batch :=
  List.mem_append

/-- Events that execute no batch and put nothing back. -/
def Silent (event : AggregateEvent Arg Res) : Prop :=
  executedBatch event = none ∧ ∀ batch, event ≠ .released batch

theorem executed_silent (silent : ∀ event ∈ events, Silent event)
    (batch : Nat) :
    Executed (trace ++ events) batch ↔ Executed trace batch := by
  rw [executed_append]
  refine or_iff_left ?_
  intro executed
  obtain ⟨event, member, same⟩ := List.mem_filterMap.mp executed
  rw [(silent event member).1] at same
  cases same

theorem released_silent (silent : ∀ event ∈ events, Silent event)
    (batch : Nat) :
    Released (trace ++ events) batch ↔ Released trace batch := by
  rw [released_append]
  refine or_iff_left ?_
  intro released
  exact (silent _ released).2 batch rfl

/-- A call joins a batch and waits. -/
def enter (process : Aggregators Arg Res) (call batch : Nat) (arg : Arg)
    (signalled : Bool) : Aggregators Arg Res :=
  (process.join batch arg).withCall call
    (.waiting batch (process.batches batch).args.length signalled)

theorem enter_args (call batch other : Nat) (arg : Arg) (signalled : Bool) :
    ((process.enter call batch arg signalled).batches other).args =
      if other = batch then (process.batches batch).args ++ [arg]
      else (process.batches other).args := by
  by_cases same : other = batch
  · subst same
    simp only [if_pos, enter, withCall, join, withBatch, Function.update_self]
  · simp [enter, withCall, join, withBatch, same]

theorem enter_futures (call batch other : Nat) (arg : Arg)
    (signalled : Bool) :
    ((process.enter call batch arg signalled).batches other).futures =
      if other = batch then (process.batches batch).futures ++ [.pending]
      else (process.batches other).futures := by
  by_cases same : other = batch
  · subst same
    simp only [if_pos, enter, withCall, join, withBatch, Function.update_self]
  · simp [enter, withCall, join, withBatch, same]

theorem withBatch_objects {batch : Nat} {record : Batch Arg Res}
    (owner : record.owner = (process.batches batch).owner)
    (lock : record.lock = (process.batches batch).lock)
    (event : record.event = (process.batches batch).event) (other : Nat) :
    ((process.withBatch batch record).batches other).owner =
        (process.batches other).owner ∧
      ((process.withBatch batch record).batches other).lock =
        (process.batches other).lock ∧
      ((process.withBatch batch record).batches other).event =
        (process.batches other).event := by
  by_cases same : other = batch
  · subst same
    simp only [withBatch, Function.update_self]
    exact ⟨owner, lock, event⟩
  · simp only [withBatch, Function.update_of_ne same, and_self]

theorem calls_withCall (call : Nat) (phase : CallPhase) :
    (process.withCall call phase).calls call = phase :=
  Function.update_self ..

theorem calls_withCall_of_ne {call other : Nat} (different : other ≠ call)
    (phase : CallPhase) :
    (process.withCall call phase).calls other = process.calls other :=
  Function.update_of_ne different ..

namespace Membership

/-- Nobody joins. -/
theorem frame (membership : Membership trace process)
    (args : ∀ batch,
      (next.batches batch).args = (process.batches batch).args ∨
        process.batchCount ≤ batch ∧ (next.batches batch).args = [])
    (count : process.batchCount ≤ next.batchCount)
    (unused : ∀ call, next.calls call = .unused →
      process.calls call = .unused)
    (placed : ∀ call place, (next.calls call).place = some place →
      (process.calls call).place = some place)
    (quiet : ∀ call batch position arg,
      .joined call batch position arg ∉ events) :
    Membership (trace ++ events) next := by
  have before : ∀ {call batch position arg},
      .joined call batch position arg ∈ trace ++ events →
      .joined call batch position arg ∈ trace := by
    intro call batch position arg member
    rcases List.mem_append.mp member with old | new
    · exact old
    · exact absurd new (quiet call batch position arg)
  constructor
  case known =>
    intro call batch position arg member
    obtain ⟨below, found⟩ :=
      membership.known call batch position arg (before member)
    refine ⟨Nat.lt_of_lt_of_le below count, ?_⟩
    rcases args batch with same | ⟨above, -⟩
    · rw [same]
      exact found
    · exact absurd below (Nat.not_lt_of_le above)
  case unused =>
    intro call phase batch position arg member
    exact membership.unused call (unused call phase) batch position arg
      (before member)
  case placed =>
    intro call batch position phase
    obtain ⟨arg, member⟩ :=
      membership.placed call batch position (placed call _ phase)
    exact ⟨arg, List.mem_append_left _ member⟩
  case unique =>
    intro call batch position arg other place same one two
    exact membership.unique call batch position arg other place same
      (before one) (before two)
  case alone =>
    intro call caller batch position arg same one two
    exact membership.alone call caller batch position arg same
      (before one) (before two)
  case filled =>
    intro batch position within
    rcases args batch with same | ⟨-, empty⟩
    · rw [same] at within
      obtain ⟨call, arg, member⟩ := membership.filled batch position within
      exact ⟨call, arg, List.mem_append_left _ member⟩
    · rw [empty] at within
      cases within

theorem enter (membership : Membership trace process) {call batch : Nat}
    (unused : process.calls call = .unused)
    (below : batch < process.batchCount) (arg : Arg) (signalled : Bool) :
    Membership
      (trace ++ [AggregateEvent.joined call batch
        (process.batches batch).args.length arg])
      (process.enter call batch arg signalled) := by
  have cases : ∀ {caller other place same},
      AggregateEvent.joined caller other place same ∈
        trace ++ [AggregateEvent.joined call batch
          (process.batches batch).args.length arg] →
      (.joined caller other place same ∈ trace ∧ caller ≠ call) ∨
        caller = call ∧ other = batch ∧
          place = (process.batches batch).args.length ∧ same = arg := by
    intro caller other place same member
    rcases List.mem_append.mp member with old | new
    · refine Or.inl ⟨old, ?_⟩
      rintro rfl
      exact membership.unused caller unused other place same old
    · cases List.mem_singleton.mp new
      exact Or.inr ⟨rfl, rfl, rfl, rfl⟩
  have taken : ∀ {caller place same},
      .joined caller batch place same ∈ trace →
      place ≠ (process.batches batch).args.length := by
    rintro caller place same member rfl
    have found := (membership.known caller batch _ same member).2
    rw [List.getElem?_eq_none (Nat.le_refl _)] at found
    cases found
  constructor
  case known =>
    intro caller other place same member
    rw [enter_args]
    rcases cases member with ⟨old, -⟩ | ⟨rfl, rfl, rfl, rfl⟩
    · obtain ⟨created, found⟩ := membership.known caller other place same old
      refine ⟨created, ?_⟩
      split
      · rename_i isBatch
        subst isBatch
        obtain ⟨within, -⟩ := List.getElem?_eq_some_iff.mp found
        rw [List.getElem?_append_left within]
        exact found
      · exact found
    · rw [if_pos rfl]
      exact ⟨below, List.getElem?_concat_length⟩
  case unused =>
    intro caller phase other place same member
    rcases cases member with ⟨old, different⟩ | ⟨rfl, rfl, rfl, rfl⟩
    · rw [Aggregators.enter, calls_withCall_of_ne different] at phase
      exact membership.unused caller phase other place same old
    · rw [Aggregators.enter, calls_withCall] at phase
      cases phase
  case placed =>
    intro caller other place phase
    by_cases same : caller = call
    · subst same
      rw [Aggregators.enter, calls_withCall] at phase
      cases phase
      exact ⟨arg, List.mem_append_right _ List.mem_cons_self⟩
    · rw [Aggregators.enter, calls_withCall_of_ne same] at phase
      obtain ⟨kept, member⟩ := membership.placed caller other place phase
      exact ⟨kept, List.mem_append_left _ member⟩
  case unique =>
    intro caller first position one second place two firstly secondly
    rcases cases firstly with ⟨old, different⟩ | ⟨rfl, rfl, rfl, rfl⟩
    · rcases cases secondly with ⟨also, -⟩ | ⟨same, -⟩
      · exact membership.unique caller first position one second place two
          old also
      · exact absurd same different
    · rcases cases secondly with ⟨-, different⟩ | ⟨-, rfl, rfl, rfl⟩
      · exact absurd rfl different
      · exact ⟨rfl, rfl⟩
  case alone =>
    intro caller other first position one two firstly secondly
    rcases cases firstly with ⟨old, -⟩ | ⟨rfl, rfl, rfl, rfl⟩
    · rcases cases secondly with ⟨also, -⟩ | ⟨rfl, rfl, rfl, rfl⟩
      · exact membership.alone caller other first position one two old also
      · exact absurd rfl (taken old)
    · rcases cases secondly with ⟨also, -⟩ | ⟨rfl, -⟩
      · exact absurd rfl (taken also)
      · rfl
  case filled =>
    intro other position within
    rw [enter_args] at within
    have old : ∀ {other}, position < (process.batches other).args.length →
        ∃ caller same, .joined caller other position same ∈
          trace ++ [AggregateEvent.joined call batch
            (process.batches batch).args.length arg] := by
      intro other inside
      obtain ⟨caller, same, member⟩ :=
        membership.filled other position inside
      exact ⟨caller, same, List.mem_append_left _ member⟩
    split at within
    · rename_i isBatch
      subst isBatch
      rw [List.length_append, List.length_singleton] at within
      rcases Nat.lt_succ_iff_lt_or_eq.mp within with inside | rfl
      · exact old inside
      · exact ⟨call, arg, List.mem_append_right _ List.mem_cons_self⟩
    · exact old within

end Membership

namespace Execution

theorem frame (execution : Execution trace process)
    (aggregators : next.aggregators = process.aggregators)
    (count : next.batchCount = process.batchCount)
    (locks : next.locks = process.locks)
    (objects : ∀ batch,
      (next.batches batch).owner = (process.batches batch).owner ∧
        (next.batches batch).lock = (process.batches batch).lock ∧
        (next.batches batch).event = (process.batches batch).event)
    (args : ∀ batch, Executed trace batch →
      (next.batches batch).args = (process.batches batch).args)
    (pool : next.events.Leased (Holds trace process)
      (fun batch => (process.batches batch).event))
    (joined : ∀ call batch position arg,
      .joined call batch position arg ∈ events →
      ∃ signalled, next.calls call = .waiting batch position signalled)
    (still : ∀ call batch position signalled,
      process.calls call = .waiting batch position signalled →
      (∃ later, next.calls call = .waiting batch position later) ∨
        Executed trace batch)
    (waits : ∀ call batch position signalled,
      next.calls call = .waiting batch position signalled →
      Holds trace process batch)
    (runs : ∀ call batch position,
      next.calls call = .executing batch position →
      process.calls call = .executing batch position ∨
        Executed trace batch ∧ Holds trace process batch ∧
          ∀ caller place, next.calls caller = .executing batch place →
            caller = call)
    (silent : ∀ event ∈ events, Silent event) :
    Execution (trace ++ events) next := by
  have held : ∀ batch, Holds (trace ++ events) next batch ↔
      Holds trace process batch := by
    intro batch
    rw [Holds, Holds, count, released_silent silent]
  have equal : ∀ batch, Executed (trace ++ events) batch ↔
      Executed trace batch := executed_silent silent
  constructor
  case current =>
    intro index aggregator found
    rw [aggregators] at found
    rw [count, (objects _).1, equal]
    exact execution.current index aggregator found
  case created =>
    intro batch executed
    rw [count]
    exact execution.created batch ((equal batch).mp executed)
  case once =>
    have none : events.filterMap executedBatch = [] :=
      List.filterMap_eq_nil_iff.mpr (fun event member =>
        (silent event member).1)
    rw [List.filterMap_append, none, List.append_nil]
    exact execution.once
  case whole =>
    intro batch given member
    rcases List.mem_append.mp member with old | new
    · rw [args batch (executed_of_mem old)]
      exact execution.whole batch given old
    · cases (silent _ new).1
  case left =>
    intro call batch position arg member
    rw [equal]
    rcases List.mem_append.mp member with old | new
    · rcases execution.left call batch position arg old with
        ⟨signalled, phase⟩ | executed
      · exact still call batch position signalled phase
      · exact Or.inr executed
    · exact Or.inl (joined call batch position arg new)
  case returned =>
    intro batch released
    rw [equal]
    exact execution.returned batch
      ((released_silent silent batch).mp released)
  case waits =>
    intro call batch position signalled phase
    exact (held batch).mpr (waits call batch position signalled phase)
  case runs =>
    intro call batch position phase
    rw [equal, held]
    rcases runs call batch position phase with
      before | ⟨executed, holding, -⟩
    · exact execution.runs call batch position before
    · exact ⟨executed, holding⟩
  case runner =>
    intro call caller batch position place one two
    rcases runs call batch position one with before | ⟨-, -, sole⟩
    · rcases runs caller batch place two with also | ⟨-, -, sole⟩
      · exact execution.runner call caller batch position place before also
      · exact sole call position one
    · exact (sole caller place two).symm
  case locks =>
    rw [locks]
    exact execution.locks.congr (fun batch => (held batch).mp)
      (fun batch _ => (objects batch).2.1)
  case locked =>
    intro batch holding
    rw [locks, (objects batch).2.1, equal]
    exact execution.locked batch ((held batch).mp holding)
  case events =>
    exact pool.congr (fun batch => (held batch).mp)
      (fun batch _ => (objects batch).2.2)

theorem holds_current (execution : Execution trace process) {index : Nat}
    {aggregator : Aggregator}
    (found : process.aggregators index = some aggregator) :
    Holds trace process aggregator.batch := by
  obtain ⟨below, -, unexecuted⟩ := execution.current index aggregator found
  refine ⟨below, ?_⟩
  intro released
  exact unexecuted (execution.returned _ released)

theorem enter (execution : Execution trace process) {call index : Nat}
    {aggregator : Aggregator}
    (unused : process.calls call = .unused)
    (found : process.aggregators index = some aggregator) (arg : Arg)
    (signalled : Bool) :
    Execution
      (trace ++ [AggregateEvent.joined call aggregator.batch
        (process.batches aggregator.batch).args.length arg])
      (process.enter call aggregator.batch arg signalled) := by
  obtain ⟨-, -, unexecuted⟩ := execution.current index aggregator found
  have others : ∀ {caller phase}, process.calls caller = phase →
      phase ≠ .unused → caller ≠ call := by
    rintro caller phase current used rfl
    exact used (current.symm.trans unused)
  refine execution.frame rfl rfl rfl
    (withBatch_objects rfl rfl rfl) ?_ execution.events ?_ ?_ ?_ ?_ ?_
  · intro batch executed
    rw [enter_args, if_neg]
    rintro rfl
    exact unexecuted executed
  · intro caller batch position same member
    cases List.mem_singleton.mp member
    exact ⟨signalled, calls_withCall ..⟩
  · intro caller batch position later phase
    refine Or.inl ⟨later, ?_⟩
    rw [Aggregators.enter,
      calls_withCall_of_ne (others phase CallPhase.noConfusion)]
    exact phase
  · intro caller batch position later phase
    by_cases same : caller = call
    · subst same
      rw [Aggregators.enter, calls_withCall] at phase
      cases phase
      exact execution.holds_current found
    · rw [Aggregators.enter, calls_withCall_of_ne same] at phase
      exact execution.waits caller batch position later phase
  · intro caller batch position phase
    by_cases same : caller = call
    · subst same
      rw [Aggregators.enter, calls_withCall] at phase
      cases phase
    · rw [Aggregators.enter, calls_withCall_of_ne same] at phase
      exact Or.inl phase
  · intro event member
    rw [List.mem_singleton.mp member]
    exact ⟨rfl, by simp⟩

theorem signal (execution : Execution trace process) {batch : Nat}
    (holding : Holds trace process batch) :
    Execution trace (process.signal (process.batches batch).event) := by
  have phases : ∀ {call : Nat} {phase : CallPhase},
      (process.signal (process.batches batch).event).calls call = phase →
      (∀ other position signalled,
        phase ≠ .waiting other position signalled) →
      process.calls call = phase := by
    intro call phase current different
    simp only [Aggregators.signal] at current
    split at current
    · exact absurd current.symm (different _ _ _)
    · exact current
  have framed : Execution (trace ++ [])
      (process.signal (process.batches batch).event) := by
    refine execution.frame rfl rfl rfl (fun _ => ⟨rfl, rfl, rfl⟩)
      (fun _ _ => rfl) (execution.events.raise holding) ?_ ?_ ?_ ?_ ?_
    · exact fun _ _ _ _ member => absurd member List.not_mem_nil
    · intro call other position signalled phase
      simp only [Aggregators.signal, phase]
      exact Or.inl ⟨_, rfl⟩
    · intro call other position signalled phase
      simp only [Aggregators.signal] at phase
      split at phase
      · rename_i place earlier before
        cases phase
        exact execution.waits call other position earlier before
      · exact execution.waits call other position signalled phase
    · intro call other position phase
      exact Or.inl (phases phase (fun _ _ _ => CallPhase.noConfusion))
    · exact fun _ member => absurd member List.not_mem_nil
  rw [List.append_nil] at framed
  exact framed

theorem clear (execution : Execution trace process)
    (index : Nat) (maxCount : Option Nat) :
    Execution trace (process.clear index maxCount) := by
  have old : ∀ {batch}, batch < process.batchCount →
      (process.clear index maxCount).batches batch =
        process.batches batch :=
    fun below => Function.update_of_ne (Nat.ne_of_lt below) ..
  have new : (process.clear index maxCount).batches process.batchCount =
      { owner := index
        event := process.events.getOrCreate.1
        lock := process.locks.getOrCreate.1 } := Function.update_self ..
  have unexecuted : ¬ Executed trace process.batchCount := by
    intro executed
    exact Nat.lt_irrefl _ (execution.created _ executed)
  have held : ∀ {batch}, Holds trace (process.clear index maxCount) batch →
      batch = process.batchCount ∨
        Holds trace process batch ∧ batch ≠ process.batchCount := by
    intro batch holding
    rcases Nat.lt_succ_iff_lt_or_eq.mp holding.1 with below | same
    · exact Or.inr ⟨⟨below, holding.2⟩, Nat.ne_of_lt below⟩
    · exact Or.inl same
  have grown : ∀ {batch}, Holds trace process batch →
      Holds trace (process.clear index maxCount) batch :=
    fun holding => ⟨Nat.lt_succ_of_lt holding.1, holding.2⟩
  constructor
  case current =>
    intro other aggregator found
    by_cases same : other = index
    · subst same
      simp only [Aggregators.clear, Function.update_self,
        Option.some.injEq] at found
      subst found
      refine ⟨Nat.lt_succ_self _, ?_, unexecuted⟩
      exact congrArg Batch.owner new
    · simp only [Aggregators.clear, Function.update_of_ne same] at found
      obtain ⟨below, owner, open_⟩ :=
        execution.current other aggregator found
      refine ⟨Nat.lt_succ_of_lt below, ?_, open_⟩
      rw [old below]
      exact owner
  case created =>
    intro batch executed
    exact Nat.lt_succ_of_lt (execution.created batch executed)
  case once => exact execution.once
  case whole =>
    intro batch args member
    rw [old (execution.created batch (executed_of_mem member))]
    exact execution.whole batch args member
  case left => exact execution.left
  case returned => exact execution.returned
  case waits =>
    intro call batch position signalled phase
    exact grown (execution.waits call batch position signalled phase)
  case runs =>
    intro call batch position phase
    obtain ⟨executed, holding⟩ := execution.runs call batch position phase
    exact ⟨executed, grown holding⟩
  case runner => exact execution.runner
  case locks =>
    refine (execution.locks.getOrCreate process.batchCount).congr
      (fun batch => held) ?_
    intro batch holding
    rcases held holding with rfl | ⟨before, different⟩
    · rw [new, Function.update_self]
    · rw [old before.1, Function.update_of_ne different]
  case locked =>
    intro batch holding
    obtain ⟨flags, unset⟩ := execution.locks.getOrCreate_flag
    change process.locks.getOrCreate.2.flag _ = true ↔ _
    rw [flags]
    rcases held holding with rfl | ⟨before, -⟩
    · rw [new, unset]
      exact iff_of_false Bool.false_ne_true unexecuted
    · rw [old before.1]
      exact execution.locked batch before
  case events =>
    refine (execution.events.getOrCreate process.batchCount).congr
      (fun batch => held) ?_
    intro batch holding
    rcases held holding with rfl | ⟨before, different⟩
    · rw [new, Function.update_self]
    · rw [old before.1, Function.update_of_ne different]

/-- The executor of a batch that nobody can join any more is started. -/
theorem start (execution : Execution trace process) {batch : Nat}
    (holding : Holds trace process batch)
    (fresh : ¬ Executed trace batch)
    (closed : ∀ index aggregator,
      process.aggregators index = some aggregator →
      aggregator.batch ≠ batch) :
    Execution
      (trace ++
        [AggregateEvent.executed batch (process.batches batch).args])
      { process with
        locks := process.locks.raise (process.batches batch).lock } := by
  have executed : ∀ other, Executed (trace ++
      [AggregateEvent.executed batch (process.batches batch).args]) other ↔
      Executed trace other ∨ other = batch := by
    intro other
    rw [executed_append]
    refine or_congr_right ?_
    simp [Executed, executedBatch]
  have released : ∀ other, Released (trace ++
      [AggregateEvent.executed batch (process.batches batch).args]) other ↔
      Released trace other := by
    intro other
    simp [Released]
  have held : ∀ other, Holds (trace ++
        [AggregateEvent.executed batch (process.batches batch).args])
      { process with
        locks := process.locks.raise (process.batches batch).lock } other ↔
      Holds trace process other := by
    intro other
    rw [Holds, Holds, released]
  constructor
  case current =>
    intro index aggregator found
    obtain ⟨below, owner, unexecuted⟩ :=
      execution.current index aggregator found
    refine ⟨below, owner, ?_⟩
    rw [executed]
    exact not_or.mpr ⟨unexecuted, closed index aggregator found⟩
  case created =>
    intro other done
    rcases (executed other).mp done with earlier | rfl
    · exact execution.created other earlier
    · exact holding.1
  case once =>
    rw [List.filterMap_append, List.nodup_append_comm]
    exact List.nodup_cons.mpr ⟨fresh, execution.once⟩
  case whole =>
    intro other args member
    rcases List.mem_append.mp member with old | new
    · exact execution.whole other args old
    · cases List.mem_singleton.mp new
      rfl
  case left =>
    intro call other position arg member
    rw [executed]
    have old : .joined call other position arg ∈ trace := by
      simpa using member
    rcases execution.left call other position arg old with waiting | done
    · exact Or.inl waiting
    · exact Or.inr (Or.inl done)
  case returned =>
    intro other back
    rw [executed]
    exact Or.inl (execution.returned other ((released other).mp back))
  case waits =>
    intro call other position signalled phase
    exact (held other).mpr
      (execution.waits call other position signalled phase)
  case runs =>
    intro call other position phase
    obtain ⟨done, owns⟩ := execution.runs call other position phase
    exact ⟨(executed other).mpr (Or.inl done), (held other).mpr owns⟩
  case runner => exact execution.runner
  case locks =>
    exact (execution.locks.raise holding).congr
      (fun other => (held other).mp) (fun _ _ => rfl)
  case locked =>
    intro other owns
    have before := execution.locked other ((held other).mp owns)
    rw [executed]
    by_cases same : other = batch
    · subst same
      exact iff_of_true (Function.update_self ..) (Or.inr rfl)
    · have apart : (process.batches other).lock ≠
          (process.batches batch).lock := by
        intro shared
        exact same (execution.locks.distinct other batch
          ((held other).mp owns) holding shared)
      rw [or_iff_left same, ← before]
      exact iff_of_eq (congrArg (· = true)
        (Function.update_of_ne apart _ _))
  case events =>
    exact execution.events.congr (fun other => (held other).mp)
      (fun _ _ => rfl)

theorem leave (execution : Execution trace process)
    {call batch position : Nat} {signalled : Bool}
    (waiting : process.calls call = .waiting batch position signalled)
    (executed : Executed trace batch) {phase : CallPhase}
    (later : ∀ other place signal, phase ≠ .waiting other place signal)
    (runs : ∀ other place, phase = .executing other place →
      other = batch ∧
        ∀ caller spot, process.calls caller ≠ .executing batch spot) :
    Execution trace (process.withCall call phase) := by
  have framed : Execution (trace ++ []) (process.withCall call phase) := by
    refine execution.frame rfl rfl rfl (fun _ => ⟨rfl, rfl, rfl⟩)
      (fun _ _ => rfl) execution.events ?_ ?_ ?_ ?_ ?_
    · exact fun _ _ _ _ member => absurd member List.not_mem_nil
    · intro caller other place signal before
      by_cases same : caller = call
      · subst same
        rw [waiting] at before
        cases before
        exact Or.inr executed
      · rw [calls_withCall_of_ne same]
        exact Or.inl ⟨signal, before⟩
    · intro caller other place signal now
      by_cases same : caller = call
      · subst same
        rw [calls_withCall] at now
        exact absurd now (later other place signal)
      · rw [calls_withCall_of_ne same] at now
        exact execution.waits caller other place signal now
    · intro caller other place now
      by_cases same : caller = call
      · subst same
        rw [calls_withCall] at now
        obtain ⟨rfl, idle⟩ := runs other place now
        refine Or.inr ⟨executed,
          execution.waits caller other position signalled waiting, ?_⟩
        intro second spot also
        by_cases equal : second = caller
        · exact equal
        · rw [calls_withCall_of_ne equal] at also
          exact absurd also (idle second spot)
      · rw [calls_withCall_of_ne same] at now
        exact Or.inl now
    · exact fun _ member => absurd member List.not_mem_nil
  rw [List.append_nil] at framed
  exact framed

/-- A call that waits no more runs the executor, unless another one does. -/
theorem proceed (execution : Execution trace process)
    {call batch position : Nat} {signalled : Bool}
    (waiting : process.calls call = .waiting batch position signalled)
    (closed : ∀ index aggregator,
      process.aggregators index = some aggregator →
      aggregator.batch ≠ batch) :
    Execution (trace ++ (process.proceed call batch position).2)
      (process.proceed call batch position).1 := by
  have holding := execution.waits call batch position signalled waiting
  unfold Aggregators.proceed
  split
  · rename_i locked
    rw [List.append_nil]
    exact execution.leave waiting
      ((execution.locked batch holding).mp locked)
      (fun _ _ _ => CallPhase.noConfusion) (fun _ _ => CallPhase.noConfusion)
  · rename_i unlocked
    have fresh : ¬ Executed trace batch := fun executed =>
      unlocked ((execution.locked batch holding).mpr executed)
    have started := execution.start holding fresh closed
    refine started.leave waiting ?_ (fun _ _ _ => CallPhase.noConfusion) ?_
    · rw [executed_append]
      exact Or.inr List.mem_cons_self
    · intro other place same
      cases same
      refine ⟨rfl, ?_⟩
      intro caller spot running
      exact fresh (execution.runs caller batch spot running).1

/-- The lock and the event of a batch that nobody waits for go back. -/
theorem release (execution : Execution trace process)
    {call batch position : Nat}
    (running : process.calls call = .executing batch position)
    (awake : ∀ caller place signalled,
      process.calls caller ≠ .waiting batch place signalled)
    {phase : CallPhase}
    (later : ∀ other place signal, phase ≠ .waiting other place signal)
    (idle : ∀ other place, phase ≠ .executing other place) :
    Execution (trace ++ [AggregateEvent.released batch])
      ((process.release batch).withCall call phase) := by
  obtain ⟨done, holding⟩ := execution.runs call batch position running
  have executed : ∀ other,
      Executed (trace ++ [AggregateEvent.released batch]) other ↔
        Executed trace other := by
    intro other
    rw [executed_append]
    exact or_iff_left List.not_mem_nil
  have held : ∀ other, Holds (trace ++ [AggregateEvent.released batch])
      ((process.release batch).withCall call phase) other ↔
      Holds trace process other ∧ other ≠ batch := by
    intro other
    simp only [Holds, released_append]
    simp only [Released, List.mem_singleton, AggregateEvent.released.injEq,
      not_or, and_assoc]
    rfl
  have phases : ∀ {caller stage},
      ((process.release batch).withCall call phase).calls caller = stage →
      phase ≠ stage → caller ≠ call ∧ process.calls caller = stage := by
    intro caller stage now different
    by_cases same : caller = call
    · subst same
      rw [calls_withCall] at now
      exact absurd now different
    · rw [calls_withCall_of_ne same] at now
      exact ⟨same, now⟩
  constructor
  case current =>
    intro index aggregator found
    rw [executed]
    exact execution.current index aggregator found
  case created =>
    intro other before
    exact execution.created other ((executed other).mp before)
  case once =>
    rw [List.filterMap_append]
    refine (List.append_nil _).symm ▸ execution.once
  case whole =>
    intro other args member
    have old : .executed other args ∈ trace := by simpa using member
    exact execution.whole other args old
  case left =>
    intro caller other place arg member
    have old : .joined caller other place arg ∈ trace := by
      simpa using member
    rw [executed]
    rcases execution.left caller other place arg old with
      ⟨signalled, waiting⟩ | before
    · refine Or.inl ⟨signalled, ?_⟩
      have different : caller ≠ call := by
        rintro rfl
        rw [running] at waiting
        cases waiting
      rw [calls_withCall_of_ne different]
      exact waiting
    · exact Or.inr before
  case returned =>
    intro other back
    rw [executed]
    rcases (released_append other).mp back with old | new
    · exact execution.returned other old
    · cases List.mem_singleton.mp new
      exact done
  case waits =>
    intro caller other place signalled now
    obtain ⟨-, before⟩ := phases now (later other place signalled)
    refine (held other).mpr
      ⟨execution.waits caller other place signalled before, ?_⟩
    rintro rfl
    exact awake caller place signalled before
  case runs =>
    intro caller other place now
    obtain ⟨different, before⟩ := phases now (idle other place)
    obtain ⟨earlier, owns⟩ := execution.runs caller other place before
    refine ⟨(executed other).mpr earlier, (held other).mpr ⟨owns, ?_⟩⟩
    rintro rfl
    exact different
      (execution.runner caller call other place position before running)
  case runner =>
    intro first second other place spot one two
    exact execution.runner first second other place spot
      (phases one (idle other place)).2 (phases two (idle other spot)).2
  case locks =>
    exact (execution.locks.putBack holding cacheMaxlen).congr
      (fun other => (held other).mp) (fun _ _ => rfl)
  case locked =>
    intro other owns
    obtain ⟨before, different⟩ := (held other).mp owns
    have apart : (process.batches other).lock ≠
        (process.batches batch).lock := by
      intro shared
      exact different
        (execution.locks.distinct other batch before holding shared)
    rw [executed, ← execution.locked other before]
    exact iff_of_eq (congrArg (· = true) (Function.update_of_ne apart _ _))
  case events =>
    exact (execution.events.putBack holding cacheMaxlen).congr
      (fun other => (held other).mp) (fun _ _ => rfl)

theorem settle (execution : Execution trace process) (batch : Nat)
    (futures : List (Future Res))
    (quiet : ∀ event ∈ events, ∃ results, event = .answered batch results) :
    Execution (trace ++ events)
      (process.withBatch batch
        { process.batches batch with futures := futures }) := by
  refine execution.frame rfl rfl rfl (withBatch_objects rfl rfl rfl) ?_
    execution.events ?_ ?_ execution.waits (fun _ _ _ => Or.inl) ?_
  · intro other _
    by_cases same : other = batch
    · subst same
      simp only [withBatch, Function.update_self]
    · simp only [withBatch, Function.update_of_ne same]
  · intro call other position arg member
    obtain ⟨results, same⟩ := quiet _ member
    cases same
  · intro call other position signalled phase
    exact Or.inl ⟨signalled, phase⟩
  · intro event member
    obtain ⟨results, rfl⟩ := quiet event member
    exact ⟨rfl, by simp⟩

theorem stop (execution : Execution trace process) {call : Nat}
    (active : ∀ batch position signalled,
      process.calls call ≠ .waiting batch position signalled)
    (silent : ∀ event ∈ events, Silent event)
    (quiet : ∀ caller batch position arg,
      .joined caller batch position arg ∉ events) :
    Execution (trace ++ events) (process.withCall call .ended) := by
  refine execution.frame rfl rfl rfl (fun _ => ⟨rfl, rfl, rfl⟩)
    (fun _ _ => rfl) execution.events ?_ ?_ ?_ ?_ silent
  · intro caller batch position arg member
    exact absurd member (quiet caller batch position arg)
  · intro caller batch position signalled phase
    have different : caller ≠ call := by
      rintro rfl
      exact active batch position signalled phase
    rw [calls_withCall_of_ne different]
    exact Or.inl ⟨signalled, phase⟩
  · intro caller batch position signalled phase
    by_cases same : caller = call
    · subst same
      rw [calls_withCall] at phase
      cases phase
    · rw [calls_withCall_of_ne same] at phase
      exact execution.waits caller batch position signalled phase
  · intro caller batch position phase
    by_cases same : caller = call
    · subst same
      rw [calls_withCall] at phase
      cases phase
    · rw [calls_withCall_of_ne same] at phase
      exact Or.inl phase

end Execution

end Aggregators

end Utils

end TinyChat
