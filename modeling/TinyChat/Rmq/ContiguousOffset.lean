import Mathlib.Order.Bounds.Basic
import TinyChat.Rmq.OffsetSafety

/-!
# The contiguous offset of an activation

An activation that found a stored offset leaves one span, which holds that
offset alone.  As long as only later offsets are acknowledged, and none of
them twice, this span stays at the head of the ring: it never leaves the
ring, nothing is listed before it, and it takes over every run of offsets
that comes to touch it.
-/

namespace TinyChat

namespace AckQueue

/-- The first span on the ring starts at `base`. -/
def HeadStartsAt (queue : AckQueue) (nodes : List Ref) (base : Int) : Prop :=
  ∃ first ∈ nodes.head?, (queue.heap first).start = base

section

variable {queue queue' : AckQueue} {nodes nodes' : List Ref}
  {base start : Int}

theorem Wf.ne_of_later (wf : Wf queue nodes) {first rightSpan : Ref}
    (startsAt : (queue.heap first).start = base) (later : base < start)
    (foundRight : queue.queryLeft (start + 1) = some rightSpan) :
    first ≠ rightSpan := by
  obtain ⟨_, rightStart⟩ := wf.leftTable (start + 1) rightSpan foundRight
  intro same
  rw [same] at startsAt
  omega

/-- A later integer is never put before the first span, and never takes the
first span off the ring. -/
theorem Wf.headStartsAt_added (wf : Wf queue nodes)
    (head : HeadStartsAt queue nodes base) (later : base < start)
    (added : Added queue nodes start queue' nodes') :
    HeadStartsAt queue' nodes' base := by
  obtain ⟨first, isFirst, startsAt⟩ := head
  cases added with
  | ignored negative => exact ⟨first, isFirst, startsAt⟩
  | @merged front rest leftSpan rightSpan nonneg split foundLeft foundRight =>
      have different := wf.ne_of_later startsAt later foundRight
      subst split
      cases front with
      | nil =>
          have isRight : rightSpan = first := by simpa using isFirst
          exact absurd isRight.symm different
      | cons head front =>
          refine ⟨first, by simpa using isFirst, ?_⟩
          simpa [AckQueue.addMerge] using startsAt
  | grownRight nonneg foundLeft foundRight =>
      refine ⟨first, isFirst, ?_⟩
      simpa [AckQueue.addLeft] using startsAt
  | @grownLeft rightSpan nonneg foundLeft foundRight =>
      have different := wf.ne_of_later startsAt later foundRight
      refine ⟨first, isFirst, ?_⟩
      simpa [AckQueue.addRight, different] using startsAt
  | listed nonneg foundLeft foundRight =>
      have listed : first ∈ nodes := List.mem_of_mem_head? isFirst
      have different : first ≠ (queue.takeSpan start).1 := by
        intro same
        exact (wf.takeSpan start).unlisted
          (List.mem_cons_of_mem _ (same ▸ listed))
      refine ⟨first, List.mem_head?_append_of_mem_head? isFirst, ?_⟩
      rw [wf.addNew_start, if_neg different]
      exact startsAt

/-- A queue that was opened by `base` and then held `acks`. -/
structure OpenedBy (queue : AckQueue) (base : Int) (acks : List Int)
    (nodes : List Ref) : Prop where
  reached : Reached queue (base :: acks) nodes
  head : HeadStartsAt queue nodes base

theorem Wf.headStartsAt_opened (wf : Wf queue []) (nonneg : 0 ≤ start)
    (added : Added queue [] start queue' nodes') :
    HeadStartsAt queue' nodes' start := by
  obtain ⟨ref, listed, _⟩ : HoldsIn queue' nodes' start :=
    (wf.holdsIn_added added start).mpr (.inr ⟨rfl, nonneg⟩)
  cases added with
  | ignored negative => omega
  | merged nonneg split foundLeft foundRight => simp at split
  | grownRight nonneg foundLeft foundRight => cases listed
  | grownLeft nonneg foundLeft foundRight => cases listed
  | listed nonneg foundLeft foundRight =>
      refine ⟨_, rfl, ?_⟩
      rw [wf.addNew_start]
      exact if_pos rfl

/-- What `add` does and what it makes of the represented integers, over the
same nodes. -/
theorem Reached.add_step {added : List Int}
    (reached : Reached queue added nodes) (start : Int) :
    ∃ nodes', Added queue nodes start (queue.add start) nodes' ∧
      Reached (queue.add start) (added ++ [start]) nodes' := by
  obtain ⟨nodes', step⟩ := reached.wf.add_cases start
  obtain ⟨others, next⟩ := reached.add start
  have sameNodes : others = nodes' := by
    rw [← next.wf.iterator_eq, (reached.wf.added step).iterator_eq]
  exact ⟨nodes', step, sameNodes ▸ next⟩

theorem Reached.opened {added : List Int}
    (reached : Reached queue added nodes) (nonneg : 0 ≤ base) :
    ∃ nodes', OpenedBy (queue.clear.add base) base [] nodes' := by
  have cleared := reached.clear
  obtain ⟨nodes', step, opened⟩ := cleared.add_step base
  exact ⟨nodes', opened, cleared.wf.headStartsAt_opened nonneg step⟩

theorem OpenedBy.add {acks : List Int} (opened : OpenedBy queue base acks nodes)
    (later : base < start) :
    ∃ nodes', OpenedBy (queue.add start) base (acks ++ [start]) nodes' := by
  obtain ⟨nodes', step, next⟩ := opened.reached.add_step start
  exact ⟨nodes', next,
    opened.reached.wf.headStartsAt_added opened.head later step⟩

theorem OpenedBy.adds {before acks : List Int}
    (opened : OpenedBy queue base before nodes)
    (later : ∀ ack ∈ acks, base < ack) :
    ∃ nodes', OpenedBy (acks.foldl AckQueue.add queue) base
      (before ++ acks) nodes' := by
  induction acks generalizing queue before nodes with
  | nil => exact ⟨nodes, by simpa using opened⟩
  | cons ack acks induction =>
      obtain ⟨others, next⟩ := opened.add (later ack (by simp))
      have final := induction next (by
        intro other member
        exact later other (List.mem_cons_of_mem _ member))
      simpa only [List.append_assoc, List.singleton_append,
        List.foldl_cons] using final

/-- The first span ends at the least integer above `base` that was not
added. -/
theorem OpenedBy.firstEnd_isLeast {acks : List Int}
    (opened : OpenedBy queue base acks nodes)
    (distinct : (base :: acks).Nodup) :
    IsLeast {value | base < value ∧ value ∉ acks} queue.firstEnd := by
  have wf := opened.reached.wf
  have exact := opened.reached.exact distinct
  obtain ⟨first, isFirst, startsAt⟩ := opened.head
  have listed : first ∈ nodes := List.mem_of_mem_head? isFirst
  have bounds := wf.bounds first listed
  have endEq : queue.firstEnd = (queue.heap first).end_ := by
    cases nodes with
    | nil => cases listed
    | cons head rest =>
        have isHead : head = first := by simpa using isFirst
        subst isHead
        exact wf.firstEnd_cons
  rw [endEq]
  constructor
  · refine ⟨by omega, ?_⟩
    intro acked
    obtain ⟨other, otherListed, lower, upper⟩ :=
      (opened.reached.holds (queue.heap first).end_).mpr
        ⟨by omega, List.mem_cons_of_mem _ acked⟩
    have different : first ≠ other := by
      intro same
      subst same
      omega
    have apart := exact.apart first listed other otherListed different
    omega
  · intro value missing
    obtain ⟨above, notAcked⟩ := missing
    by_contra below
    have held : HoldsIn queue nodes value :=
      ⟨first, listed, by omega, by omega⟩
    obtain ⟨_, member⟩ := (opened.reached.holds value).mp held
    rcases List.mem_cons.mp member with isBase | acked
    · omega
    · exact notAcked acked

/-- The least missing integer after any number of later integers, in any
order. -/
theorem OpenedBy.isLeast_adds {acks : List Int}
    (opened : OpenedBy queue base [] nodes) (distinct : acks.Nodup)
    (later : ∀ ack ∈ acks, base < ack) :
    IsLeast {value | base < value ∧ value ∉ acks}
      (acks.foldl AckQueue.add queue).firstEnd := by
  obtain ⟨_, final⟩ := opened.adds later
  apply final.firstEnd_isLeast
  rw [List.nil_append, List.nodup_cons]
  refine ⟨?_, distinct⟩
  intro member
  exact Int.lt_irrefl _ (later base member)

end

end AckQueue

namespace Rmq

open AckQueue

theorem OffsetRecord.foldl_add_queue (record : OffsetRecord)
    (acks : List Int) :
    (acks.foldl OffsetRecord.add record).queue =
      acks.foldl AckQueue.add record.queue := by
  induction acks generalizing record with
  | nil => rfl
  | cons ack acks induction => exact induction (record.add ack)

namespace Consumer

variable {consumer next : Consumer} {action : Action} {events : List Event}
  {trace : List Event}

theorem Moved.queue (moved : Moved consumer action next events) :
    next.record.queue =
      (queueOps action).foldl Op.apply consumer.record.queue := by
  cases moved with
  | @activated reply =>
      cases reply with
      | stored offset => rfl
      | offsetNotFound => rfl
      | otherError => rfl
  | deactivated => exact (deactivate_spec consumer).2.2.1
  | delivered => rfl
  | acked => rfl
  | kept silent sameQueue =>
      rw [silent]
      exact sameQueue

/-- The queue of a record is the outcome of a sequence of calls on a new
one. -/
theorem run_queue (run : Transition.AnyRun step start trace consumer) :
    ∃ ops, consumer.record.queue = runOps ops := by
  apply run.state_invariant
  · exact ⟨[.add (-1)], rfl⟩
  · intro events consumer next action reached _ stepped
    obtain ⟨ops, queueEq⟩ := reached
    refine ⟨ops ++ queueOps action, ?_⟩
    rw [(step_moved stepped).queue, queueEq, runOps, runOps,
      List.foldl_append]

theorem run_opened (run : Transition.AnyRun step start trace consumer)
    (offset : Nat) :
    ∃ nodes, OpenedBy (consumer.record.unfreeze.add offset).queue offset []
      nodes := by
  obtain ⟨ops, queueEq⟩ := run_queue run
  obtain ⟨nodes, reached⟩ := runOps_reached ops
  rw [← queueEq] at reached
  exact reached.opened (Int.natCast_nonneg offset)

/-- Whatever the record went through before, once it is activated at a
stored offset its `expected_offset` is the least later offset that has not
been acknowledged. -/
theorem activated_expectedOffset
    (run : Transition.AnyRun step start trace consumer) (offset : Nat)
    {acks : List Int} (distinct : acks.Nodup)
    (later : ∀ ack ∈ acks, (offset : Int) < ack) :
    IsLeast {value | (offset : Int) < value ∧ value ∉ acks}
      (acks.foldl OffsetRecord.add
        (consumer.record.unfreeze.add offset)).expectedOffset := by
  obtain ⟨_, opened⟩ := run_opened run offset
  rw [OffsetRecord.expectedOffset, OffsetRecord.foldl_add_queue]
  exact opened.isLeast_adds distinct later

/-- After a deactivation that left a recycled span, offsets 6, 9, 8 and 7
are acknowledged over the stored offset 5. -/
theorem activated_expectedOffset_recycled :
    ∃ trace consumer, Transition.AnyRun step start trace consumer ∧
      IsLeast {value | ((5 : Nat) : Int) < value ∧
          value ∉ ([6, 9, 8, 7] : List Int)}
        (([6, 9, 8, 7] : List Int).foldl OffsetRecord.add
          (consumer.record.unfreeze.add (5 : Nat))).expectedOffset := by
  have executed : (Transition.exec step (fun _ _ => True) start
      [.activate (.stored 3), .deliver 5, .ack 5, .deactivate]).map
        Prod.snd =
      some [.activated 4, .delivered 5, .acked 5, .deactivated] := by
    decide
  obtain ⟨consumer, run⟩ := Transition.Run.exists_of_exec executed
  exact ⟨_, consumer, run,
    activated_expectedOffset run 5 (by decide) (by decide)⟩

/-! ## Acknowledgements among the other steps of an activation -/

/-- The steps that neither end an activation nor start another one. -/
def StaysActive (_ : Consumer) : Action → Prop
  | .activate _ => False
  | .deactivate => False
  | _ => True

/-- A step within an activation reports an acknowledgement exactly if it
adds an offset to the queue. -/
theorem Moved.acks (moved : Moved consumer action next events)
    (stays : consumer.StaysActive action) (acks : List Int) :
    events.foldl Event.recordAcked acks =
      (queueOps action).foldl Op.record acks := by
  cases moved with
  | activated => cases stays
  | deactivated => cases stays
  | delivered => rfl
  | acked => rfl
  | kept silent _ _ _ onlyCommit =>
      rw [silent]
      rcases onlyCommit with none | commit
      · rw [none]
        rfl
      · rw [commit]
        rfl

/-- Within an activation the queue changes by the reported acknowledgements
alone. -/
theorem staysActive_queue {last : Consumer}
    (run : Transition.Run step StaysActive consumer trace last) :
    last.record.queue =
      (ackedNow trace).foldl AckQueue.add consumer.record.queue := by
  apply run.invariant
  · rfl
  · intro trace events consumer next action queueEq stays stepped
    have moved := step_moved stepped
    rw [ackedNow, List.foldl_append, moved.acks stays, moved.queue, queueEq]
    cases action with
    | activate reply => cases stays
    | deactivate => cases stays
    | ack offset =>
        change _ = (ackedNow trace ++ [offset]).foldl AckQueue.add _
        rw [List.foldl_append]
        rfl
    | listenerStoreDone offset result now => rfl
    | deliver offset => rfl
    | tick now => rfl
    | timerStoreDone offset result now => rfl

/-- In every run of an activation that found a stored offset, in which the
later offsets are acknowledged at most once, `expected_offset` is the least
later offset that has not been acknowledged. -/
theorem run_expectedOffset {idle : Consumer} {before : List Event}
    (run : Transition.AnyRun step start before idle) (offset : Nat)
    (active : Transition.Run step StaysActive (idle.activate (.stored offset))
      trace consumer)
    (distinct : (ackedNow trace).Nodup)
    (later : ∀ ack ∈ ackedNow trace, (offset : Int) < ack) :
    IsLeast {value | (offset : Int) < value ∧ value ∉ ackedNow trace}
      consumer.record.expectedOffset := by
  obtain ⟨_, opened⟩ := run_opened run offset
  rw [OffsetRecord.expectedOffset, staysActive_queue active]
  exact opened.isLeast_adds distinct later

end Consumer

end Rmq

end TinyChat
