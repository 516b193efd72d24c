import TinyChat.Message.QueueInvariant

/-!
# What an acknowledgement queue represents

Every sequence of `add` and `clear` calls leads to a well-formed queue whose
spans cover exactly the non-negative integers added since the last `clear`.
As long as no integer is added twice, the lookup tables find every span and
the spans are the maximal runs of that set.  A repeated integer is never
recognised: it always changes the sequence of spans.
-/

namespace TinyChat

open LinkedRing

namespace AckQueue

/-- The lookup tables find every listed span, and the spans neither overlap
nor touch. -/
structure Exact (queue : AckQueue) (nodes : List Ref) : Prop where
  leftFinds : ∀ ref ∈ nodes,
    queue.queryLeft (queue.heap ref).start = some ref
  rightFinds : ∀ ref ∈ nodes,
    queue.queryRight (queue.heap ref).end_ = some ref
  apart : ∀ first ∈ nodes, ∀ second ∈ nodes, first ≠ second →
    (queue.heap first).end_ < (queue.heap second).start ∨
      (queue.heap second).end_ < (queue.heap first).start

section

variable {queue : AckQueue} {nodes : List Ref}

theorem Exact.start_unique (exact : Exact queue nodes) {first second : Ref}
    (firstListed : first ∈ nodes) (secondListed : second ∈ nodes)
    (same : (queue.heap first).start = (queue.heap second).start) :
    first = second := by
  have found := exact.leftFinds first firstListed
  rw [same, exact.leftFinds second secondListed] at found
  exact (Option.some.inj found).symm

theorem Exact.end_unique (exact : Exact queue nodes) {first second : Ref}
    (firstListed : first ∈ nodes) (secondListed : second ∈ nodes)
    (same : (queue.heap first).end_ = (queue.heap second).end_) :
    first = second := by
  have found := exact.rightFinds first firstListed
  rw [same, exact.rightFinds second secondListed] at found
  exact (Option.some.inj found).symm

theorem Exact.start_ne (exact : Exact queue nodes) {ref : Ref} {key : Int}
    (listed : ref ∈ nodes) (missing : queue.queryLeft key = none) :
    (queue.heap ref).start ≠ key := by
  intro same
  have found := exact.leftFinds ref listed
  rw [same, missing] at found
  cases found

theorem Exact.end_ne (exact : Exact queue nodes) {ref : Ref} {key : Int}
    (listed : ref ∈ nodes) (missing : queue.queryRight key = none) :
    (queue.heap ref).end_ ≠ key := by
  intro same
  have found := exact.rightFinds ref listed
  rw [same, missing] at found
  cases found

theorem Exact.addMerge {start : Int} {leftSpan rightSpan : Ref}
    {front rest : List Ref}
    (wf : Wf queue (front ++ rightSpan :: rest))
    (exact : Exact queue (front ++ rightSpan :: rest))
    (foundLeft : queue.queryRight start = some leftSpan)
    (foundRight : queue.queryLeft (start + 1) = some rightSpan) :
    Exact (queue.addMerge start leftSpan rightSpan) (front ++ rest) := by
  obtain ⟨leftListed, endEq⟩ := wf.rightTable start leftSpan foundLeft
  obtain ⟨rightListed, startEq⟩ :=
    wf.leftTable (start + 1) rightSpan foundRight
  have distinct := wf.left_ne_right foundLeft foundRight
  have nodup := wf.ring.nodes_nodup
  rw [List.nodup_middle, List.nodup_cons] at nodup
  have listed : ∀ ref ∈ front ++ rest,
      ref ∈ front ++ rightSpan :: rest ∧ ref ≠ rightSpan := by
    intro ref member
    refine ⟨mem_middle.mpr (.inr member), ?_⟩
    intro same
    exact nodup.1 (same ▸ member)
  constructor
  · intro ref member
    obtain ⟨old, notRight⟩ := listed ref member
    have notStart : (queue.heap ref).start ≠ start + 1 := by
      intro same
      exact notRight
        (exact.start_unique old rightListed (same.trans startEq.symm))
    simpa [AckQueue.addMerge, notStart] using exact.leftFinds ref old
  · intro ref member
    obtain ⟨old, notRight⟩ := listed ref member
    have notEnd : (queue.heap ref).end_ ≠ (queue.heap rightSpan).end_ := by
      intro same
      exact notRight (exact.end_unique old rightListed same)
    by_cases isLeft : ref = leftSpan
    · simp [AckQueue.addMerge, isLeft]
    · have notStart : (queue.heap ref).end_ ≠ start := by
        intro same
        exact isLeft
          (exact.end_unique old leftListed (same.trans endEq.symm))
      simpa [AckQueue.addMerge, isLeft, notEnd, notStart]
        using exact.rightFinds ref old
  · intro first firstMember second secondMember different
    obtain ⟨firstOld, firstNotRight⟩ := listed first firstMember
    obtain ⟨secondOld, secondNotRight⟩ := listed second secondMember
    have firstBounds := wf.bounds first firstOld
    have secondBounds := wf.bounds second secondOld
    have leftBounds := wf.bounds leftSpan leftListed
    have oldApart := exact.apart first firstOld second secondOld different
    have firstRight := exact.apart first firstOld rightSpan rightListed
      firstNotRight
    have secondRight := exact.apart second secondOld rightSpan rightListed
      secondNotRight
    simp only [AckQueue.addMerge, Heap.setEnd_apply, Heap.setPrev_apply,
      Heap.setNext_apply]
    by_cases firstLeft : first = leftSpan
    · subst firstLeft
      rw [if_pos rfl, if_neg (Ne.symm different)]
      omega
    · by_cases secondLeft : second = leftSpan
      · subst secondLeft
        rw [if_neg firstLeft, if_pos rfl]
        omega
      · rw [if_neg firstLeft, if_neg secondLeft]
        exact oldApart

theorem Exact.addLeft {start : Int} {leftSpan : Ref}
    (wf : Wf queue nodes) (exact : Exact queue nodes)
    (missing : ¬ HoldsIn queue nodes start)
    (foundLeft : queue.queryRight start = some leftSpan)
    (foundRight : queue.queryLeft (start + 1) = none) :
    Exact (queue.addLeft start leftSpan) nodes := by
  obtain ⟨leftListed, endEq⟩ := wf.rightTable start leftSpan foundLeft
  constructor
  · intro ref listed
    simpa [AckQueue.addLeft] using exact.leftFinds ref listed
  · intro ref listed
    by_cases isLeft : ref = leftSpan
    · simp [AckQueue.addLeft, isLeft, endEq]
    · have notStart : (queue.heap ref).end_ ≠ start := by
        intro same
        exact isLeft
          (exact.end_unique listed leftListed (same.trans endEq.symm))
      have notNext : (queue.heap ref).end_ ≠ start + 1 := by
        intro same
        have bounds := wf.bounds ref listed
        exact missing ⟨ref, listed, by omega, by omega⟩
      simpa [AckQueue.addLeft, isLeft, notStart, notNext]
        using exact.rightFinds ref listed
  · intro first firstListed second secondListed different
    have oldApart := exact.apart first firstListed second secondListed
      different
    have firstStart := exact.start_ne firstListed foundRight
    have secondStart := exact.start_ne secondListed foundRight
    have firstBounds := wf.bounds first firstListed
    have secondBounds := wf.bounds second secondListed
    simp only [AckQueue.addLeft, Heap.setEnd_apply]
    by_cases firstLeft : first = leftSpan
    · subst firstLeft
      rw [if_pos rfl, if_neg (Ne.symm different)]
      omega
    · by_cases secondLeft : second = leftSpan
      · subst secondLeft
        rw [if_neg firstLeft, if_pos rfl]
        omega
      · rw [if_neg firstLeft, if_neg secondLeft]
        exact oldApart

theorem Exact.addRight {start : Int} {rightSpan : Ref}
    (wf : Wf queue nodes) (exact : Exact queue nodes)
    (missing : ¬ HoldsIn queue nodes start)
    (foundLeft : queue.queryRight start = none)
    (foundRight : queue.queryLeft (start + 1) = some rightSpan) :
    Exact (queue.addRight start rightSpan) nodes := by
  obtain ⟨rightListed, startEq⟩ :=
    wf.leftTable (start + 1) rightSpan foundRight
  constructor
  · intro ref listed
    by_cases isRight : ref = rightSpan
    · simp [AckQueue.addRight, isRight, startEq]
    · have notNext : (queue.heap ref).start ≠ start + 1 := by
        intro same
        exact isRight
          (exact.start_unique listed rightListed (same.trans startEq.symm))
      have notStart : (queue.heap ref).start ≠ start := by
        intro same
        have bounds := wf.bounds ref listed
        exact missing ⟨ref, listed, by omega, by omega⟩
      simpa [AckQueue.addRight, isRight, notStart, notNext]
        using exact.leftFinds ref listed
  · intro ref listed
    simpa [AckQueue.addRight] using exact.rightFinds ref listed
  · intro first firstListed second secondListed different
    have oldApart := exact.apart first firstListed second secondListed
      different
    have firstEnd := exact.end_ne firstListed foundLeft
    have secondEnd := exact.end_ne secondListed foundLeft
    have firstBounds := wf.bounds first firstListed
    have secondBounds := wf.bounds second secondListed
    simp only [AckQueue.addRight, Heap.setStart_apply]
    by_cases firstRight : first = rightSpan
    · subst firstRight
      rw [if_pos rfl, if_neg (Ne.symm different)]
      omega
    · by_cases secondRight : second = rightSpan
      · subst secondRight
        rw [if_neg firstRight, if_pos rfl]
        omega
      · rw [if_neg firstRight, if_neg secondRight]
        exact oldApart

theorem Exact.addNew {start : Int}
    (wf : Wf queue nodes) (exact : Exact queue nodes)
    (missing : ¬ HoldsIn queue nodes start)
    (foundLeft : queue.queryRight start = none)
    (foundRight : queue.queryLeft (start + 1) = none) :
    Exact (queue.addNew start) (nodes ++ [(queue.takeSpan start).1]) := by
  have unlisted := (wf.takeSpan start).unlisted
  have startOf := wf.addNew_start start
  have endOf := wf.addNew_end start
  generalize spanEq : (queue.takeSpan start).1 = span at *
  have beyond : ∀ ref ∈ nodes, ref ≠ span ∧
      ((queue.heap ref).end_ < start ∨ start + 1 < (queue.heap ref).start) := by
    intro ref listed
    have bounds := wf.bounds ref listed
    have notEnd := exact.end_ne listed foundLeft
    have notStart := exact.start_ne listed foundRight
    have outside : ¬ ((queue.heap ref).start ≤ start ∧
        start < (queue.heap ref).end_) := fun inside =>
      missing ⟨ref, listed, inside⟩
    refine ⟨?_, by omega⟩
    intro same
    exact unlisted (List.mem_cons_of_mem _ (same ▸ listed))
  constructor
  · intro ref member
    rw [startOf]
    simp only [AckQueue.addNew, Function.update_apply, spanEq]
    rcases List.mem_append.mp member with listed | isSpan
    · obtain ⟨different, gap⟩ := beyond ref listed
      have bounds := wf.bounds ref listed
      rw [if_neg different, if_neg (by omega)]
      exact exact.leftFinds ref listed
    · rw [List.mem_singleton.mp isSpan]
      simp
  · intro ref member
    rw [endOf]
    simp only [AckQueue.addNew, Function.update_apply, spanEq]
    rcases List.mem_append.mp member with listed | isSpan
    · obtain ⟨different, gap⟩ := beyond ref listed
      have bounds := wf.bounds ref listed
      rw [if_neg different, if_neg (by omega)]
      exact exact.rightFinds ref listed
    · rw [List.mem_singleton.mp isSpan]
      simp
  · intro first firstMember second secondMember different
    rw [startOf, startOf, endOf, endOf]
    rcases List.mem_append.mp firstMember with firstListed | firstNew
    · obtain ⟨firstOther, firstGap⟩ := beyond first firstListed
      rcases List.mem_append.mp secondMember with secondListed | secondNew
      · obtain ⟨secondOther, _⟩ := beyond second secondListed
        rw [if_neg firstOther, if_neg secondOther, if_neg firstOther,
          if_neg secondOther]
        exact exact.apart first firstListed second secondListed different
      · have isSpan := List.mem_singleton.mp secondNew
        rw [if_neg firstOther, if_pos isSpan, if_neg firstOther,
          if_pos isSpan]
        omega
    · have isSpan := List.mem_singleton.mp firstNew
      rcases List.mem_append.mp secondMember with secondListed | secondNew
      · obtain ⟨secondOther, secondGap⟩ := beyond second secondListed
        rw [if_pos isSpan, if_neg secondOther, if_pos isSpan,
          if_neg secondOther]
        omega
      · exact (different
          (isSpan.trans (List.mem_singleton.mp secondNew).symm)).elim

/-- Adding an integer that no span holds keeps the tables complete and the
spans separated. -/
theorem Exact.added {start : Int} {queue' : AckQueue} {nodes' : List Ref}
    (exact : Exact queue nodes) (wf : Wf queue nodes)
    (missing : ¬ HoldsIn queue nodes start)
    (added : Added queue nodes start queue' nodes') :
    Exact queue' nodes' := by
  cases added with
  | ignored negative => exact exact
  | merged nonneg split foundLeft foundRight =>
      subst split
      exact Exact.addMerge wf exact foundLeft foundRight
  | grownRight nonneg foundLeft foundRight =>
      exact Exact.addLeft wf exact missing foundLeft foundRight
  | grownLeft nonneg foundLeft foundRight =>
      exact Exact.addRight wf exact missing foundLeft foundRight
  | listed nonneg foundLeft foundRight =>
      exact Exact.addNew wf exact missing foundLeft foundRight

/-- The bounds of a listed span. -/
def bound (queue : AckQueue) (ref : Ref) : Int × Int :=
  ((queue.heap ref).start, (queue.heap ref).end_)

theorem Wf.spans_eq (wf : Wf queue nodes) :
    queue.spans = nodes.map queue.bound := by
  rw [AckQueue.spans, wf.iterator_eq]
  rfl

theorem Wf.covers_spans (wf : Wf queue nodes) (value : Int) :
    IntSpan.Covers queue.spans value ↔ HoldsIn queue nodes value := by
  rw [wf.spans_eq]
  constructor
  · intro covered
    obtain ⟨span, member, bounds⟩ := covered
    obtain ⟨ref, listed, rfl⟩ := List.mem_map.mp member
    exact ⟨ref, listed, bounds⟩
  · intro held
    obtain ⟨ref, listed, bounds⟩ := held
    exact ⟨queue.bound ref, List.mem_map.mpr ⟨ref, listed, rfl⟩, bounds⟩

theorem containsFrom_eq (heap : Heap) (seq : Int) (count : Nat)
    (node : Option Ref) :
    containsFrom heap seq count node = true ↔
      ∃ ref ∈ walk (nextOf heap) count node,
        (heap ref).start ≤ seq ∧ seq < (heap ref).end_ := by
  induction count generalizing node with
  | zero => simp [containsFrom]
  | succ count induction =>
      cases node with
      | none => simp [containsFrom, walk]
      | some ref =>
          rw [containsFrom, walk_succ]
          by_cases inside :
              (heap ref).start ≤ seq ∧ seq < (heap ref).end_
          · simp [inside]
          · rw [if_neg inside, induction]
            simp only [List.mem_cons, exists_eq_or_imp, inside, false_or]
            rfl

theorem Wf.contains_iff (wf : Wf queue nodes) (seq : Int) :
    queue.contains seq = true ↔ HoldsIn queue nodes seq := by
  have visited := wf.iterator_eq
  rw [AckQueue.iterator] at visited
  rw [AckQueue.contains, containsFrom_eq, visited]
  rfl

theorem Wf.contains_add (wf : Wf queue nodes) (deliveryId : Nat)
    (value : Int) :
    (queue.add deliveryId).contains value = true ↔
      queue.contains value = true ∨ value = deliveryId := by
  obtain ⟨nodes', added⟩ := wf.add_cases deliveryId
  rw [(wf.added added).contains_iff, wf.holdsIn_added added,
    wf.contains_iff, and_iff_left (Int.natCast_nonneg deliveryId)]

theorem Exact.spans_pairwise (exact : Exact queue nodes)
    (wf : Wf queue nodes) : queue.spans.Pairwise IntSpan.Apart := by
  rw [wf.spans_eq, List.pairwise_map]
  refine wf.ring.nodes_nodup.imp_of_mem ?_
  intro first second firstListed secondListed different
  exact exact.apart first firstListed second secondListed different

theorem Wf.spans_ordered (wf : Wf queue nodes) :
    ∀ span ∈ queue.spans, span.1 < span.2 := by
  intro span member
  rw [wf.spans_eq] at member
  obtain ⟨ref, listed, rfl⟩ := List.mem_map.mp member
  exact (wf.bounds ref listed).2

/-- `add` of an integer that is not negative always changes the sequence of
spans: their number, or the bounds of one of them. -/
theorem Wf.spans_added_ne {start : Int} {queue' : AckQueue}
    {nodes' : List Ref} (wf : Wf queue nodes) (nonneg : 0 ≤ start)
    (added : Added queue nodes start queue' nodes') :
    queue'.spans ≠ queue.spans := by
  rw [(wf.added added).spans_eq, wf.spans_eq]
  cases added with
  | ignored negative => omega
  | merged nonneg split foundLeft foundRight =>
      intro same
      have lengths := congrArg List.length same
      simp [split] at lengths
  | @grownRight leftSpan nonneg foundLeft foundRight =>
      intro same
      obtain ⟨listed, _⟩ := wf.rightTable _ _ foundLeft
      have bounds := List.map_inj_left.mp same leftSpan listed
      have ends : (queue.heap leftSpan).end_ + 1 =
          (queue.heap leftSpan).end_ := by
        simpa only [bound, AckQueue.addLeft, Heap.setEnd_apply, if_true]
          using congrArg Prod.snd bounds
      omega
  | @grownLeft rightSpan nonneg foundLeft foundRight =>
      intro same
      obtain ⟨listed, _⟩ := wf.leftTable _ _ foundRight
      have bounds := List.map_inj_left.mp same rightSpan listed
      have starts : (queue.heap rightSpan).start - 1 =
          (queue.heap rightSpan).start := by
        simpa only [bound, AckQueue.addRight, Heap.setStart_apply, if_true]
          using congrArg Prod.fst bounds
      omega
  | listed nonneg foundLeft foundRight =>
      intro same
      have lengths := congrArg List.length same
      simp at lengths

end

/-- A call that changes an acknowledgement queue. -/
inductive Op where
  | add (start : Int)
  | clear

def Op.apply (queue : AckQueue) : Op → AckQueue
  | .add start => queue.add start
  | .clear => queue.clear

/-- The queue after a sequence of calls on a new one. -/
def runOps (ops : List Op) : AckQueue :=
  ops.foldl Op.apply new

def Op.record (added : List Int) : Op → List Int
  | .add start => added ++ [start]
  | .clear => []

/-- The arguments of the `add` calls since the last `clear`, in order. -/
def addedSinceClear (ops : List Op) : List Int :=
  ops.foldl Op.record []

/-- What the reachable queues satisfy, over the nodes of their ring. -/
structure Reached (queue : AckQueue) (added : List Int)
    (nodes : List Ref) : Prop where
  wf : Wf queue nodes
  holds : ∀ value, HoldsIn queue nodes value ↔ 0 ≤ value ∧ value ∈ added
  exact : added.Nodup → Exact queue nodes

theorem Reached.add {queue : AckQueue} {added : List Int} {nodes : List Ref}
    (reached : Reached queue added nodes) (start : Int) :
    ∃ nodes', Reached (queue.add start) (added ++ [start]) nodes' := by
  obtain ⟨nodes', step⟩ := reached.wf.add_cases start
  refine ⟨nodes', reached.wf.added step, ?_, ?_⟩
  · intro value
    rw [reached.wf.holdsIn_added step, reached.holds, List.mem_append,
      List.mem_singleton]
    constructor
    · rintro (⟨nonneg, member⟩ | ⟨same, nonneg⟩)
      · exact ⟨nonneg, .inl member⟩
      · exact ⟨same ▸ nonneg, .inr same⟩
    · rintro ⟨nonneg, member | same⟩
      · exact .inl ⟨nonneg, member⟩
      · exact .inr ⟨same, same ▸ nonneg⟩
  · intro distinct
    obtain ⟨before, _, disjoint⟩ := List.nodup_append'.mp distinct
    have missing : ¬ HoldsIn queue nodes start := by
      intro held
      exact disjoint ((reached.holds start).mp held).2 (by simp)
    exact (reached.exact before).added reached.wf missing step

theorem Reached.clear {queue : AckQueue} {added : List Int}
    {nodes : List Ref} (reached : Reached queue added nodes) :
    Reached queue.clear [] [] where
  wf := reached.wf.clear
  holds := by simp [HoldsIn]
  exact := fun _ => ⟨by simp, by simp, by simp⟩

theorem runOps_reached (ops : List Op) :
    ∃ nodes, Reached (runOps ops) (addedSinceClear ops) nodes := by
  induction ops using List.reverseRecOn with
  | nil =>
      exact ⟨[], new_wf, by simp [HoldsIn, addedSinceClear],
        fun _ => ⟨by simp, by simp, by simp⟩⟩
  | append_singleton ops op induction =>
      obtain ⟨nodes, reached⟩ := induction
      simp only [runOps, addedSinceClear, List.foldl_append, List.foldl_cons,
        List.foldl_nil]
      cases op with
      | add start => exact reached.add start
      | clear => exact ⟨[], reached.clear⟩

/-- The representation of a set of integers by an acknowledgement queue:
what the spans cover, the ring, the two tables, the recycle cache, and, if
no integer was added twice, that the spans are maximal runs. -/
structure Represents (queue : AckQueue) (added : List Int) : Prop where
  spans_cover : ∀ value,
    IntSpan.Covers queue.spans value ↔ 0 ≤ value ∧ value ∈ added
  contains_iff : ∀ value,
    queue.contains value = true ↔ 0 ≤ value ∧ value ∈ added
  ring : IsRing (nextOf queue.heap) (prevOf queue.heap) spanRoot
    queue.iterator
  len_eq : queue.len = queue.iterator.length
  next_inverse : ∀ ref ∈ spanRoot :: queue.iterator,
    ∃ after ∈ spanRoot :: queue.iterator,
      (queue.heap ref).next = some after ∧
        (queue.heap after).prev = some ref
  prev_inverse : ∀ ref ∈ spanRoot :: queue.iterator,
    ∃ before ∈ spanRoot :: queue.iterator,
      (queue.heap ref).prev = some before ∧
        (queue.heap before).next = some ref
  leftTable : ∀ key ref, queue.queryLeft key = some ref →
    ref ∈ queue.iterator ∧ (queue.heap ref).start = key
  rightTable : ∀ key ref, queue.queryRight key = some ref →
    ref ∈ queue.iterator ∧ (queue.heap ref).end_ = key
  cache_unused : ∀ ref ∈ queue.cacheSpans,
    ref ∉ spanRoot :: queue.iterator ∧
      ∀ key, queue.queryLeft key ≠ some ref ∧
        queue.queryRight key ≠ some ref
  maximal : added.Nodup →
    queue.spans.Nodup ∧
      ∀ first last, (first, last) ∈ queue.spans ↔
        IntSpan.MaximalRun {value | 0 ≤ value ∧ value ∈ added} first last

/-- After every sequence of calls the queue represents the integers that
were added since the last `clear`. -/
theorem runOps_represents (ops : List Op) :
    Represents (runOps ops) (addedSinceClear ops) := by
  obtain ⟨nodes, reached⟩ := runOps_reached ops
  have wf := reached.wf
  have listedEq := wf.iterator_eq
  constructor
  · intro value
    rw [wf.covers_spans, reached.holds]
  · intro value
    rw [wf.contains_iff, reached.holds]
  · rw [listedEq]
    exact wf.ring
  · rw [listedEq]
    exact wf.count
  · rw [listedEq]
    intro ref member
    exact wf.ring.next_inverse member
  · rw [listedEq]
    intro ref member
    exact wf.ring.prev_inverse member
  · rw [listedEq]
    exact wf.leftTable
  · rw [listedEq]
    exact wf.rightTable
  · rw [listedEq]
    intro ref cached
    have unlisted := wf.cacheUnlisted ref cached
    refine ⟨unlisted, ?_⟩
    intro key
    constructor
    · intro entry
      exact unlisted (List.mem_cons_of_mem _ (wf.leftTable key ref entry).1)
    · intro entry
      exact unlisted (List.mem_cons_of_mem _ (wf.rightTable key ref entry).1)
  · intro distinct
    have separated := (reached.exact distinct).spans_pairwise wf
    have ordered := wf.spans_ordered
    have covered : {value | IntSpan.Covers (runOps ops).spans value} =
        {value | 0 ≤ value ∧ value ∈ addedSinceClear ops} := by
      ext value
      simp only [Set.mem_ofPred_eq]
      rw [wf.covers_spans, reached.holds]
    constructor
    · refine separated.imp_of_mem ?_
      intro first second firstMember _ apart same
      subst same
      have nonempty := ordered first firstMember
      rcases apart with before | after
      · omega
      · omega
    · intro first last
      rw [← covered]
      exact IntSpan.mem_iff_maximalRun ordered separated first last

/-- `add(start)` has no effect on `queue` that a caller can observe, now or
after any later additions. -/
def AddUnobservable (queue : AckQueue) (start : Int) : Prop :=
  (queue.add start).spans = queue.spans ∧
    (queue.add start).len = queue.len ∧
    (queue.add start).firstEnd = queue.firstEnd ∧
    ∀ later : List Int,
      (later.foldl add (queue.add start)).spans =
          (later.foldl add queue).spans ∧
        (later.foldl add (queue.add start)).firstEnd =
          (later.foldl add queue).firstEnd

/-- Adding an integer that the queue contains is never a no-op. -/
theorem repeated_add_observable (ops : List Op) (start : Int)
    (contained : (runOps ops).contains start = true) :
    ¬ AddUnobservable (runOps ops) start := by
  obtain ⟨nodes, reached⟩ := runOps_reached ops
  have nonneg : 0 ≤ start := by
    rw [reached.wf.contains_iff, reached.holds] at contained
    exact contained.1
  obtain ⟨nodes', step⟩ := reached.wf.add_cases start
  intro unobservable
  exact reached.wf.spans_added_ne nonneg step unobservable.1

theorem repeated_add_observable_zero :
    (runOps [.add 0]).contains 0 = true ∧
      ¬ AddUnobservable (runOps [.add 0]) 0 :=
  ⟨by decide, repeated_add_observable [.add 0] 0 (by decide)⟩

/-- A repeated `0` takes over the lookup entry of the first span, so that a
later `1` no longer moves `first_end`. -/
theorem repeated_add_stops_firstEnd :
    (runOps [.add 0]).contains 0 = true ∧
      ((runOps [.add 0]).add 1).firstEnd = 2 ∧
      (((runOps [.add 0]).add 0).add 1).firstEnd = 1 ∧
      ¬ AddUnobservable (runOps [.add 0]) 0 := by
  refine ⟨by decide, by decide, by decide, ?_⟩
  intro unobservable
  have later := (unobservable.2.2.2 [1]).2
  revert later
  decide

end AckQueue

end TinyChat
