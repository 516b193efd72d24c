import TinyChat.Lib.IntSpan
import TinyChat.Message.Queue

/-!
# Well-formedness of the acknowledgement queue

`AckQueue.Wf` ties the heap, the two lookup tables and the recycle cache to
the list of nodes that stand on the ring.  Every branch of `add`, and
`clear`, keeps it; each branch also says which node changes its bounds.
-/

namespace TinyChat

open LinkedRing

namespace Heap

variable (heap : Heap) (target value : Option Ref) (ref other : Ref)
  (bound : Int)

@[simp] theorem setNext_apply :
    heap.setNext target value ref =
      { heap ref with
        next := if target = some ref then value else (heap ref).next } := by
  cases target with
  | none => simp [setNext]
  | some node =>
      by_cases same : ref = node
      · subst same
        simp [setNext]
      · simp [setNext, same, Ne.symm same]

@[simp] theorem setPrev_apply :
    heap.setPrev target value ref =
      { heap ref with
        prev := if target = some ref then value else (heap ref).prev } := by
  cases target with
  | none => simp [setPrev]
  | some node =>
      by_cases same : ref = node
      · subst same
        simp [setPrev]
      · simp [setPrev, same, Ne.symm same]

@[simp] theorem setStart_apply :
    heap.setStart other bound ref =
      { heap ref with
        start := if ref = other then bound else (heap ref).start } := by
  by_cases same : ref = other
  · subst same
    simp [setStart]
  · simp [setStart, same]

@[simp] theorem setEnd_apply :
    heap.setEnd other bound ref =
      { heap ref with
        end_ := if ref = other then bound else (heap ref).end_ } := by
  by_cases same : ref = other
  · subst same
    simp [setEnd]
  · simp [setEnd, same]

end Heap

namespace AckQueue

/-- `nodes` are the references on the ring, in list order. -/
structure Wf (queue : AckQueue) (nodes : List Ref) : Prop where
  ring : IsRing (nextOf queue.heap) (prevOf queue.heap) spanRoot nodes
  count : queue.cnt = nodes.length
  bounds : ∀ ref ∈ nodes,
    0 ≤ (queue.heap ref).start ∧
      (queue.heap ref).start < (queue.heap ref).end_
  leftTable : ∀ key ref, queue.queryLeft key = some ref →
    ref ∈ nodes ∧ (queue.heap ref).start = key
  rightTable : ∀ key ref, queue.queryRight key = some ref →
    ref ∈ nodes ∧ (queue.heap ref).end_ = key
  cacheNodup : queue.cacheSpans.Nodup
  cacheUnlisted : ∀ ref ∈ queue.cacheSpans, ref ∉ spanRoot :: nodes
  rootAllocated : spanRoot < queue.fresh
  nodesAllocated : ∀ ref ∈ nodes, ref < queue.fresh
  cacheAllocated : ∀ ref ∈ queue.cacheSpans, ref < queue.fresh
  sentinel : (queue.heap spanRoot).end_ = 0

/-- The integer lies in the span of a listed node. -/
def HoldsIn (queue : AckQueue) (nodes : List Ref) (value : Int) : Prop :=
  ∃ ref ∈ nodes,
    (queue.heap ref).start ≤ value ∧ value < (queue.heap ref).end_

theorem new_wf : Wf new [] where
  ring := IsRing.singleton rfl rfl
  count := rfl
  bounds := by simp
  leftTable := by simp [new]
  rightTable := by simp [new]
  cacheNodup := by simp [new]
  cacheUnlisted := by simp [new]
  rootAllocated := by simp [new, spanRoot]
  nodesAllocated := by simp
  cacheAllocated := by simp [new]
  sentinel := rfl

section

variable {queue : AckQueue} {nodes : List Ref}

theorem Wf.iterator_eq (wf : Wf queue nodes) : queue.iterator = nodes := by
  have walked := wf.ring.walk_eq
  rw [← wf.count] at walked
  exact walked

theorem Wf.listed (wf : Wf queue nodes) : Wf queue queue.iterator :=
  wf.iterator_eq ▸ wf

theorem Wf.root_notMem (wf : Wf queue nodes) : spanRoot ∉ nodes :=
  wf.ring.root_notMem

theorem cacheAppend_sublist (cache : List Ref) (span : Ref) :
    (cacheAppend cache span).Sublist (cache ++ [span]) :=
  List.drop_sublist _ _

theorem mem_cacheAppend {cache : List Ref} {span ref : Ref}
    (member : ref ∈ cacheAppend cache span) : ref ∈ cache ∨ ref = span := by
  simpa using (cacheAppend_sublist cache span).mem member

theorem Wf.addLeft {start : Int} {leftSpan : Ref} (wf : Wf queue nodes)
    (found : queue.queryRight start = some leftSpan) :
    Wf (queue.addLeft start leftSpan) nodes := by
  obtain ⟨listed, endEq⟩ := wf.rightTable start leftSpan found
  have notRoot : spanRoot ≠ leftSpan := by
    intro same
    exact wf.root_notMem (same ▸ listed)
  constructor
  · exact wf.ring.congr (by simp [AckQueue.addLeft, nextOf])
      (by simp [AckQueue.addLeft, prevOf])
  · exact wf.count
  · intro ref member
    have old := wf.bounds ref member
    simp only [AckQueue.addLeft, Heap.setEnd_apply]
    split
    · rename_i same
      subst same
      omega
    · exact old
  · intro key ref entry
    have old := wf.leftTable key ref entry
    simpa [AckQueue.addLeft] using old
  · intro key ref entry
    simp only [AckQueue.addLeft, Function.update_apply] at entry
    split at entry
    · rename_i atNew
      cases entry
      simp [AckQueue.addLeft, listed, endEq, atNew]
    · split at entry
      · cases entry
      · rename_i notStart
        obtain ⟨member, keyEq⟩ := wf.rightTable key ref entry
        have different : ref ≠ leftSpan := by
          intro same
          subst same
          exact notStart (keyEq.symm.trans endEq)
        simp [AckQueue.addLeft, member, keyEq, different]
  · exact wf.cacheNodup
  · exact wf.cacheUnlisted
  · exact wf.rootAllocated
  · exact wf.nodesAllocated
  · exact wf.cacheAllocated
  · simpa [AckQueue.addLeft, notRoot] using wf.sentinel

theorem Wf.addRight {start : Int} {rightSpan : Ref} (wf : Wf queue nodes)
    (nonneg : 0 ≤ start)
    (found : queue.queryLeft (start + 1) = some rightSpan) :
    Wf (queue.addRight start rightSpan) nodes := by
  obtain ⟨listed, startEq⟩ := wf.leftTable (start + 1) rightSpan found
  constructor
  · exact wf.ring.congr (by simp [AckQueue.addRight, nextOf])
      (by simp [AckQueue.addRight, prevOf])
  · exact wf.count
  · intro ref member
    have old := wf.bounds ref member
    simp only [AckQueue.addRight, Heap.setStart_apply]
    split
    · rename_i same
      subst same
      omega
    · exact old
  · intro key ref entry
    simp only [AckQueue.addRight, Function.update_apply] at entry
    split at entry
    · rename_i atNew
      cases entry
      simp [AckQueue.addRight, listed, startEq, atNew]
    · split at entry
      · cases entry
      · rename_i notStart
        obtain ⟨member, keyEq⟩ := wf.leftTable key ref entry
        have different : ref ≠ rightSpan := by
          intro same
          subst same
          exact notStart (keyEq.symm.trans startEq)
        simp [AckQueue.addRight, member, keyEq, different]
  · intro key ref entry
    have old := wf.rightTable key ref entry
    simpa [AckQueue.addRight] using old
  · exact wf.cacheNodup
  · exact wf.cacheUnlisted
  · exact wf.rootAllocated
  · exact wf.nodesAllocated
  · exact wf.cacheAllocated
  · simpa [AckQueue.addRight] using wf.sentinel

theorem Wf.left_ne_right {start : Int} {leftSpan rightSpan : Ref}
    (wf : Wf queue nodes)
    (foundLeft : queue.queryRight start = some leftSpan)
    (foundRight : queue.queryLeft (start + 1) = some rightSpan) :
    leftSpan ≠ rightSpan := by
  obtain ⟨listed, endEq⟩ := wf.rightTable start leftSpan foundLeft
  obtain ⟨_, startEq⟩ := wf.leftTable (start + 1) rightSpan foundRight
  have ordered := (wf.bounds leftSpan listed).2
  intro same
  subst same
  omega

theorem mem_middle {front rest : List Ref} {span ref : Ref} :
    ref ∈ front ++ span :: rest ↔ ref = span ∨ ref ∈ front ++ rest := by
  rw [List.perm_middle.mem_iff, List.mem_cons]

section

variable {start : Int} {leftSpan rightSpan : Ref} {front rest : List Ref}

theorem Wf.addMerge_ring (wf : Wf queue (front ++ rightSpan :: rest)) :
    IsRing (nextOf (queue.addMerge start leftSpan rightSpan).heap)
      (prevOf (queue.addMerge start leftSpan rightSpan).heap) spanRoot
      (front ++ rest) := by
  have listed : rightSpan ∈ spanRoot :: (front ++ rightSpan :: rest) := by
    simp
  obtain ⟨before, _, prevLink, _⟩ := wf.ring.prev_inverse listed
  obtain ⟨after, _, nextLink, _⟩ := wf.ring.next_inverse listed
  simp only [prevOf] at prevLink
  simp only [nextOf] at nextLink
  refine wf.ring.remove prevLink nextLink ?_ ?_ ?_ ?_
  · simp [AckQueue.addMerge, nextOf, prevLink, nextLink]
  · simp [AckQueue.addMerge, prevOf, prevLink, nextLink]
  · intro node different
    simp [AckQueue.addMerge, nextOf, prevLink, Ne.symm different]
  · intro node different
    simp [AckQueue.addMerge, prevOf, nextLink, Ne.symm different]

theorem Wf.addMerge_leftTable (wf : Wf queue (front ++ rightSpan :: rest))
    (foundRight : queue.queryLeft (start + 1) = some rightSpan) {key : Int}
    {ref : Ref}
    (entry : (queue.addMerge start leftSpan rightSpan).queryLeft key =
      some ref) :
    ref ∈ front ++ rest ∧
      ((queue.addMerge start leftSpan rightSpan).heap ref).start = key := by
  obtain ⟨_, startEq⟩ := wf.leftTable (start + 1) rightSpan foundRight
  simp only [AckQueue.addMerge, Function.update_apply] at entry
  split at entry
  · cases entry
  · rename_i notStart
    obtain ⟨member, keyEq⟩ := wf.leftTable key ref entry
    have different : ref ≠ rightSpan := by
      intro same
      subst same
      exact notStart (keyEq.symm.trans startEq)
    simpa [AckQueue.addMerge, keyEq] using
      (mem_middle.mp member).resolve_left different

theorem Wf.addMerge_rightTable (wf : Wf queue (front ++ rightSpan :: rest))
    (foundLeft : queue.queryRight start = some leftSpan)
    (foundRight : queue.queryLeft (start + 1) = some rightSpan) {key : Int}
    {ref : Ref}
    (entry : (queue.addMerge start leftSpan rightSpan).queryRight key =
      some ref) :
    ref ∈ front ++ rest ∧
      ((queue.addMerge start leftSpan rightSpan).heap ref).end_ = key := by
  obtain ⟨leftListed, endEq⟩ := wf.rightTable start leftSpan foundLeft
  simp only [AckQueue.addMerge, Function.update_apply] at entry
  split at entry
  · rename_i atEnd
    cases entry
    have distinct := wf.left_ne_right foundLeft foundRight
    exact ⟨(mem_middle.mp leftListed).resolve_left distinct,
      by simp [AckQueue.addMerge, atEnd]⟩
  · rename_i notEnd
    split at entry
    · cases entry
    · rename_i notStart
      obtain ⟨member, keyEq⟩ := wf.rightTable key ref entry
      have notRight : ref ≠ rightSpan := by
        intro same
        subst same
        exact notEnd keyEq.symm
      have notLeft : ref ≠ leftSpan := by
        intro same
        subst same
        exact notStart (keyEq.symm.trans endEq)
      exact ⟨(mem_middle.mp member).resolve_left notRight,
        by simp [AckQueue.addMerge, notLeft, keyEq]⟩

theorem Wf.recycled_unlisted (wf : Wf queue (front ++ rightSpan :: rest))
    {ref : Ref} (member : ref ∈ cacheAppend queue.cacheSpans rightSpan) :
    ref ∉ spanRoot :: (front ++ rest) := by
  have nodup := wf.ring.nodes_nodup
  rw [List.nodup_middle, List.nodup_cons] at nodup
  rcases mem_cacheAppend member with cached | isRight
  · have unlisted := wf.cacheUnlisted ref cached
    simp only [List.mem_cons, List.mem_append] at unlisted ⊢
    tauto
  · subst isRight
    have notRoot : ref ≠ spanRoot := by
      intro same
      exact wf.root_notMem (same ▸ mem_middle.mpr (.inl rfl))
    simpa [notRoot] using nodup.1

theorem Wf.recycled_nodup (wf : Wf queue (front ++ rightSpan :: rest)) :
    (cacheAppend queue.cacheSpans rightSpan).Nodup := by
  refine (cacheAppend_sublist _ _).nodup ?_
  refine List.nodup_append'.mpr ⟨wf.cacheNodup, by simp, ?_⟩
  rw [List.disjoint_singleton]
  intro cached
  exact wf.cacheUnlisted rightSpan cached
    (List.mem_cons_of_mem _ (mem_middle.mpr (.inl rfl)))

theorem Wf.addMerge (wf : Wf queue (front ++ rightSpan :: rest))
    (foundLeft : queue.queryRight start = some leftSpan)
    (foundRight : queue.queryLeft (start + 1) = some rightSpan) :
    Wf (queue.addMerge start leftSpan rightSpan) (front ++ rest) := by
  obtain ⟨leftListed, endEq⟩ := wf.rightTable start leftSpan foundLeft
  obtain ⟨rightListed, startEq⟩ :=
    wf.leftTable (start + 1) rightSpan foundRight
  have rightOrdered := (wf.bounds rightSpan rightListed).2
  have leftBounds := wf.bounds leftSpan leftListed
  have leftNotRoot : spanRoot ≠ leftSpan := by
    intro same
    exact wf.root_notMem (same ▸ leftListed)
  constructor
  · exact wf.addMerge_ring
  · simp [AckQueue.addMerge, wf.count]
  · intro ref member
    have old := wf.bounds ref (mem_middle.mpr (.inr member))
    simp only [AckQueue.addMerge, Heap.setEnd_apply, Heap.setPrev_apply,
      Heap.setNext_apply]
    split
    · rename_i same
      subst same
      omega
    · exact old
  · intro key ref entry
    exact wf.addMerge_leftTable foundRight entry
  · intro key ref entry
    exact wf.addMerge_rightTable foundLeft foundRight entry
  · exact wf.recycled_nodup
  · intro ref member
    exact wf.recycled_unlisted member
  · exact wf.rootAllocated
  · intro ref member
    exact wf.nodesAllocated ref (mem_middle.mpr (.inr member))
  · intro ref member
    rcases mem_cacheAppend member with cached | isRight
    · exact wf.cacheAllocated ref cached
    · subst isRight
      exact wf.nodesAllocated ref rightListed
  · simpa [AckQueue.addMerge, leftNotRoot] using wf.sentinel

end

/-- What `takeSpan` leaves of the queue, and the span that it hands out. -/
structure Taken (queue : AckQueue) (nodes : List Ref) (start : Int)
    (span : Ref) (after : AckQueue) : Prop where
  unlisted : span ∉ spanRoot :: nodes
  spanBounds : (after.heap span).start = start ∧
    (after.heap span).end_ = start + 1
  others : ∀ ref, ref ≠ span → after.heap ref = queue.heap ref
  cacheSublist : after.cacheSpans.Sublist queue.cacheSpans
  cacheWithout : span ∉ after.cacheSpans
  spanAllocated : span < after.fresh
  freshMono : queue.fresh ≤ after.fresh

theorem Wf.takeSpan (wf : Wf queue nodes) (start : Int) :
    Taken queue nodes start (queue.takeSpan start).1
      (queue.takeSpan start).2 := by
  unfold AckQueue.takeSpan
  cases cached : queue.cacheSpans with
  | nil =>
      have unused : queue.fresh ∉ spanRoot :: nodes := by
        intro member
        rcases List.mem_cons.mp member with isRoot | listed
        · have allocated := wf.rootAllocated
          rw [← isRoot] at allocated
          exact Nat.lt_irrefl _ allocated
        · exact Nat.lt_irrefl _ (wf.nodesAllocated _ listed)
      constructor
      · exact unused
      · simp [RangeSpan.new]
      · intro ref different
        simp [different]
      · simp
      · simp
      · simp
      · simp
  | cons span rest =>
      have nodup := wf.cacheNodup
      rw [cached, List.nodup_cons] at nodup
      have member : span ∈ queue.cacheSpans := by simp [cached]
      constructor
      · exact wf.cacheUnlisted span member
      · simp
      · intro ref different
        simp [different]
      · simp [cached]
      · exact nodup.1
      · exact wf.cacheAllocated span member
      · simp

theorem linkLast_start (heap : Heap) (cnt : Nat) (span ref : Ref) :
    (linkLast heap cnt span ref).start = (heap ref).start := by
  unfold linkLast
  split <;> simp

theorem linkLast_end (heap : Heap) (cnt : Nat) (span ref : Ref) :
    (linkLast heap cnt span ref).end_ = (heap ref).end_ := by
  unfold linkLast
  split <;> simp

/-- Both branches that link a new span read and write the same links: in an
empty list the tail is the root. -/
theorem linkLast_ring {heap : Heap} {cnt : Nat} {span : Ref}
    (ring : IsRing (nextOf heap) (prevOf heap) spanRoot nodes)
    (count : cnt = nodes.length) (unlisted : span ∉ spanRoot :: nodes) :
    IsRing (nextOf (linkLast heap cnt span))
      (prevOf (linkLast heap cnt span)) spanRoot (nodes ++ [span]) := by
  have rootMember : spanRoot ∈ spanRoot :: nodes := by simp
  obtain ⟨last, lastMember, lastLink, _⟩ := ring.prev_inverse rootMember
  have lastNeSpan : last ≠ span := by
    intro same
    exact unlisted (same ▸ lastMember)
  have rootNeSpan : spanRoot ≠ span := by
    intro same
    exact unlisted (same ▸ rootMember)
  have emptyLast : cnt = 0 → last = spanRoot := by
    intro empty
    have noNodes : nodes = [] := List.length_eq_zero_iff.mp (count ▸ empty)
    subst noNodes
    simpa using lastMember
  have links : linkLast heap cnt span =
      (((heap.setPrev (some spanRoot) (some span)).setNext
        (some last) (some span)).setPrev
        (some span) (some last)).setNext (some span) (some spanRoot) := by
    unfold linkLast
    split
    · rename_i empty
      rw [emptyLast empty]
    · rw [show (heap spanRoot).prev = some last from lastLink]
  rw [links]
  refine ring.insertLast unlisted lastLink ?_ ?_ ?_ ?_ ?_ ?_
  · simp [nextOf, Ne.symm lastNeSpan]
  · simp [nextOf]
  · simp [prevOf]
  · simp [prevOf, Ne.symm rootNeSpan]
  · intro node notLast notSpan
    simp [nextOf, Ne.symm notLast, Ne.symm notSpan]
  · intro node notRoot notSpan
    simp [prevOf, Ne.symm notRoot, Ne.symm notSpan]

theorem Wf.addNew_start (wf : Wf queue nodes) (start : Int) (ref : Ref) :
    ((queue.addNew start).heap ref).start =
      if ref = (queue.takeSpan start).1 then start
      else (queue.heap ref).start := by
  have taken := wf.takeSpan start
  have linked : ((queue.addNew start).heap ref).start =
      ((queue.takeSpan start).2.heap ref).start := linkLast_start _ _ _ _
  rw [linked]
  split
  · rename_i same
    rw [same, taken.spanBounds.1]
  · rename_i different
    rw [taken.others ref different]

theorem Wf.addNew_end (wf : Wf queue nodes) (start : Int) (ref : Ref) :
    ((queue.addNew start).heap ref).end_ =
      if ref = (queue.takeSpan start).1 then start + 1
      else (queue.heap ref).end_ := by
  have taken := wf.takeSpan start
  have linked : ((queue.addNew start).heap ref).end_ =
      ((queue.takeSpan start).2.heap ref).end_ := linkLast_end _ _ _ _
  rw [linked]
  split
  · rename_i same
    rw [same, taken.spanBounds.2]
  · rename_i different
    rw [taken.others ref different]

theorem Wf.addNew_ring (wf : Wf queue nodes) (start : Int) :
    IsRing (nextOf (queue.addNew start).heap)
      (prevOf (queue.addNew start).heap) spanRoot
      (nodes ++ [(queue.takeSpan start).1]) := by
  have taken := wf.takeSpan start
  have unchanged : ∀ node ∈ spanRoot :: nodes,
      (queue.takeSpan start).2.heap node = queue.heap node := by
    intro node member
    apply taken.others node
    intro same
    exact taken.unlisted (same ▸ member)
  refine linkLast_ring ?_ wf.count taken.unlisted
  refine wf.ring.congr ?_ ?_
  · intro node member
    simp [nextOf, unchanged node member]
  · intro node member
    simp [prevOf, unchanged node member]

theorem Wf.addNew (wf : Wf queue nodes) {start : Int} (nonneg : 0 ≤ start) :
    Wf (queue.addNew start) (nodes ++ [(queue.takeSpan start).1]) := by
  have taken := wf.takeSpan start
  have startOf := wf.addNew_start start
  have endOf := wf.addNew_end start
  generalize spanEq : (queue.takeSpan start).1 = span at taken startOf endOf
  generalize afterEq : (queue.takeSpan start).2 = after at taken
  have spanNotRoot : spanRoot ≠ span := by
    intro same
    exact taken.unlisted (by simp [same])
  have spanNotListed : span ∉ nodes := by
    intro listed
    exact taken.unlisted (List.mem_cons_of_mem _ listed)
  have listedOther : ∀ ref ∈ nodes, ref ≠ span := by
    intro ref listed same
    exact spanNotListed (same ▸ listed)
  have cacheEq : (queue.addNew start).cacheSpans = after.cacheSpans := by
    rw [← afterEq]
    rfl
  have freshEq : (queue.addNew start).fresh = after.fresh := by
    rw [← afterEq]
    rfl
  constructor
  · rw [← spanEq]
    exact wf.addNew_ring start
  · simp [AckQueue.addNew, wf.count]
  · intro ref member
    rw [startOf, endOf]
    rcases List.mem_append.mp member with listed | isSpan
    · simpa [listedOther ref listed] using wf.bounds ref listed
    · rw [if_pos (List.mem_singleton.mp isSpan),
        if_pos (List.mem_singleton.mp isSpan)]
      omega
  · intro key ref entry
    simp only [AckQueue.addNew, Function.update_apply, spanEq] at entry
    rw [startOf]
    split at entry
    · rename_i atStart
      cases entry
      simp [atStart]
    · obtain ⟨listed, keyEq⟩ := wf.leftTable key ref entry
      simp [listed, listedOther ref listed, keyEq]
  · intro key ref entry
    simp only [AckQueue.addNew, Function.update_apply, spanEq] at entry
    rw [endOf]
    split at entry
    · rename_i atEnd
      cases entry
      simp [atEnd]
    · obtain ⟨listed, keyEq⟩ := wf.rightTable key ref entry
      simp [listed, listedOther ref listed, keyEq]
  · rw [cacheEq]
    exact taken.cacheSublist.nodup wf.cacheNodup
  · intro ref member
    rw [cacheEq] at member
    have unlisted := wf.cacheUnlisted ref (taken.cacheSublist.mem member)
    have different : ref ≠ span := by
      intro same
      exact taken.cacheWithout (same ▸ member)
    simpa [different] using unlisted
  · rw [freshEq]
    exact Nat.lt_of_lt_of_le wf.rootAllocated taken.freshMono
  · intro ref member
    rw [freshEq]
    rcases List.mem_append.mp member with listed | isSpan
    · exact Nat.lt_of_lt_of_le (wf.nodesAllocated ref listed) taken.freshMono
    · rw [List.mem_singleton.mp isSpan]
      exact taken.spanAllocated
  · intro ref member
    rw [cacheEq] at member
    rw [freshEq]
    exact Nat.lt_of_lt_of_le
      (wf.cacheAllocated ref (taken.cacheSublist.mem member)) taken.freshMono
  · rw [endOf, if_neg spanNotRoot]
    exact wf.sentinel

theorem foldl_cacheAppend_sublist (cache spans : List Ref) :
    (spans.foldl cacheAppend cache).Sublist (cache ++ spans) := by
  induction spans generalizing cache with
  | nil => simp
  | cons span spans induction =>
      rw [List.foldl_cons]
      refine (induction (cacheAppend cache span)).trans ?_
      have extended := (cacheAppend_sublist cache span).append_right spans
      simpa using extended

theorem Wf.clear (wf : Wf queue nodes) : Wf queue.clear [] := by
  unfold AckQueue.clear
  split
  · rename_i empty
    have noNodes : nodes = [] :=
      List.length_eq_zero_iff.mp (wf.count ▸ empty)
    subst noNodes
    exact wf
  · have visited : LinkedRing.walk
        (nextOf ((queue.heap.setNext (some spanRoot) (some spanRoot)).setPrev
          (some spanRoot) (some spanRoot))) queue.cnt
        (queue.heap spanRoot).next = nodes := by
      rw [wf.count]
      refine walk_congr wf.ring.path ?_
      intro node listed
      have notRoot : spanRoot ≠ node := by
        intro same
        exact wf.root_notMem (same ▸ listed)
      simp [nextOf, notRoot]
    simp only [visited]
    have cached := foldl_cacheAppend_sublist queue.cacheSpans nodes
    have cases : ∀ ref, ref ∈ nodes.foldl cacheAppend queue.cacheSpans →
        ref ∈ queue.cacheSpans ∨ ref ∈ nodes := by
      intro ref member
      exact List.mem_append.mp (cached.mem member)
    constructor
    · exact IsRing.singleton (by simp [nextOf]) (by simp [prevOf])
    · rfl
    · simp
    · simp
    · simp
    · refine cached.nodup ?_
      refine List.nodup_append'.mpr
        ⟨wf.cacheNodup, wf.ring.nodes_nodup, ?_⟩
      intro ref inCache listed
      exact wf.cacheUnlisted ref inCache (List.mem_cons_of_mem _ listed)
    · intro ref member
      rw [List.mem_singleton]
      rcases cases ref member with inCache | listed
      · intro isRoot
        exact wf.cacheUnlisted ref inCache (by simp [isRoot])
      · intro isRoot
        exact wf.root_notMem (isRoot ▸ listed)
    · exact wf.rootAllocated
    · simp
    · intro ref member
      rcases cases ref member with inCache | listed
      · exact wf.cacheAllocated ref inCache
      · exact wf.nodesAllocated ref listed
    · simpa using wf.sentinel

/-- Everything `add` can do to a well-formed queue: ignore a negative
integer, join two spans that meet at it, let one span grow by it, or list a
new span that holds it. -/
inductive Added (queue : AckQueue) (nodes : List Ref) (start : Int) :
    AckQueue → List Ref → Prop where
  | ignored : start < 0 → Added queue nodes start queue nodes
  | merged {front rest : List Ref} {leftSpan rightSpan : Ref} :
      0 ≤ start →
      nodes = front ++ rightSpan :: rest →
      queue.queryRight start = some leftSpan →
      queue.queryLeft (start + 1) = some rightSpan →
      Added queue nodes start (queue.addMerge start leftSpan rightSpan)
        (front ++ rest)
  | grownRight {leftSpan : Ref} :
      0 ≤ start →
      queue.queryRight start = some leftSpan →
      queue.queryLeft (start + 1) = none →
      Added queue nodes start (queue.addLeft start leftSpan) nodes
  | grownLeft {rightSpan : Ref} :
      0 ≤ start →
      queue.queryRight start = none →
      queue.queryLeft (start + 1) = some rightSpan →
      Added queue nodes start (queue.addRight start rightSpan) nodes
  | listed :
      0 ≤ start →
      queue.queryRight start = none →
      queue.queryLeft (start + 1) = none →
      Added queue nodes start (queue.addNew start)
        (nodes ++ [(queue.takeSpan start).1])

theorem Wf.add_cases (wf : Wf queue nodes) (start : Int) :
    ∃ nodes', Added queue nodes start (queue.add start) nodes' := by
  unfold AckQueue.add
  split
  · rename_i negative
    exact ⟨nodes, .ignored negative⟩
  · rename_i notNegative
    have nonneg : 0 ≤ start := by omega
    split
    · rename_i leftSpan rightSpan foundLeft foundRight
      obtain ⟨listed, _⟩ := wf.leftTable _ _ foundRight
      obtain ⟨front, rest, split⟩ := List.append_of_mem listed
      exact ⟨front ++ rest, .merged nonneg split foundLeft foundRight⟩
    · rename_i leftSpan foundLeft foundRight
      exact ⟨nodes, .grownRight nonneg foundLeft foundRight⟩
    · rename_i rightSpan foundLeft foundRight
      exact ⟨nodes, .grownLeft nonneg foundLeft foundRight⟩
    · rename_i foundLeft foundRight
      exact ⟨_, .listed nonneg foundLeft foundRight⟩

theorem Wf.added {start : Int} {queue' : AckQueue} {nodes' : List Ref}
    (wf : Wf queue nodes) (added : Added queue nodes start queue' nodes') :
    Wf queue' nodes' := by
  cases added with
  | ignored negative => exact wf
  | merged nonneg split foundLeft foundRight =>
      subst split
      exact wf.addMerge foundLeft foundRight
  | grownRight nonneg foundLeft foundRight => exact wf.addLeft foundLeft
  | grownLeft nonneg foundLeft foundRight =>
      exact wf.addRight nonneg foundRight
  | listed nonneg foundLeft foundRight => exact wf.addNew nonneg

/-! ## The integers that the spans hold -/

theorem Wf.holdsIn_addMerge {start : Int} {leftSpan rightSpan : Ref}
    {front rest : List Ref} (wf : Wf queue (front ++ rightSpan :: rest))
    (foundLeft : queue.queryRight start = some leftSpan)
    (foundRight : queue.queryLeft (start + 1) = some rightSpan)
    (value : Int) :
    HoldsIn (queue.addMerge start leftSpan rightSpan) (front ++ rest)
        value ↔
      HoldsIn queue (front ++ rightSpan :: rest) value ∨ value = start := by
  obtain ⟨leftListed, endEq⟩ := wf.rightTable _ _ foundLeft
  obtain ⟨rightListed, startEq⟩ := wf.leftTable _ _ foundRight
  have distinct := wf.left_ne_right foundLeft foundRight
  have leftBounds := wf.bounds leftSpan leftListed
  have rightBounds := wf.bounds rightSpan rightListed
  have leftStays := (mem_middle.mp leftListed).resolve_left distinct
  simp only [HoldsIn, AckQueue.addMerge, Heap.setEnd_apply,
    Heap.setPrev_apply, Heap.setNext_apply]
  constructor
  · rintro ⟨ref, member, lower, upper⟩
    have listed : ref ∈ front ++ rightSpan :: rest :=
      mem_middle.mpr (.inr member)
    by_cases isLeft : ref = leftSpan
    · subst isLeft
      rw [if_pos rfl] at upper
      by_cases below : value < start
      · exact .inl ⟨ref, listed, lower, by omega⟩
      · by_cases same : value = start
        · exact .inr same
        · exact .inl ⟨rightSpan, rightListed, by omega, upper⟩
    · rw [if_neg isLeft] at upper
      exact .inl ⟨ref, listed, lower, upper⟩
  · rintro (⟨ref, listed, lower, upper⟩ | same)
    · by_cases isRight : ref = rightSpan
      · subst isRight
        refine ⟨leftSpan, leftStays, by omega, ?_⟩
        rw [if_pos rfl]
        exact upper
      · refine ⟨ref, (mem_middle.mp listed).resolve_left isRight, lower, ?_⟩
        split
        · rename_i isLeft
          subst isLeft
          omega
        · exact upper
    · refine ⟨leftSpan, leftStays, by omega, ?_⟩
      rw [if_pos rfl]
      omega

theorem Wf.holdsIn_addLeft {start : Int} {leftSpan : Ref}
    (wf : Wf queue nodes)
    (foundLeft : queue.queryRight start = some leftSpan) (value : Int) :
    HoldsIn (queue.addLeft start leftSpan) nodes value ↔
      HoldsIn queue nodes value ∨ value = start := by
  obtain ⟨leftListed, endEq⟩ := wf.rightTable _ _ foundLeft
  have leftBounds := wf.bounds leftSpan leftListed
  simp only [HoldsIn, AckQueue.addLeft, Heap.setEnd_apply]
  constructor
  · rintro ⟨ref, listed, lower, upper⟩
    by_cases isLeft : ref = leftSpan
    · subst isLeft
      rw [if_pos rfl] at upper
      by_cases same : value = start
      · exact .inr same
      · exact .inl ⟨ref, listed, lower, by omega⟩
    · rw [if_neg isLeft] at upper
      exact .inl ⟨ref, listed, lower, upper⟩
  · rintro (⟨ref, listed, lower, upper⟩ | same)
    · refine ⟨ref, listed, lower, ?_⟩
      split
      · rename_i isLeft
        subst isLeft
        omega
      · exact upper
    · refine ⟨leftSpan, leftListed, by omega, ?_⟩
      rw [if_pos rfl]
      omega

theorem Wf.holdsIn_addRight {start : Int} {rightSpan : Ref}
    (wf : Wf queue nodes)
    (foundRight : queue.queryLeft (start + 1) = some rightSpan)
    (value : Int) :
    HoldsIn (queue.addRight start rightSpan) nodes value ↔
      HoldsIn queue nodes value ∨ value = start := by
  obtain ⟨rightListed, startEq⟩ := wf.leftTable _ _ foundRight
  have rightBounds := wf.bounds rightSpan rightListed
  simp only [HoldsIn, AckQueue.addRight, Heap.setStart_apply]
  constructor
  · rintro ⟨ref, listed, lower, upper⟩
    by_cases isRight : ref = rightSpan
    · subst isRight
      rw [if_pos rfl] at lower
      by_cases same : value = start
      · exact .inr same
      · exact .inl ⟨ref, listed, by omega, upper⟩
    · rw [if_neg isRight] at lower
      exact .inl ⟨ref, listed, lower, upper⟩
  · rintro (⟨ref, listed, lower, upper⟩ | same)
    · refine ⟨ref, listed, ?_, upper⟩
      split
      · rename_i isRight
        subst isRight
        omega
      · exact lower
    · refine ⟨rightSpan, rightListed, ?_, by omega⟩
      rw [if_pos rfl]
      omega

theorem Wf.holdsIn_addNew (wf : Wf queue nodes) (start value : Int) :
    HoldsIn (queue.addNew start)
        (nodes ++ [(queue.takeSpan start).1]) value ↔
      HoldsIn queue nodes value ∨ value = start := by
  have unlisted := (wf.takeSpan start).unlisted
  simp only [HoldsIn, wf.addNew_start, wf.addNew_end]
  constructor
  · rintro ⟨ref, member, lower, upper⟩
    by_cases isNew : ref = (queue.takeSpan start).1
    · rw [if_pos isNew] at lower upper
      exact .inr (by omega)
    · rw [if_neg isNew] at lower upper
      exact .inl ⟨ref, by simpa [isNew] using member, lower, upper⟩
  · rintro (⟨ref, listed, lower, upper⟩ | same)
    · have notNew : ref ≠ (queue.takeSpan start).1 := by
        intro isNew
        exact unlisted (List.mem_cons_of_mem _ (isNew ▸ listed))
      refine ⟨ref, by simp [listed], ?_, ?_⟩
      · rwa [if_neg notNew]
      · rwa [if_neg notNew]
    · refine ⟨(queue.takeSpan start).1, by simp, ?_, ?_⟩
      · rw [if_pos rfl]
        omega
      · rw [if_pos rfl]
        omega

/-- `add` adds its argument, when that is not negative, to the integers
that the listed spans hold, and nothing else. -/
theorem Wf.holdsIn_added {start : Int} {queue' : AckQueue}
    {nodes' : List Ref} (wf : Wf queue nodes)
    (added : Added queue nodes start queue' nodes') (value : Int) :
    HoldsIn queue' nodes' value ↔
      HoldsIn queue nodes value ∨ (value = start ∧ 0 ≤ start) := by
  cases added with
  | ignored negative =>
      constructor
      · exact .inl
      · rintro (held | ⟨_, nonneg⟩)
        · exact held
        · omega
  | merged nonneg split foundLeft foundRight =>
      subst split
      rw [wf.holdsIn_addMerge foundLeft foundRight, and_iff_left nonneg]
  | grownRight nonneg foundLeft foundRight =>
      rw [wf.holdsIn_addLeft foundLeft, and_iff_left nonneg]
  | grownLeft nonneg foundLeft foundRight =>
      rw [wf.holdsIn_addRight foundRight, and_iff_left nonneg]
  | listed nonneg foundLeft foundRight =>
      rw [wf.holdsIn_addNew, and_iff_left nonneg]

end

end AckQueue

end TinyChat
