import TinyChat.Message.QueueInvariant

/-!
# The list under a cursor

What `add` leaves of the spans from some node of the list on: a span that
stays on the list does not shrink, and the only span that can leave the list
is the right one of two spans that are joined.
-/

namespace TinyChat

namespace AckQueue

variable {queue queue' : AckQueue} {nodes nodes' : List Ref} {start : Int}

theorem Wf.grows (wf : Wf queue nodes)
    (added : Added queue nodes start queue' nodes') {ref : Ref}
    (before : ref ∈ nodes) (after : ref ∈ nodes') :
    (queue'.heap ref).start ≤ (queue.heap ref).start ∧
      (queue.heap ref).end_ ≤ (queue'.heap ref).end_ := by
  cases added with
  | ignored negative => exact ⟨le_refl _, le_refl _⟩
  | @merged front rest leftSpan rightSpan nonneg split foundLeft foundRight =>
      obtain ⟨_, endEq⟩ := wf.rightTable start leftSpan foundLeft
      obtain ⟨rightListed, startEq⟩ :=
        wf.leftTable (start + 1) rightSpan foundRight
      have rightOrdered := (wf.bounds rightSpan rightListed).2
      simp only [AckQueue.addMerge, Heap.setEnd_apply, Heap.setPrev_apply,
        Heap.setNext_apply, le_refl, true_and]
      split_ifs with isLeft
      · subst isLeft
        omega
      · exact le_refl _
  | @grownRight leftSpan nonneg foundLeft foundRight =>
      simp only [AckQueue.addLeft, Heap.setEnd_apply, le_refl, true_and]
      split_ifs with isLeft
      · subst isLeft
        omega
      · exact le_refl _
  | @grownLeft rightSpan nonneg foundLeft foundRight =>
      simp only [AckQueue.addRight, Heap.setStart_apply, le_refl, and_true]
      split_ifs with isRight
      · subst isRight
        omega
      · exact le_refl _
  | listed nonneg foundLeft foundRight =>
      have unlisted := (wf.takeSpan start).unlisted
      have other : ref ≠ (queue.takeSpan start).1 := by
        intro same
        exact unlisted (List.mem_cons_of_mem _ (same ▸ before))
      rw [wf.addNew_start, wf.addNew_end, if_neg other, if_neg other]
      exact ⟨le_refl _, le_refl _⟩

/-- The span that an id joins: the one that ends at it, or the one that
starts after it. -/
def joined (queue : AckQueue) (start : Int) : Option Ref :=
  (queue.queryRight start).or (queue.queryLeft (start + 1))

theorem Wf.joined_holds (wf : Wf queue nodes)
    (added : Added queue nodes start queue' nodes') {ref : Ref}
    (nonneg : 0 ≤ start) (joins : queue.joined start = some ref) :
    ref ∈ nodes' ∧ (queue'.heap ref).start ≤ start ∧
      start < (queue'.heap ref).end_ := by
  cases added with
  | ignored negative => omega
  | @merged front rest leftSpan rightSpan nonneg split foundLeft foundRight =>
      simp only [joined, foundLeft, Option.some_or] at joins
      cases joins
      obtain ⟨leftListed, endEq⟩ := wf.rightTable start ref foundLeft
      obtain ⟨rightListed, startEq⟩ :=
        wf.leftTable (start + 1) rightSpan foundRight
      have leftOrdered := (wf.bounds ref leftListed).2
      have rightOrdered := (wf.bounds rightSpan rightListed).2
      have distinct := wf.left_ne_right foundLeft foundRight
      rw [split] at leftListed
      refine ⟨(mem_middle.mp leftListed).resolve_left distinct, ?_⟩
      simp only [AckQueue.addMerge, Heap.setEnd_apply, Heap.setPrev_apply,
        Heap.setNext_apply, if_true]
      omega
  | @grownRight leftSpan nonneg foundLeft foundRight =>
      simp only [joined, foundLeft, Option.some_or] at joins
      cases joins
      obtain ⟨leftListed, endEq⟩ := wf.rightTable start ref foundLeft
      have leftOrdered := (wf.bounds ref leftListed).2
      refine ⟨leftListed, ?_⟩
      simp only [AckQueue.addLeft, Heap.setEnd_apply, if_true]
      omega
  | @grownLeft rightSpan nonneg foundLeft foundRight =>
      simp only [joined, foundLeft, foundRight, Option.none_or] at joins
      cases joins
      obtain ⟨rightListed, startEq⟩ :=
        wf.leftTable (start + 1) ref foundRight
      have rightOrdered := (wf.bounds ref rightListed).2
      refine ⟨rightListed, ?_⟩
      simp only [AckQueue.addRight, Heap.setStart_apply, if_true]
      omega
  | listed nonneg foundLeft foundRight =>
      simp [joined, foundLeft, foundRight] at joins

/-- The span that an id takes off the list, if it joins two spans. -/
def mergedAway (queue : AckQueue) (start : Int) : Option Ref :=
  (queue.queryRight start).bind fun _ => queue.queryLeft (start + 1)

/-- A list from which an element outside of a segment is taken still has the
segment. -/
theorem removed_outside {front rest behind ahead later : List Ref}
    {removed node : Ref}
    (same : front ++ removed :: rest = behind ++ node :: (ahead ++ later))
    (outside : removed ∉ node :: ahead) :
    ∃ behind' later', front ++ rest = behind' ++ node :: (ahead ++ later') := by
  have regrouped : front ++ removed :: rest =
      behind ++ ((node :: ahead) ++ later) := by
    simpa only [List.cons_append] using same
  rcases List.append_eq_append_iff.mp regrouped with
    ⟨middle, behindEq, restEq⟩ | ⟨middle, frontEq, segmentEq⟩
  · cases middle with
    | nil =>
        simp only [List.nil_append, List.cons_append, List.cons.injEq]
          at restEq
        exact absurd (by simp [restEq.1]) outside
    | cons head middle =>
        simp only [List.cons_append, List.cons.injEq] at restEq
        refine ⟨front ++ middle, later, ?_⟩
        rw [restEq.2]
        simp only [List.append_assoc]
  · rcases List.append_eq_append_iff.mp segmentEq with
      ⟨inner, middleEq, laterEq⟩ | ⟨inner, segment, laterEq⟩
    · refine ⟨behind, inner ++ rest, ?_⟩
      rw [frontEq, middleEq]
      simp only [List.append_assoc, List.cons_append]
    · cases inner with
      | nil =>
          refine ⟨behind, rest, ?_⟩
          simp only [List.append_nil] at segment
          rw [frontEq, ← segment]
          simp only [List.append_assoc, List.cons_append]
      | cons head inner =>
          simp only [List.cons_append, List.cons.injEq] at laterEq
          rw [segment, laterEq.1] at outside
          exact absurd (by simp) outside

/-- If no span from the cursor up to the end of the pass is merged away, the
cursor and the spans ahead of it stay where they are. -/
theorem Added.cursor {node : Ref} {behind ahead later : List Ref}
    (added : Added queue nodes start queue' nodes')
    (atCursor : nodes = behind ++ node :: (ahead ++ later))
    (kept : ∀ ref, queue.mergedAway start = some ref →
      ref ∉ node :: ahead) :
    ∃ behind' later', nodes' = behind' ++ node :: (ahead ++ later') := by
  cases added with
  | ignored negative => exact ⟨behind, later, atCursor⟩
  | @merged front rest leftSpan rightSpan nonneg split foundLeft foundRight =>
      have outside := kept rightSpan (by
        simp [mergedAway, foundLeft, foundRight])
      rw [split] at atCursor
      exact removed_outside atCursor outside
  | grownRight nonneg foundLeft foundRight => exact ⟨behind, later, atCursor⟩
  | grownLeft nonneg foundLeft foundRight => exact ⟨behind, later, atCursor⟩
  | listed nonneg foundLeft foundRight =>
      refine ⟨behind, later ++ [(queue.takeSpan start).1], ?_⟩
      rw [atCursor]
      simp only [List.append_assoc, List.cons_append]

end AckQueue

end TinyChat
