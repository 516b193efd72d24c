import Mathlib.Data.Int.Basic
import Mathlib.Logic.Function.Basic
import TinyChat.Lib.LinkedRing

/-!
# The acknowledgement queue

`AckQueue` keeps acknowledged delivery ids, or stream offsets, as half-open
spans.  The spans are mutable nodes of a circular doubly linked list whose
root is the sentinel `[-1, 0)`; two dictionaries find the span that starts,
or ends, at a given integer; nodes that are no longer listed are kept for
reuse.  Nodes are modelled as references into an explicit heap, dictionaries
as partial functions.
-/

namespace TinyChat

/-- The identity of a `RangeSpan` object. -/
abbrev Ref := Nat

/-- The fields of a span `[start, end)`.  A link is `none` until the span is
put on a list. -/
structure RangeSpan where
  start : Int
  end_ : Int
  prev : Option Ref
  next : Option Ref

/-- `RangeSpan(start)`: without an explicit end the span holds one integer. -/
def RangeSpan.new (start : Int) : RangeSpan :=
  { start := start
    end_ := start + 1
    prev := none
    next := none }

abbrev Heap := Ref → RangeSpan

namespace Heap

/-- `target.next = value`, on the heap. -/
def setNext (heap : Heap) (target value : Option Ref) : Heap :=
  match target with
  | none => heap
  | some ref => Function.update heap ref { heap ref with next := value }

/-- `target.prev = value`, on the heap. -/
def setPrev (heap : Heap) (target value : Option Ref) : Heap :=
  match target with
  | none => heap
  | some ref => Function.update heap ref { heap ref with prev := value }

def setStart (heap : Heap) (ref : Ref) (value : Int) : Heap :=
  Function.update heap ref { heap ref with start := value }

def setEnd (heap : Heap) (ref : Ref) (value : Int) : Heap :=
  Function.update heap ref { heap ref with end_ := value }

end Heap

structure AckQueue where
  heap : Heap
  /-- References from here on have not been allocated. -/
  fresh : Ref
  queryLeft : Int → Option Ref
  queryRight : Int → Option Ref
  cnt : Nat
  cacheSpans : List Ref

namespace AckQueue

/-- The sentinel node `_span_root`. -/
def spanRoot : Ref := 0

/-- The bound of the recycle cache, `deque(maxlen=64)`. -/
def cacheMaxlen : Nat := 64

/-- `deque.append` on a bounded deque drops items at the left end. -/
def cacheAppend (cache : List Ref) (span : Ref) : List Ref :=
  (cache ++ [span]).drop ((cache ++ [span]).length - cacheMaxlen)

/-- `AckQueue()`. -/
def new : AckQueue :=
  { heap := fun _ =>
      { start := -1, end_ := 0, prev := some spanRoot, next := some spanRoot }
    fresh := 1
    queryLeft := fun _ => none
    queryRight := fun _ => none
    cnt := 0
    cacheSpans := [] }

/-- The branch of `add` in which a span ends at `start` and another one
starts right after it: `right_span` is unlinked and recycled. -/
def addMerge (queue : AckQueue) (start : Int)
    (leftSpan rightSpan : Ref) : AckQueue :=
  let prevSpan := (queue.heap rightSpan).prev
  let nextSpan := (queue.heap rightSpan).next
  let rightEnd := (queue.heap rightSpan).end_
  let heap := (queue.heap.setNext prevSpan nextSpan).setPrev nextSpan prevSpan
  { queue with
    heap := heap.setEnd leftSpan rightEnd
    queryRight := Function.update
      (Function.update queue.queryRight start none) rightEnd (some leftSpan)
    queryLeft := Function.update queue.queryLeft (start + 1) none
    cnt := queue.cnt - 1
    cacheSpans := cacheAppend queue.cacheSpans rightSpan }

/-- The branch of `add` in which only a span that ends at `start` exists. -/
def addLeft (queue : AckQueue) (start : Int) (leftSpan : Ref) : AckQueue :=
  { queue with
    heap := queue.heap.setEnd leftSpan ((queue.heap leftSpan).end_ + 1)
    queryRight := Function.update
      (Function.update queue.queryRight start none)
      (start + 1) (some leftSpan) }

/-- The branch of `add` in which only a span that starts at `start + 1`
exists. -/
def addRight (queue : AckQueue) (start : Int) (rightSpan : Ref) : AckQueue :=
  { queue with
    heap := queue.heap.setStart rightSpan ((queue.heap rightSpan).start - 1)
    queryLeft := Function.update
      (Function.update queue.queryLeft (start + 1) none)
      start (some rightSpan) }

/-- Take a recycled span, or allocate one, for the integer `start`. -/
def takeSpan (queue : AckQueue) (start : Int) : Ref × AckQueue :=
  match queue.cacheSpans with
  | span :: rest =>
      (span,
        { queue with
          heap := (queue.heap.setStart span start).setEnd span (start + 1)
          cacheSpans := rest })
  | [] =>
      (queue.fresh,
        { queue with
          heap := Function.update queue.heap queue.fresh (RangeSpan.new start)
          fresh := queue.fresh + 1 })

/-- Put a span at the tail of the circular list. -/
def linkLast (heap : Heap) (cnt : Nat) (span : Ref) : Heap :=
  if cnt = 0 then
    (((heap.setPrev (some spanRoot) (some span)).setNext
      (some spanRoot) (some span)).setPrev
      (some span) (some spanRoot)).setNext (some span) (some spanRoot)
  else
    let tail := (heap spanRoot).prev
    (((heap.setPrev (some spanRoot) (some span)).setNext
      tail (some span)).setPrev
      (some span) tail).setNext (some span) (some spanRoot)

/-- The branch of `add` in which no span ends or starts next to `start`. -/
def addNew (queue : AckQueue) (start : Int) : AckQueue :=
  let taken := queue.takeSpan start
  let span := taken.1
  { taken.2 with
    heap := linkLast taken.2.heap queue.cnt span
    cnt := queue.cnt + 1
    queryLeft := Function.update queue.queryLeft start (some span)
    queryRight := Function.update queue.queryRight (start + 1) (some span) }

def add (queue : AckQueue) (start : Int) : AckQueue :=
  if start < 0 then queue
  else
    match queue.queryRight start, queue.queryLeft (start + 1) with
    | some leftSpan, some rightSpan => queue.addMerge start leftSpan rightSpan
    | some leftSpan, none => queue.addLeft start leftSpan
    | none, some rightSpan => queue.addRight start rightSpan
    | none, none => queue.addNew start

/-- The forward links of a heap, as a function on references. -/
def nextOf (heap : Heap) (ref : Ref) : Option Ref := (heap ref).next

/-- The backward links of a heap, as a function on references. -/
def prevOf (heap : Heap) (ref : Ref) : Option Ref := (heap ref).prev

def clear (queue : AckQueue) : AckQueue :=
  if queue.cnt = 0 then queue
  else
    let node := (queue.heap spanRoot).next
    let heap := (queue.heap.setNext (some spanRoot) (some spanRoot)).setPrev
      (some spanRoot) (some spanRoot)
    { queue with
      heap := heap
      queryLeft := fun _ => none
      queryRight := fun _ => none
      cnt := 0
      cacheSpans := (LinkedRing.walk (nextOf heap) queue.cnt node).foldl
        cacheAppend queue.cacheSpans }

/-- The nodes that `iterator()` yields, in order. -/
def iterator (queue : AckQueue) : List Ref :=
  LinkedRing.walk (nextOf queue.heap) queue.cnt (queue.heap spanRoot).next

/-- The bounds of the spans that `iterator()` yields. -/
def spans (queue : AckQueue) : List (Int × Int) :=
  queue.iterator.map
    (fun ref => ((queue.heap ref).start, (queue.heap ref).end_))

/-- `len(queue)`. -/
def len (queue : AckQueue) : Nat := queue.cnt

/-- The loop of `__contains__`. -/
def containsFrom (heap : Heap) (seq : Int) : Nat → Option Ref → Bool
  | 0, _ => false
  | _ + 1, none => false
  | count + 1, some node =>
      if (heap node).start ≤ seq ∧ seq < (heap node).end_ then true
      else containsFrom heap seq count (heap node).next

/-- `seq in queue`. -/
def contains (queue : AckQueue) (seq : Int) : Bool :=
  containsFrom queue.heap seq queue.cnt (queue.heap spanRoot).next

/-- The end of the node after the root; the root links to itself in an empty
queue, so that `first_end` is then the end of the sentinel. -/
def firstEnd (queue : AckQueue) : Int :=
  match (queue.heap spanRoot).next with
  | none => 0
  | some node => (queue.heap node).end_

end AckQueue

end TinyChat
