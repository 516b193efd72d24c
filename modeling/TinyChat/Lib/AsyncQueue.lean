import Mathlib.Data.List.Basic

/-!
# Queues between cooperative tasks

A queue of an event loop holds at most `maxsize` items, or any number of them
if `maxsize` is zero.  To put an item into a full queue without waiting is an
error, and so is to take one from an empty queue.
-/

structure AsyncQueue (maxsize : Nat) (α : Type) where
  items : List α
  fits : 0 < maxsize → items.length ≤ maxsize

namespace AsyncQueue

variable {maxsize : Nat} {α : Type}

def empty : AsyncQueue maxsize α where
  items := []
  fits := fun _ => Nat.zero_le maxsize

/-- `none` is `QueueFull`. -/
def putNowait (queue : AsyncQueue maxsize α) (item : α) :
    Option (AsyncQueue maxsize α) :=
  if room : 0 < maxsize → queue.items.length < maxsize then
    some {
      items := queue.items ++ [item]
      fits := by
        intro positive
        rw [List.length_append, List.length_singleton]
        exact room positive }
  else none

/-- `none` is `QueueEmpty`. -/
def getNowait (queue : AsyncQueue maxsize α) :
    Option (α × AsyncQueue maxsize α) :=
  match queue with
  | ⟨[], _⟩ => none
  | ⟨item :: items, fits⟩ =>
      some (item, ⟨items, fun positive => Nat.le_of_lt (fits positive)⟩)

variable {queue next : AsyncQueue maxsize α} {item : α}

theorem items_of_putNowait (result : queue.putNowait item = some next) :
    next.items = queue.items ++ [item] := by
  unfold putNowait at result
  split at result
  · cases result
    rfl
  · cases result

theorem putNowait_eq_none_iff (positive : 0 < maxsize) :
    queue.putNowait item = none ↔ ¬ queue.items.length < maxsize := by
  unfold putNowait
  split
  · rename_i room
    simp [room positive]
  · rename_i noRoom
    simp only [true_iff]
    exact fun less => noRoom (fun _ => less)

theorem length_lt_of_putNowait (positive : 0 < maxsize)
    (result : queue.putNowait item = some next) :
    queue.items.length < maxsize := by
  by_contra notLess
  rw [(putNowait_eq_none_iff positive).mpr notLess] at result
  cases result

theorem items_of_getNowait (result : queue.getNowait = some (item, next)) :
    queue.items = item :: next.items := by
  obtain ⟨items, fits⟩ := queue
  cases items with
  | nil => cases result
  | cons first items =>
      cases result
      rfl

theorem items_of_getNowait_none (result : queue.getNowait = none) :
    queue.items = [] := by
  obtain ⟨items, fits⟩ := queue
  cases items with
  | nil => rfl
  | cons first items => cases result

/-- Take items until the queue is empty, and keep the last one in a variable
that is `bound` before. -/
def drainNowait (bound : Option α) (queue : AsyncQueue maxsize α) :
    Option α × AsyncQueue maxsize α :=
  match _taken : queue.getNowait with
  | none => (bound, queue)
  | some (item, rest) => drainNowait (some item) rest
  termination_by queue.items.length
  decreasing_by
    rw [items_of_getNowait _taken]
    exact Nat.lt_succ_self _

theorem drainNowait_fst (bound : Option α) (queue : AsyncQueue maxsize α) :
    (drainNowait bound queue).1 = queue.items.getLast?.or bound := by
  fun_induction drainNowait bound queue with
  | case1 bound queue taken =>
      rw [items_of_getNowait_none taken]
      rfl
  | case2 bound queue item rest taken induction =>
      rw [induction, items_of_getNowait taken, List.getLast?_cons]
      cases rest.items.getLast? with
      | none => rfl
      | some last => rfl

end AsyncQueue
