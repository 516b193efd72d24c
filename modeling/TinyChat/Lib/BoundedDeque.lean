import Mathlib.Data.List.Basic

/-!
# Double-ended queues with a maximal length

An item that is appended to a full queue takes the place of the first one,
without an error.
-/

namespace BoundedDeque

variable {α : Type} {maxlen : Option Nat} {deque : List α}

def append (maxlen : Option Nat) (deque : List α) (item : α) : List α :=
  match maxlen with
  | none => deque ++ [item]
  | some size => (deque ++ [item]).drop (deque.length + 1 - size)

/-- The queue of the items, of which only the last ones fit in. -/
def ofList (maxlen : Option Nat) (items : List α) : List α :=
  items.foldl (append maxlen) []

/-- Another item fits in. -/
def Room (maxlen : Option Nat) (deque : List α) : Prop :=
  ∀ size, maxlen = some size → deque.length < size

instance : (maxlen : Option Nat) → (deque : List α) →
    Decidable (Room maxlen deque)
  | none, _ => .isTrue (fun _ absent => by cases absent)
  | some size, deque =>
      if less : deque.length < size then
        .isTrue (fun _ same => by cases same; exact less)
      else .isFalse (fun room => less (room size rfl))

def Bounded (maxlen : Option Nat) (deque : List α) : Prop :=
  ∀ size, maxlen = some size → deque.length ≤ size

theorem append_of_room (room : Room maxlen deque) (item : α) :
    append maxlen deque item = deque ++ [item] := by
  cases maxlen with
  | none => rfl
  | some size =>
      have less := room size rfl
      rw [append, Nat.sub_eq_zero_of_le (by omega), List.drop_zero]

/-- The length only grows if there is room. -/
theorem length_append_iff (item : α) :
    (append maxlen deque item).length = deque.length + 1 ↔
      Room maxlen deque := by
  constructor
  · intro grown size same
    subst same
    rw [append, List.length_drop, List.length_append,
      List.length_singleton] at grown
    omega
  · intro room
    rw [append_of_room room, List.length_append, List.length_singleton]

theorem Bounded.append (item : α) :
    Bounded maxlen (append maxlen deque item) := by
  intro size same
  subst same
  rw [BoundedDeque.append, List.length_drop, List.length_append,
    List.length_singleton]
  omega

theorem ofList_singleton (item : α)
    (positive : Room maxlen ([] : List α)) :
    ofList maxlen [item] = [item] :=
  append_of_room positive item

/-- Only the number of items decides about the room. -/
theorem Room.congr {β : Type} {other : List β} (room : Room maxlen deque)
    (same : other.length = deque.length) : Room maxlen other :=
  fun size limit => same ▸ room size limit

theorem map_append {β : Type} (change : α → β) (item : α) :
    (append maxlen deque item).map change =
      append maxlen (deque.map change) (change item) := by
  cases maxlen with
  | none => exact List.map_append
  | some size =>
      rw [append, append, List.map_drop, List.map_append, List.length_map]
      rfl

theorem mem_append {item other : α}
    (member : other ∈ append maxlen deque item) :
    other ∈ deque ∨ other = item := by
  have listed : other ∈ deque ++ [item] := by
    cases maxlen with
    | none => exact member
    | some size => exact List.mem_of_mem_drop member
  rcases List.mem_append.mp listed with before | last
  · exact .inl before
  · exact .inr (List.mem_singleton.mp last)

theorem mem_ofList {items : List α} {other : α}
    (member : other ∈ ofList maxlen items) : other ∈ items := by
  have general : ∀ deque : List α,
      other ∈ items.foldl (append maxlen) deque →
        other ∈ deque ∨ other ∈ items := by
    clear member
    induction items with
    | nil => exact fun _ listed => .inl listed
    | cons item items induction =>
        intro deque listed
        rcases induction _ listed with before | later
        · rcases mem_append before with before | rfl
          · exact .inl before
          · exact .inr List.mem_cons_self
        · exact .inr (List.mem_cons_of_mem item later)
  rcases general [] member with absent | listed
  · cases absent
  · exact listed

/-! ## Taking items from the right -/

/-- `pop`, so many times; an empty queue raises. -/
def popMany : Nat → List α → Option (List α)
  | 0, deque => some deque
  | _ + 1, [] => none
  | count + 1, item :: rest => popMany count (item :: rest).dropLast

theorem popMany_of_le {count : Nat} (enough : count ≤ deque.length) :
    popMany count deque = some (deque.take (deque.length - count)) := by
  induction count generalizing deque with
  | zero => rw [popMany, Nat.sub_zero, List.take_length]
  | succ count induction =>
      cases deque with
      | nil => cases enough
      | cons item rest =>
          have fewer : count ≤ (item :: rest).dropLast.length := by
            rw [List.length_dropLast]
            exact Nat.le_sub_one_of_lt enough
          rw [popMany, induction fewer, List.length_dropLast,
            List.dropLast_eq_take, List.take_take]
          congr 2
          omega

end BoundedDeque
