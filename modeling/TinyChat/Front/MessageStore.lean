import TinyChat.Lib.BoundedDeque
import TinyChat.Lib.Transition
import Mathlib.Algebra.Order.Ring.Int

/-!
# The store of what a page shows

A `MessageStore` keeps the items of a page in a queue, their numbers of lines
in a list, and the number of items.  The queue may have a maximal length, of
which the list and the number know nothing.
-/

namespace TinyChat

namespace Front

/-- The characters that `str.strip` removes. -/
def isSpace (char : Char) : Bool :=
  [9, 10, 11, 12, 13, 28, 29, 30, 31, 32, 133, 160, 5760, 8232, 8233, 8239,
    8287, 12288].contains char.toNat ||
    decide (8192 ≤ char.toNat ∧ char.toNat ≤ 8202)

def strip (text : List Char) : List Char :=
  ((text.dropWhile isSpace).reverse.dropWhile isSpace).reverse

/-- `len(item[:-1].strip().split("\\n"))`. -/
def lineCount (item : List Char) : Nat :=
  (strip item.dropLast).count '\n' + 1

structure MessageStore where
  maxSize : Option Nat
  length : Int := 0
  deque : List (List Char) := []
  linenoSk : List Int := []
  pendingCursor : Nat := 0
  pendingLineno : Nat := 2
  pendingColnum : Nat := 1
  deriving DecidableEq

/-- An item with its number of lines. -/
abbrev StoreEntry := List Char × Int

/-- The line count that `pop` returns, and an exception. -/
inductive StoreReport where
  | popped (lineno : Int)
  | indexError
  deriving DecidableEq

inductive StoreCall where
  | append (item : List Char) (lineno : Option Int)
  | pop
  | restore

namespace MessageStore

/-- `lineno or len(...)`. -/
def countOf (item : List Char) (lineno : Option Int) : Int :=
  match lineno with
  | none => lineCount item
  | some lineno => if lineno = 0 then lineCount item else lineno

def append (store : MessageStore) (item : List Char)
    (lineno : Option Int) : MessageStore :=
  { store with
    linenoSk := store.linenoSk ++ [countOf item lineno]
    deque := BoundedDeque.append store.maxSize store.deque item
    length := store.length + 1 }

/-- `pop`, which raises after what it has done before. -/
def pop (store : MessageStore) : MessageStore × StoreReport :=
  let counted := { store with length := store.length - 1 }
  match store.deque with
  | [] => (counted, .indexError)
  | _ :: _ =>
      let shortened := { counted with deque := store.deque.dropLast }
      match store.linenoSk.getLast? with
      | none => (shortened, .indexError)
      | some lineno =>
          ({ shortened with linenoSk := store.linenoSk.dropLast },
            .popped lineno)

def reset (store : MessageStore) : MessageStore :=
  { store with pendingCursor := 0, pendingLineno := 2, pendingColnum := 1 }

/-- `deque(self._deque[0], maxlen=self._max_size)`: the items of the new
queue are the characters of the first item. -/
def rebuild (maxSize : Option Nat) (first : List Char) :
    List (List Char) :=
  BoundedDeque.ofList maxSize (first.map fun char => [char])

/-- Both branches of `restore` for a store with several items. -/
def shrink (store : MessageStore) : Option (List (List Char)) :=
  if 96 < store.length then
    store.deque.head?.map (rebuild store.maxSize)
  else BoundedDeque.popMany (store.length - 1).toNat store.deque

/-- `restore`; if it raises by popping, then nothing is left to pop. -/
def restore (store : MessageStore) : MessageStore × List StoreReport :=
  let store := store.reset
  if 1 < store.length then
    match store.shrink with
    | none => ({ store with deque := [] }, [.indexError])
    | some deque =>
        ({ store with
            deque := deque
            linenoSk := store.linenoSk.take 1
            length := 1 }, [])
  else (store, [])

/-- `__init__`. -/
def init (maxSize : Option Nat) (initial : List Char) : MessageStore :=
  let store : MessageStore := { maxSize := maxSize }
  (if initial ≠ [] then store.append initial none else store).reset

end MessageStore

/-! ## What the store is for -/

/-- The items with their numbers of lines, in one list. -/
structure StoreSystem where
  store : MessageStore
  entries : List StoreEntry
  deriving DecidableEq

namespace StoreSystem

open MessageStore

/-- A list with the same calls: a full one loses its first entry. -/
def follow (maxSize : Option Nat) (entries : List StoreEntry) :
    StoreCall → List StoreEntry
  | .append item lineno =>
      BoundedDeque.append maxSize entries (item, countOf item lineno)
  | .pop => entries.dropLast
  | .restore => entries.take 1

/-- A call on the store and on the list; `pop` is for a store with items. -/
def step : Transition.Step StoreSystem StoreCall StoreReport
  | system, .append item lineno =>
      some
        ({ store := system.store.append item lineno
           entries := follow system.store.maxSize system.entries
            (.append item lineno) }, [])
  | system, .pop =>
      if 0 < system.store.length then
        some
          ({ store := system.store.pop.1
             entries := follow system.store.maxSize system.entries .pop },
            [system.store.pop.2])
      else none
  | system, .restore =>
      some
        ({ store := system.store.restore.1
           entries := follow system.store.maxSize system.entries .restore },
          system.store.restore.2)

def init (maxSize : Option Nat) (initial : List Char) : StoreSystem where
  store := MessageStore.init maxSize initial
  entries :=
    if initial ≠ [] then [(initial, (lineCount initial : Int))] else []

/-- The three structures have the same length, and an item has the position
of its number of lines. -/
structure Bookkept (system : StoreSystem) : Prop where
  length : system.store.length = system.entries.length
  deque : system.store.deque = system.entries.map Prod.fst
  linenoSk : system.store.linenoSk = system.entries.map Prod.snd

/-- Nothing is appended to a full store, and a store with more than 96 items
is not restored unless the first one is a single character. -/
def Careful (system : StoreSystem) : StoreCall → Prop
  | .append _ _ =>
      BoundedDeque.Room system.store.maxSize system.store.deque
  | .pop => True
  | .restore =>
      system.store.length ≤ 96 ∨
        system.store.deque.head?.map List.length = some 1

instance (system : StoreSystem) :
    (call : StoreCall) → Decidable (system.Careful call)
  | .append _ _ =>
      inferInstanceAs (Decidable
        (BoundedDeque.Room system.store.maxSize system.store.deque))
  | .pop => .isTrue trivial
  | .restore =>
      inferInstanceAs (Decidable (system.store.length ≤ 96 ∨
        system.store.deque.head?.map List.length = some 1))

variable {system next : StoreSystem} {maxSize : Option Nat}

theorem Bookkept.lengths (bookkept : system.Bookkept) :
    system.entries.length = system.store.deque.length := by
  rw [bookkept.deque, List.length_map]

/-- An entry is appended to all three structures exactly if there is room. -/
theorem Bookkept.append_iff (bookkept : system.Bookkept) (item : List Char)
    (lineno : Option Int) :
    Bookkept
        { store := system.store.append item lineno
          entries := follow system.store.maxSize system.entries
            (.append item lineno) } ↔
      BoundedDeque.Room system.store.maxSize system.store.deque := by
  constructor
  · intro after
    have grown := after.length
    change system.store.length + 1 = _ at grown
    rw [bookkept.length] at grown
    apply BoundedDeque.Room.congr _ bookkept.lengths.symm
    apply (BoundedDeque.length_append_iff (item, countOf item lineno)).mp
    exact_mod_cast grown.symm
  · intro room
    have followed : follow system.store.maxSize system.entries
        (.append item lineno) =
          system.entries ++ [(item, countOf item lineno)] :=
      BoundedDeque.append_of_room (room.congr bookkept.lengths) _
    rw [followed]
    constructor
    · rw [List.length_append, Nat.cast_add, ← bookkept.length]
      rfl
    · rw [List.map_append, ← bookkept.deque]
      exact BoundedDeque.append_of_room room item
    · rw [List.map_append, ← bookkept.linenoSk]
      rfl

theorem Bookkept.pop (bookkept : system.Bookkept)
    (positive : 0 < system.store.length) :
    Bookkept
      { store := system.store.pop.1
        entries := follow system.store.maxSize system.entries .pop } := by
  obtain ⟨front, last, split⟩ : ∃ front last,
      system.entries = front ++ [last] := by
    rcases List.eq_nil_or_concat system.entries with
      nothing | ⟨front, last, split⟩
    · rw [bookkept.length, nothing] at positive
      exact absurd positive (lt_irrefl _)
    · exact ⟨front, last, by rw [split, List.concat_eq_append]⟩
  have deque := bookkept.deque
  have linenoSk := bookkept.linenoSk
  have length := bookkept.length
  rw [split, List.map_append] at deque linenoSk
  rw [split, List.length_append, Nat.cast_add] at length
  have popped : system.store.pop.1 =
      { system.store with
        length := system.store.length - 1
        deque := front.map Prod.fst
        linenoSk := front.map Prod.snd } := by
    unfold MessageStore.pop
    split
    · rename_i nothing
      rw [deque] at nothing
      simp at nothing
    · rw [linenoSk, deque]
      simp
  rw [popped]
  have followed : follow system.store.maxSize system.entries .pop = front := by
    rw [split]
    exact List.dropLast_concat
  rw [followed]
  refine ⟨?_, rfl, rfl⟩
  change system.store.length - 1 = _
  rw [length]
  exact add_sub_cancel_right _ _

/-- The characters of an item are this item only if it is one of them. -/
theorem rebuild_eq_singleton_iff
    (positive : BoundedDeque.Room maxSize ([] : List (List Char)))
    (first : List Char) :
    rebuild maxSize first = [first] ↔ first.length = 1 := by
  constructor
  · intro same
    have member : first ∈ rebuild maxSize first := by
      rw [same]
      exact List.mem_singleton_self first
    obtain ⟨char, _, single⟩ :=
      List.mem_map.mp (BoundedDeque.mem_ofList member)
    rw [← single]
    rfl
  · intro single
    obtain ⟨char, rfl⟩ := List.length_eq_one_iff.mp single
    exact BoundedDeque.ofList_singleton [char] positive

theorem restore_of_shrink {store : MessageStore}
    {deque : List (List Char)} (several : 1 < store.length)
    (shrunk : store.shrink = some deque) :
    store.restore =
      ({ store.reset with
          deque := deque
          linenoSk := store.linenoSk.take 1
          length := 1 }, []) := by
  have same : store.reset.shrink = some deque := shrunk
  have more : 1 < store.reset.length := several
  rw [MessageStore.restore, if_pos more, same]
  rfl

/-- A store that is cut down to one item is right exactly if this is the
first one. -/
theorem Bookkept.cut_iff (bookkept : system.Bookkept) {first : List Char}
    {rest deque : List (List Char)}
    (items : system.store.deque = first :: rest)
    (several : 1 < system.store.length)
    (shrunk : system.store.shrink = some deque) :
    Bookkept
        { store := system.store.restore.1
          entries := follow system.store.maxSize system.entries .restore } ↔
      deque = [first] := by
  rw [restore_of_shrink several shrunk]
  have front : (system.entries.take 1).map Prod.fst = [first] := by
    rw [List.map_take, ← bookkept.deque, items]
    rfl
  constructor
  · intro after
    rw [← front]
    exact after.deque
  · rintro rfl
    constructor
    · have single := congrArg List.length front
      rw [List.length_map] at single
      change (1 : Int) = _
      rw [follow, single]
      rfl
    · exact front.symm
    · rw [follow, List.map_take, ← bookkept.linenoSk]

/-- A store is restored to its first item exactly if it is small or this item
is a single character. -/
theorem Bookkept.restore_iff (bookkept : system.Bookkept)
    (bounded : BoundedDeque.Bounded system.store.maxSize
      system.store.deque) :
    Bookkept
        { store := system.store.restore.1
          entries := follow system.store.maxSize system.entries .restore } ↔
      system.Careful .restore := by
  have length := bookkept.length
  rw [bookkept.lengths] at length
  by_cases several : 1 < system.store.length
  · obtain ⟨first, rest, items⟩ : ∃ first rest,
        system.store.deque = first :: rest := by
      apply List.exists_cons_of_ne_nil
      rintro nothing
      rw [length, nothing] at several
      exact absurd several (by decide)
    unfold Careful
    by_cases large : 96 < system.store.length
    · have shrunk : system.store.shrink =
          some (rebuild system.store.maxSize first) := by
        rw [shrink, if_pos large, items]
        rfl
      have positive : BoundedDeque.Room system.store.maxSize
          ([] : List (List Char)) := by
        intro size limit
        have most := bounded size limit
        rw [List.length_nil]
        omega
      rw [bookkept.cut_iff items several shrunk,
        rebuild_eq_singleton_iff positive, items, List.head?_cons,
        Option.map_some, Option.some.injEq]
      exact ⟨.inr, fun careful => careful.resolve_left (by omega)⟩
    · have enough : (system.store.length - 1).toNat ≤
          system.store.deque.length := by omega
      have one : system.store.deque.length -
          (system.store.length - 1).toNat = 1 := by omega
      have shrunk : system.store.shrink = some [first] := by
        rw [shrink, if_neg large, BoundedDeque.popMany_of_le enough, one,
          items]
        rfl
      rw [bookkept.cut_iff items several shrunk]
      exact ⟨fun _ => .inl (by omega), fun _ => rfl⟩
  · have same : system.store.restore.1 = system.store.reset := by
      have few : ¬ 1 < system.store.reset.length := several
      rw [MessageStore.restore, if_neg few]
    have whole : system.entries.take 1 = system.entries := by
      apply List.take_of_length_le
      rw [bookkept.lengths]
      omega
    rw [same, follow, whole]
    exact ⟨fun _ => .inl (by omega), fun _ =>
      ⟨bookkept.length, bookkept.deque, bookkept.linenoSk⟩⟩

/-- A call keeps the store right exactly if it is a careful one. -/
theorem step_bookkept_iff {call : StoreCall} {events : List StoreReport}
    (bookkept : system.Bookkept)
    (bounded : BoundedDeque.Bounded system.store.maxSize
      system.store.deque)
    (stepped : step system call = some (next, events)) :
    next.Bookkept ↔ system.Careful call := by
  cases call with
  | append item lineno =>
      cases stepped
      exact bookkept.append_iff item lineno
  | pop =>
      rw [step] at stepped
      split at stepped
      · rename_i positive
        cases stepped
        exact ⟨fun _ => trivial, fun _ => bookkept.pop positive⟩
      · cases stepped
  | restore =>
      cases stepped
      exact bookkept.restore_iff bounded

theorem maxSize_of_step {call : StoreCall} {events : List StoreReport}
    (stepped : step system call = some (next, events)) :
    next.store.maxSize = system.store.maxSize := by
  cases call with
  | append item lineno =>
      cases stepped
      rfl
  | pop =>
      rw [step] at stepped
      split at stepped
      · cases stepped
        unfold MessageStore.pop
        split
        · rfl
        · split <;> rfl
      · cases stepped
  | restore =>
      cases stepped
      unfold MessageStore.restore
      dsimp only
      split
      · split <;> rfl
      · rfl

/-- Only an append makes the list of entries longer. -/
theorem bounded_of_step {call : StoreCall} {events : List StoreReport}
    (bookkept : system.Bookkept) (after : next.Bookkept)
    (bounded : BoundedDeque.Bounded system.store.maxSize
      system.store.deque)
    (stepped : step system call = some (next, events)) :
    BoundedDeque.Bounded next.store.maxSize next.store.deque := by
  rw [maxSize_of_step stepped]
  have shorter : next.entries.length ≤ system.entries.length →
      BoundedDeque.Bounded system.store.maxSize next.store.deque := by
    intro fewer size limit
    rw [← after.lengths]
    have most := bounded size limit
    rw [← bookkept.lengths] at most
    omega
  cases call with
  | append item lineno =>
      cases stepped
      exact BoundedDeque.Bounded.append item
  | pop =>
      rw [step] at stepped
      split at stepped
      · cases stepped
        apply shorter
        rw [follow, List.length_dropLast]
        omega
      · cases stepped
  | restore =>
      cases stepped
      apply shorter
      rw [follow, List.length_take]
      omega

theorem init_bookkept
    (positive : ∀ size, maxSize = some size → 1 ≤ size)
    (initial : List Char) : (init maxSize initial).Bookkept := by
  have room : BoundedDeque.Room maxSize ([] : List (List Char)) :=
    fun size limit => positive size limit
  unfold init MessageStore.init
  split
  · refine ⟨rfl, ?_, rfl⟩
    exact BoundedDeque.append_of_room room initial
  · exact ⟨rfl, rfl, rfl⟩

theorem init_bounded (maxSize : Option Nat)
    (initial : List Char) :
    BoundedDeque.Bounded (init maxSize initial).store.maxSize
      (init maxSize initial).store.deque := by
  unfold init MessageStore.init
  split
  · exact BoundedDeque.Bounded.append initial
  · intro size _
    exact Nat.zero_le size

/-- If no call appends to a full store or rebuilds a long first item, the
store is right after every run, and restoring it leaves its first item. -/
theorem run_bookkept (positive : ∀ size, maxSize = some size → 1 ≤ size)
    {initial : List Char} {trace : List StoreReport}
    (run : Transition.Run step Careful (init maxSize initial) trace
      system) :
    system.Bookkept ∧
      ∀ first rest, system.store.deque = first :: rest →
        system.Careful .restore →
        system.store.restore.1.deque = [first] := by
  have kept : system.Bookkept ∧
      BoundedDeque.Bounded system.store.maxSize system.store.deque := by
    apply run.state_invariant
    · exact ⟨init_bookkept positive initial,
        init_bounded maxSize initial⟩
    · rintro events system next call ⟨bookkept, bounded⟩ careful stepped
      have after :=
        (step_bookkept_iff bookkept bounded stepped).mpr careful
      exact ⟨after, bounded_of_step bookkept after bounded stepped⟩
  obtain ⟨bookkept, bounded⟩ := kept
  refine ⟨bookkept, ?_⟩
  intro first rest items careful
  have restored := (bookkept.restore_iff bounded).mpr careful
  have deque := restored.deque
  rw [follow, List.map_take, ← bookkept.deque, items] at deque
  exact deque

/-- Two items in a store for two, which is then restored. -/
theorem run_bookkept_two :
    ∃ trace system,
      Transition.Run step Careful (init (some 2) ['a']) trace system ∧
      system.store.deque = [['a']] ∧ system.Bookkept := by
  have ran : ∃ trace system,
      Transition.Run step Careful (init (some 2) ['a']) trace system ∧
        system.store.deque = [['a']] := by
    apply Transition.Run.exists_state_of_exec
      [.append ['b', '\n'] none, .restore]
    decide
  obtain ⟨trace, system, run, items⟩ := ran
  have positive : ∀ size, some 2 = some size → 1 ≤ size := by
    intro size same
    cases same
    decide
  exact ⟨trace, system, run, items, (run_bookkept positive run).1⟩

/-- A second item in a store for one takes the place of the first one, and
both are counted. -/
theorem second_item_counted_twice :
    ¬ ∀ (maxSize : Option Nat) (initial : List Char)
      (trace : List StoreReport) (system : StoreSystem),
      (∀ size, maxSize = some size → 1 ≤ size) →
      Transition.AnyRun step (init maxSize initial) trace system →
      system.Bookkept := by
  intro always
  have ran : ∃ trace system,
      Transition.AnyRun step (init (some 1) []) trace system ∧
        system.store.length ≠ system.store.deque.length := by
    apply Transition.Run.exists_state_of_exec
      [.append ['a'] none, .append ['b'] none]
    decide
  obtain ⟨trace, system, run, differ⟩ := ran
  have positive : ∀ size, some 1 = some size → 1 ≤ size := by
    intro size same
    cases same
    decide
  have bookkept := always (some 1) [] trace system positive run
  rw [bookkept.length, bookkept.lengths] at differ
  exact differ rfl

end StoreSystem

end Front

end TinyChat
