import Mathlib.Data.List.Basic
import Mathlib.Data.List.Nodup
import Mathlib.Logic.Function.Basic

/-!
# Tables

An ordered table keeps its entries in the order in which their keys were
inserted.  A table that has one entry at every place may list the members
that carry a flag, each at its home.
-/

abbrev Table (κ ν : Type) := List (κ × ν)

namespace Table

variable {κ ν : Type} [DecidableEq κ]

/-- The table without a key. -/
def pop (table : Table κ ν) (key : κ) : Table κ ν :=
  table.filter (fun entry => entry.1 ≠ key)

/-- Assign a value to a key; a new key comes last. -/
def assign (table : Table κ ν) (key : κ) (value : ν) : Table κ ν :=
  if (table.lookup key).isSome then
    table.map (fun entry => if entry.1 = key then (key, value) else entry)
  else table ++ [(key, value)]

theorem mem_of_lookup {table : Table κ ν} {key : κ} {value : ν}
    (found : table.lookup key = some value) : (key, value) ∈ table := by
  induction table with
  | nil => cases found
  | cons entry table induction =>
      obtain ⟨first, stored⟩ := entry
      by_cases same : key = first
      · subst same
        simp only [List.lookup_cons_self, Option.some.injEq] at found
        rw [found]
        exact List.mem_cons_self
      · rw [List.lookup_cons, beq_eq_false_iff_ne.mpr same] at found
        exact List.mem_cons_of_mem _ (induction found)

theorem notMem_of_lookup {table : Table κ ν} {key : κ} {value : ν}
    (missing : table.lookup key = none) : (key, value) ∉ table := by
  intro member
  have different := List.lookup_eq_none_iff.mp missing _ member
  simp at different

theorem lookup_eq_none {table : Table κ ν} {key : κ}
    (absent : ∀ value, (key, value) ∉ table) : table.lookup key = none := by
  cases found : table.lookup key with
  | none => rfl
  | some value => exact absurd (mem_of_lookup found) (absent value)

theorem mem_pop {table : Table κ ν} {key : κ} {entry : κ × ν} :
    entry ∈ table.pop key ↔ entry ∈ table ∧ entry.1 ≠ key := by
  simp [pop]

theorem lookup_pop (table : Table κ ν) (key other : κ) :
    (table.pop key).lookup other =
      if other = key then none else table.lookup other := by
  by_cases same : other = key
  · subst same
    rw [if_pos rfl]
    apply lookup_eq_none
    intro value member
    exact (mem_pop.mp member).2 rfl
  · rw [if_neg same]
    induction table with
    | nil => rfl
    | cons entry table induction =>
        obtain ⟨first, stored⟩ := entry
        by_cases gone : first = key
        · subst gone
          have different : (other == first) = false :=
            beq_eq_false_iff_ne.mpr same
          rw [List.lookup_cons, different, ← induction]
          simp [pop]
        · have kept : pop ((first, stored) :: table) key =
              (first, stored) :: pop table key := by
            simp [pop, gone]
          rw [kept, List.lookup_cons, List.lookup_cons, induction]

theorem lookup_of_mem {table : Table κ ν} {key : κ} {value : ν}
    (nodup : (table.map Prod.fst).Nodup) (member : (key, value) ∈ table) :
    table.lookup key = some value := by
  induction table with
  | nil => cases member
  | cons entry table induction =>
      rw [List.map_cons, List.nodup_cons] at nodup
      rcases List.mem_cons.mp member with first | later
      · rw [← first]
        exact List.lookup_cons_self
      · have different : key ≠ entry.1 := by
          intro same
          exact nodup.1 (same ▸ List.mem_map_of_mem later)
        rw [List.lookup_cons, beq_eq_false_iff_ne.mpr different]
        exact induction nodup.2 later

theorem pop_of_unlisted {table : Table κ ν} {key : κ}
    (unlisted : key ∉ table.map Prod.fst) : table.pop key = table := by
  apply List.filter_eq_self.mpr
  intro entry listed
  apply decide_eq_true
  intro same
  exact unlisted (List.mem_map.mpr ⟨entry, listed, same⟩)

/-- A key that is taken out, and the others. -/
theorem perm_pop {table : Table κ ν} {key : κ} {value : ν}
    (nodup : (table.map Prod.fst).Nodup)
    (found : table.lookup key = some value) :
    table.Perm ((key, value) :: table.pop key) := by
  induction table with
  | nil => cases found
  | cons entry table induction =>
      obtain ⟨first, stored⟩ := entry
      rw [List.map_cons, List.nodup_cons] at nodup
      by_cases same : key = first
      · subst same
        rw [List.lookup_cons_self, Option.some.injEq] at found
        have others : pop table key = table := pop_of_unlisted nodup.1
        have rest : pop ((key, stored) :: table) key = pop table key := by
          simp [pop]
        rw [rest, others, found]
      · rw [List.lookup_cons, beq_eq_false_iff_ne.mpr same] at found
        have kept : pop ((first, stored) :: table) key =
            (first, stored) :: pop table key := by
          simp [pop, Ne.symm same]
        rw [kept]
        exact ((induction nodup.2 found).cons _).trans
          (.swap _ _ _)

theorem assign_of_lookup {table : Table κ ν} {key : κ} (value : ν)
    (missing : table.lookup key = none) :
    table.assign key value = table ++ [(key, value)] := by
  simp [assign, missing]

theorem lookup_replace (table : Table κ ν) (key other : κ) (value : ν) :
    List.lookup other (table.map (fun entry =>
        if entry.1 = key then (key, value) else entry)) =
      if other = key ∧ (table.lookup key).isSome then some value
      else table.lookup other := by
  induction table with
  | nil => simp
  | cons entry table induction =>
      obtain ⟨first, stored⟩ := entry
      rw [List.map_cons, List.lookup_cons, List.lookup_cons]
      by_cases here : first = key
      · subst here
        by_cases same : other = first
        · simp [same]
        · rw [if_pos rfl, beq_eq_false_iff_ne.mpr same, List.lookup_cons,
            beq_eq_false_iff_ne.mpr same]
          simpa [same] using induction
      · rw [if_neg here, beq_eq_false_iff_ne.mpr (Ne.symm here)]
        by_cases same : other = first
        · subst same
          simp [here]
        · rw [List.lookup_cons, beq_eq_false_iff_ne.mpr same]
          exact induction

theorem lookup_assign (table : Table κ ν) (key other : κ) (value : ν) :
    (table.assign key value).lookup other =
      if other = key then some value else table.lookup other := by
  unfold assign
  split
  · rename_i present
    rw [lookup_replace]
    simp [present]
  · rename_i missing
    rw [Option.not_isSome_iff_eq_none] at missing
    rw [List.lookup_append]
    by_cases same : other = key
    · subst same
      rw [missing, if_pos rfl, List.lookup_cons_self]
      rfl
    · rw [if_neg same, List.lookup_cons, beq_eq_false_iff_ne.mpr same]
      exact Option.or_none

/-- What is found after a write was there before, or is the written value. -/
theorem lookup_of_assign {table : Table κ ν} {key other : κ}
    {value held : ν} (found : (table.assign key value).lookup other =
      some held) :
    table.lookup other = some held ∨ other = key ∧ held = value := by
  rw [lookup_assign] at found
  split at found
  · rename_i same
    cases found
    exact .inr ⟨same, rfl⟩
  · exact .inl found

theorem keys_assign (table : Table κ ν) (key : κ) (value : ν) :
    (table.assign key value).map Prod.fst =
      if (table.lookup key).isSome then table.map Prod.fst
      else table.map Prod.fst ++ [key] := by
  unfold assign
  split
  · rw [List.map_map]
    apply List.map_congr_left
    intro entry _
    simp only [Function.comp_apply]
    split
    · rename_i same
      exact same.symm
    · rfl
  · exact List.map_append

theorem notMem_keys {table : Table κ ν} {key : κ} :
    key ∉ table.map Prod.fst ↔ table.lookup key = none := by
  rw [List.lookup_eq_none_iff]
  simp only [List.mem_map, not_exists, not_and, bne_iff_ne]
  constructor
  · intro missing entry member same
    exact missing entry member same.symm
  · intro missing entry member same
    exact missing entry member same.symm

theorem mem_keys_assign {table : Table κ ν} {key other : κ} {value : ν} :
    other ∈ (table.assign key value).map Prod.fst ↔
      other ∈ table.map Prod.fst ∨ other = key := by
  rw [keys_assign]
  split
  · rename_i present
    refine (or_iff_left_of_imp ?_).symm
    intro same
    by_contra missing
    rw [same, notMem_keys] at missing
    rw [missing] at present
    cases present
  · rw [List.mem_append, List.mem_singleton]

theorem nodup_assign {table : Table κ ν} {key : κ} {value : ν}
    (nodup : (table.map Prod.fst).Nodup) :
    ((table.assign key value).map Prod.fst).Nodup := by
  rw [keys_assign]
  split
  · exact nodup
  · rename_i missing
    apply nodup.append (List.nodup_singleton key)
    rw [List.disjoint_singleton]
    exact notMem_keys.mpr (Option.not_isSome_iff_eq_none.mp missing)

theorem assign_ne_nil (table : Table κ ν) (key : κ) (value : ν) :
    table.assign key value ≠ [] := by
  unfold assign
  split
  · rename_i present
    intro empty
    rw [List.map_eq_nil_iff.mp empty] at present
    cases present
  · exact List.append_ne_nil_of_right_ne_nil _ (List.cons_ne_nil _ _)

theorem nodup_pop {table : Table κ ν} {key : κ}
    (nodup : (table.map Prod.fst).Nodup) :
    ((table.pop key).map Prod.fst).Nodup :=
  nodup.sublist ((List.filter_sublist).map Prod.fst)

theorem mem_assign {table : Table κ ν} {key : κ} {value : ν}
    {entry : κ × ν} (missing : table.lookup key = none) :
    entry ∈ table.assign key value ↔
      entry ∈ table ∨ entry = (key, value) := by
  rw [assign_of_lookup value missing, List.mem_append, List.mem_singleton]

theorem mem_of_mem_assign {table : Table κ ν} {key : κ} {value : ν}
    {entry : κ × ν} (member : entry ∈ table.assign key value) :
    entry ∈ table ∨ entry = (key, value) := by
  unfold assign at member
  split at member
  · obtain ⟨before, listed, same⟩ := List.mem_map.mp member
    split at same
    · exact Or.inr same.symm
    · rw [← same]
      exact Or.inl listed
  · rcases List.mem_append.mp member with old | new
    · exact Or.inl old
    · exact Or.inr (List.mem_singleton.mp new)

/-- A renaming of the keys that keeps the assigned key apart from others. -/
theorem map_assign {κ' ν' : Type} [DecidableEq κ'] {rename : κ → κ'}
    {convert : ν → ν'} {table : Table κ ν} {key : κ} (value : ν)
    (apart : ∀ entry ∈ table, rename entry.1 = rename key → entry.1 = key) :
    (table.assign key value).map (Prod.map rename convert) =
      assign (table.map (Prod.map rename convert)) (rename key)
        (convert value) := by
  have present : (table.map (Prod.map rename convert)).lookup (rename key) =
        none ↔ table.lookup key = none := by
    rw [← notMem_keys, ← notMem_keys, List.map_map]
    apply not_congr
    constructor
    · intro member
      obtain ⟨entry, listed, same⟩ := List.mem_map.mp member
      exact List.mem_map.mpr ⟨entry, listed, apart entry listed same⟩
    · intro member
      obtain ⟨entry, listed, same⟩ := List.mem_map.mp member
      exact List.mem_map.mpr ⟨entry, listed, congrArg rename same⟩
  unfold assign
  split
  · rename_i found
    rw [if_pos, List.map_map, List.map_map]
    · apply List.map_congr_left
      intro entry listed
      by_cases same : entry.1 = key
      · simp [same]
      · have different : rename entry.1 ≠ rename key :=
          fun equal => same (apart entry listed equal)
        simp [same, different]
    · rw [Option.isSome_iff_ne_none, Ne, present]
      exact Option.isSome_iff_ne_none.mp found
  · rename_i missing
    rw [if_neg, List.map_append]
    · rfl
    · rw [Option.not_isSome_iff_eq_none, present]
      exact Option.not_isSome_iff_eq_none.mp missing

theorem notMem_keys_pop {table : Table κ ν} {key : κ} :
    key ∉ (table.pop key).map Prod.fst := by
  intro member
  obtain ⟨entry, listed, same⟩ := List.mem_map.mp member
  exact (mem_pop.mp listed).2 same

/-- The entries of the other keys stay as they are. -/
theorem pop_assign_self (table : Table κ ν) (key : κ) (value : ν) :
    (table.assign key value).pop key = table.pop key := by
  cases present : (table.lookup key).isSome with
  | false =>
      have missing := Option.not_isSome_iff_eq_none.mp
        (Bool.eq_false_iff.mp present)
      rw [assign_of_lookup value missing, pop, List.filter_append]
      simp [pop]
  | true =>
      rw [assign, if_pos present]
      clear present
      induction table with
      | nil => rfl
      | cons entry table induction =>
          by_cases same : entry.1 = key
          · simpa [pop, same] using induction
          · simpa [pop, same] using induction

/-- A new entry is popped again. -/
theorem pop_assign {table : Table κ ν} {key : κ}
    (unlisted : key ∉ table.map Prod.fst) (value : ν) :
    (table.assign key value).pop key = table := by
  rw [pop_assign_self, pop_of_unlisted unlisted]

/-- Pop keys one after another. -/
def popKeys (table : Table κ ν) (keys : List κ) : Table κ ν :=
  keys.foldl pop table

theorem lookup_popKeys (table : Table κ ν) (keys : List κ) (other : κ) :
    (table.popKeys keys).lookup other =
      if other ∈ keys then none else table.lookup other := by
  induction keys generalizing table with
  | nil => rfl
  | cons key keys induction =>
      have first : table.popKeys (key :: keys) =
          (table.pop key).popKeys keys := rfl
      rw [first, induction, lookup_pop]
      by_cases same : other = key
      · simp [same]
      · simp [same]

/-- Write the entries of a table into a function, one after another. -/
def writeAll (function : κ → ν) (table : Table κ ν) : κ → ν :=
  table.foldl (fun written entry =>
    Function.update written entry.1 entry.2) function

theorem writeAll_cons (function : κ → ν) (entry : κ × ν)
    (table : Table κ ν) :
    writeAll function (entry :: table) =
      writeAll (Function.update function entry.1 entry.2) table := rfl

theorem writeAll_append (function : κ → ν) (first second : Table κ ν) :
    writeAll function (first ++ second) =
      writeAll (writeAll function first) second :=
  List.foldl_append

/-- Only the keys of the table are written. -/
theorem writeAll_apply (function : κ → ν) {table : Table κ ν} {key : κ}
    (unlisted : key ∉ table.map Prod.fst) :
    writeAll function table key = function key := by
  induction table generalizing function with
  | nil => rfl
  | cons entry table induction =>
      rw [List.map_cons, List.mem_cons, not_or] at unlisted
      rw [writeAll_cons, induction _ unlisted.2]
      exact Function.update_of_ne unlisted.1 ..

/-- A value that replaces all others under its key may as well be written
first or last. -/
theorem writeAll_replace (function : κ → ν) (table : Table κ ν) (key : κ)
    (value : ν) :
    writeAll (Function.update function key value)
        (table.map (fun entry =>
          if entry.1 = key then (key, value) else entry)) =
      Function.update (writeAll function table) key value := by
  induction table generalizing function with
  | nil => rfl
  | cons entry table induction =>
      rw [List.map_cons, writeAll_cons, writeAll_cons, ← induction]
      split
      · rename_i same
        rw [same, Function.update_idem, Function.update_idem]
      · rename_i different
        rw [Function.update_comm different]

/-- The last value under a key is the one that remains. -/
theorem writeAll_assign (function : κ → ν) (table : Table κ ν) (key : κ)
    (value : ν) :
    writeAll function (table.assign key value) =
      Function.update (writeAll function table) key value := by
  unfold assign
  split
  · rename_i present
    induction table generalizing function with
    | nil => cases present
    | cons entry table induction =>
        rw [List.map_cons, writeAll_cons, writeAll_cons]
        by_cases same : entry.1 = key
        · rw [if_pos same, ← writeAll_replace, same, Function.update_idem]
        · rw [if_neg same]
          apply induction
          rw [List.lookup_cons, beq_eq_false_iff_ne.mpr (Ne.symm same)]
            at present
          exact present
  · rw [writeAll_append]
    rfl

end Table

/-- Every place has the member with the flag whose home it is. -/
def Table.Lists {Place Member : Type} (entries : Place → Option Member)
    (home : Member → Place) (flag : Member → Bool) : Prop :=
  ∀ place member, entries place = some member ↔
    home member = place ∧ flag member = true

namespace Table.Lists

variable {Place Member : Type} {entries following : Place → Option Member}
  {home : Member → Place} {flag later : Member → Bool}

/-- One member changes, and with it the entry at its home. -/
theorem change (lists : Lists entries home flag) (index : Member)
    (elsewhere : ∀ place, place ≠ home index →
      following place = entries place)
    (others : ∀ member, member ≠ index → later member = flag member)
    (own : following (home index) = some index ↔ later index = true)
    (kept : ∀ member, member ≠ index →
      (following (home index) = some member ↔
        entries (home index) = some member)) :
    Lists following home later := by
  intro place member
  by_cases here : place = home index
  · subst here
    by_cases same : member = index
    · subst same
      rw [own]
      exact ⟨fun on => ⟨rfl, on⟩, fun both => both.2⟩
    · rw [kept member same, lists, others member same]
  · rw [elsewhere place here]
    by_cases same : member = index
    · subst same
      constructor
      · intro found
        exact absurd ((lists place member).mp found).1.symm here
      · intro both
        exact absurd both.1.symm here
    · rw [lists, others member same]

end Table.Lists
