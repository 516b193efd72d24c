import Mathlib.Data.List.Nodup

/-!
# Tables of rows with a key

A table is a list of rows; a unique constraint says that no two rows have the
same key.  A statement finds the row of a key, changes it in its place, or
appends a new one.
-/

namespace Rows

variable {ρ κ : Type} [DecidableEq κ] (key : ρ → κ)

/-- The row with a key. -/
def find (rows : List ρ) (k : κ) : Option ρ :=
  rows.find? (fun row => key row = k)

/-- Change the rows with a key. -/
def update (rows : List ρ) (k : κ) (change : ρ → ρ) : List ρ :=
  rows.map (fun row => if key row = k then change row else row)

/-- No two rows have the same key. -/
def Unique (rows : List ρ) : Prop := (rows.map key).Nodup

variable {key} {rows : List ρ} {k : κ} {row : ρ} {change : ρ → ρ}

theorem mem_of_find (found : find key rows k = some row) :
    row ∈ rows ∧ key row = k := by
  have holds := List.find?_some found
  exact ⟨List.mem_of_find?_eq_some found, of_decide_eq_true holds⟩

theorem find_eq_none_iff :
    find key rows k = none ↔ ∀ row ∈ rows, key row ≠ k := by
  simp [find]

theorem Unique.append (unique : Unique key rows)
    (fresh : find key rows (key row) = none) :
    Unique key (rows ++ [row]) := by
  rw [Unique, List.map_append, List.nodup_append]
  refine ⟨unique, List.nodup_singleton _, ?_⟩
  intro old member new last same
  obtain ⟨other, listed, rfl⟩ := List.mem_map.mp member
  rw [List.mem_singleton.mp last] at same
  exact find_eq_none_iff.mp fresh other listed same

/-- What the change keeps of every row is kept of the table. -/
theorem map_update {α : Type} {part : ρ → α}
    (keeps : ∀ row, part (change row) = part row) :
    (update key rows k change).map part = rows.map part := by
  rw [update, List.map_map]
  apply List.map_congr_left
  intro row _
  by_cases same : key row = k
  · simp [same, keeps]
  · simp [same]

theorem Unique.update (unique : Unique key rows)
    (keeps : ∀ row, key (change row) = key row) :
    Unique key (Rows.update key rows k change) := by
  rw [Unique, map_update keeps]
  exact unique

theorem update_eq_self (absent : find key rows k = none) :
    update key rows k change = rows := by
  refine (List.map_congr_left ?_).trans (List.map_id rows)
  intro row member
  exact if_neg (find_eq_none_iff.mp absent row member)

theorem mem_update {other : ρ} :
    other ∈ update key rows k change ↔
      ∃ row ∈ rows, (if key row = k then change row else row) = other :=
  List.mem_map

theorem find_update (keeps : ∀ row, key (change row) = key row) :
    find key (update key rows k change) k = (find key rows k).map change := by
  induction rows with
  | nil => rfl
  | cons head rows induction =>
      rw [find, find, update, List.map_cons, List.find?_cons,
        List.find?_cons]
      by_cases same : key head = k
      · simp [same, keeps]
      · simp only [same, if_false, decide_false]
        exact induction

/-- A count changes as the one row does. -/
theorem countP_update (unique : Unique key rows)
    (found : find key rows k = some row) (good : ρ → Bool) :
    (update key rows k change).countP good + (if good row then 1 else 0) =
      rows.countP good + (if good (change row) then 1 else 0) := by
  induction rows with
  | nil => cases found
  | cons head rows induction =>
      rw [Unique, List.map_cons, List.nodup_cons] at unique
      by_cases same : key head = k
      · have first : head = row := by
          simpa [find, same] using found
        have absent : find key rows k = none := by
          apply find_eq_none_iff.mpr
          intro other member equal
          exact unique.1 (List.mem_map.mpr ⟨other, member,
            equal.trans same.symm⟩)
        have tail : update key rows k change = rows := update_eq_self absent
        subst first
        have split : update key (head :: rows) k change =
            change head :: rows := by
          rw [update, List.map_cons, if_pos same]
          exact congrArg (change head :: ·) tail
        rw [split, List.countP_cons, List.countP_cons]
        omega
      · have later : find key rows k = some row := by
          simpa [find, same] using found
        have counted := induction unique.2 later
        have split : update key (head :: rows) k change =
            head :: update key rows k change := by
          rw [update, List.map_cons, if_neg same]
          rfl
        rw [split, List.countP_cons, List.countP_cons]
        omega

end Rows
