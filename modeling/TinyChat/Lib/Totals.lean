import Mathlib.Algebra.BigOperators.Group.List.Basic
import TinyChat.Lib.Table

/-!
# Totals over tables

The total of a measure over the values of a table changes by the difference of
the new and the replaced value.
-/

namespace Table

variable {κ ν M : Type} [DecidableEq κ] [AddCommMonoid M]

def total (measure : ν → M) (table : Table κ ν) : M :=
  (table.map fun entry => measure entry.2).sum

/-- The value of a key and the total of the others. -/
theorem total_eq_add_pop (measure : ν → M) {table : Table κ ν} (key : κ)
    (nodup : (table.map Prod.fst).Nodup) :
    table.total measure =
      ((table.lookup key).map measure).getD 0 +
        (table.pop key).total measure := by
  cases found : table.lookup key with
  | none =>
      rw [pop_of_unlisted (notMem_keys.mpr found)]
      simp
  | some value =>
      have split := (perm_pop nodup found).map fun entry => measure entry.2
      exact split.sum_eq

theorem total_assign (measure : ν → M) {table : Table κ ν} (key : κ)
    (value : ν) (nodup : (table.map Prod.fst).Nodup) :
    (table.assign key value).total measure =
      measure value + (table.pop key).total measure := by
  rw [total_eq_add_pop measure key (nodup_assign nodup), lookup_assign,
    if_pos rfl, pop_assign_self]
  rfl

end Table
