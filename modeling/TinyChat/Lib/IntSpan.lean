import Mathlib.Data.List.Nodup
import Mathlib.Data.List.Pairwise
import Mathlib.Data.List.Perm.Subperm
import Mathlib.Data.List.Range
import Mathlib.Data.Set.Basic

/-!
# Sets of integers as lists of half-open spans

A pair `(first, last)` stands for the integers from `first` up to but not
including `last`.  Spans that leave a gap between any two of them are the
maximal runs of consecutive integers of the set that they cover.  The search
for the first integer from some point on that a list does not contain ends
within as many steps as the list has members.
-/

namespace IntSpan

/-- Some span of the list contains the integer. -/
def Covers (spans : List (Int × Int)) (value : Int) : Prop :=
  ∃ span ∈ spans, span.1 ≤ value ∧ value < span.2

/-- The integers from `first` up to but not including `last` belong to the
set and cannot be extended at either end. -/
structure MaximalRun (values : Set Int) (first last : Int) : Prop where
  nonempty : first < last
  inside : ∀ value, first ≤ value → value < last → value ∈ values
  leftEnd : first - 1 ∉ values
  rightEnd : last ∉ values

/-- Two spans neither overlap nor touch. -/
def Apart (left right : Int × Int) : Prop :=
  left.2 < right.1 ∨ right.2 < left.1

instance : Std.Symm Apart where
  symm _ _ apart := Or.symm apart

variable {spans : List (Int × Int)}

theorem maximalRun_of_mem
    (ordered : ∀ span ∈ spans, span.1 < span.2)
    (separated : spans.Pairwise Apart)
    {first last : Int} (member : (first, last) ∈ spans) :
    MaximalRun {value | Covers spans value} first last := by
  have nonempty : first < last := ordered _ member
  have excludes : ∀ value, first - 1 ≤ value → value ≤ last →
      Covers spans value → first ≤ value ∧ value < last := by
    intro value lower upper covered
    obtain ⟨span, spanMember, bounds⟩ := covered
    by_cases same : (first, last) = span
    · subst same
      exact bounds
    · have apart := separated.forall member spanMember same
      have spanOrdered := ordered span spanMember
      rcases apart with before | after
      · simp only at before
        omega
      · simp only at after
        omega
  refine ⟨nonempty, ?_, ?_, ?_⟩
  · intro value lower upper
    exact ⟨(first, last), member, lower, upper⟩
  · intro covered
    have inside := excludes (first - 1) (by omega) (by omega) covered
    omega
  · intro covered
    have inside := excludes last (by omega) (by omega) covered
    omega

/-- Separated spans are exactly the maximal runs of what they cover. -/
theorem mem_iff_maximalRun
    (ordered : ∀ span ∈ spans, span.1 < span.2)
    (separated : spans.Pairwise Apart) (first last : Int) :
    (first, last) ∈ spans ↔
      MaximalRun {value | Covers spans value} first last := by
  constructor
  · exact maximalRun_of_mem ordered separated
  · intro run
    obtain ⟨⟨left, right⟩, member, lower, upper⟩ :=
      run.inside first (le_refl first) run.nonempty
    simp only at lower upper
    have listed := maximalRun_of_mem ordered separated member
    have sameLeft : left = first := by
      by_contra different
      exact run.leftEnd (listed.inside (first - 1) (by omega) (by omega))
    have sameRight : right = last := by
      have notBelow : ¬ right < last := fun below =>
        listed.rightEnd (run.inside right (by omega) below)
      have notAbove : ¬ last < right := fun above =>
        run.rightEnd (listed.inside last (by have := run.nonempty; omega) above)
      omega
    rw [← sameLeft, ← sameRight]
    exact member

def advance (values : List Int) : Nat → Int → Int
  | 0, value => value
  | fuel + 1, value =>
      if value ∈ values then advance values fuel (value + 1) else value

/-- The first integer from `start` on that is not in the list. -/
def firstMissing (values : List Int) (start : Int) : Int :=
  advance values values.length start

theorem le_advance (values : List Int) (fuel : Nat) (start : Int) :
    start ≤ advance values fuel start := by
  induction fuel generalizing start with
  | zero => exact le_refl start
  | succ fuel induction =>
      simp only [advance]
      split
      · have further := induction (start + 1)
        omega
      · exact le_refl start

theorem mem_of_lt_advance {values : List Int} {fuel : Nat} {start value : Int}
    (lower : start ≤ value) (upper : value < advance values fuel start) :
    value ∈ values := by
  induction fuel generalizing start with
  | zero =>
      simp only [advance] at upper
      omega
  | succ fuel induction =>
      simp only [advance] at upper
      split at upper
      · rename_i present
        by_cases same : value = start
        · rw [same]
          exact present
        · exact induction (by omega) upper
      · omega

/-- The search stops early only at a missing integer. -/
theorem advance_eq_or_notMem (values : List Int) (fuel : Nat) (start : Int) :
    advance values fuel start = start + fuel ∨
      advance values fuel start ∉ values := by
  induction fuel generalizing start with
  | zero => simp [advance]
  | succ fuel induction =>
      simp only [advance]
      split
      · rcases induction (start + 1) with exhausted | missing
        · left
          omega
        · exact Or.inr missing
      · rename_i missing
        exact Or.inr missing

theorem le_firstMissing (values : List Int) (start : Int) :
    start ≤ firstMissing values start :=
  le_advance values values.length start

theorem mem_of_lt_firstMissing {values : List Int} {start value : Int}
    (lower : start ≤ value) (upper : value < firstMissing values start) :
    value ∈ values :=
  mem_of_lt_advance lower upper

theorem firstMissing_notMem (values : List Int) (start : Int) :
    firstMissing values start ∉ values := by
  rcases advance_eq_or_notMem values values.length start
    with exhausted | missing
  · intro present
    let found := (List.range (values.length + 1)).map
      (fun (offset : Nat) => start + (offset : Int))
    have distinct : found.Nodup := by
      apply List.Nodup.map _ List.nodup_range
      intro left right same
      simp only at same
      omega
    have inside : found ⊆ values := by
      intro value member
      obtain ⟨offset, bound, rfl⟩ := List.mem_map.mp member
      have short := List.mem_range.mp bound
      by_cases final : offset = values.length
      · rw [final, ← exhausted]
        exact present
      · have before : start + (offset : Int) <
            advance values values.length start := by
          omega
        exact mem_of_lt_advance (by omega) before
    have bounded := (distinct.subperm inside).length_le
    simp only [found, List.length_map, List.length_range] at bounded
    omega
  · exact missing

end IntSpan
