import Mathlib.Data.List.Basic

/-!
# Logs of changes

A log lists the changes of a store: a key gets a value or loses it.  A reader
that has come to some place of the log knows what the store was there.
-/

namespace ChangeLog

/-- A key gets a value, or `none` if it is deleted. -/
structure Change (κ ν : Type) where
  key : κ
  value : Option ν
  deriving DecidableEq

variable {κ ν : Type} [DecidableEq κ]

/-- The value of a key after all changes of a log. -/
def latest (log : List (Change κ ν)) (key : κ) : Option ν :=
  match (log.filter (fun change => change.key = key)).getLast? with
  | some change => change.value
  | none => none

@[simp] theorem latest_nil (key : κ) :
    latest ([] : List (Change κ ν)) key = none := rfl

theorem latest_append (log : List (Change κ ν)) (change : Change κ ν)
    (key : κ) :
    latest (log ++ [change]) key =
      if change.key = key then change.value else latest log key := by
  unfold latest
  rw [List.filter_append]
  by_cases same : change.key = key
  · have own : [change].filter (fun change => change.key = key) =
        [change] := by
      simp [same]
    rw [if_pos same, own, List.getLast?_concat]
  · have none_there : [change].filter (fun change => change.key = key) =
        [] := by
      simp [same]
    rw [if_neg same, none_there, List.append_nil]

/-- A key that no later change touches keeps its value. -/
theorem latest_untouched {log later : List (Change κ ν)} {key : κ}
    (untouched : ∀ change ∈ later, change.key ≠ key) :
    latest (log ++ later) key = latest log key := by
  have none_there : later.filter (fun change => change.key = key) = [] := by
    rw [List.filter_eq_nil_iff]
    intro change member
    simpa using untouched change member
  unfold latest
  rw [List.filter_append, none_there, List.append_nil]

/-- The next change that a reader comes to. -/
theorem latest_next {log : List (Change κ ν)} {place : Nat}
    {change : Change κ ν} (next : log[place]? = some change) (key : κ) :
    latest (log.take (place + 1)) key =
      if change.key = key then change.value
      else latest (log.take place) key := by
  rw [List.take_add_one, next, Option.toList_some, latest_append]

/-- A reader that has only untouched changes before it knows the store. -/
theorem latest_rest {log : List (Change κ ν)} {place : Nat} {key : κ}
    (untouched : ∀ change ∈ log.drop place, change.key ≠ key) :
    latest (log.take place) key = latest log key := by
  have whole := @latest_untouched _ _ _ (log.take place) _ _ untouched
  rw [List.take_append_drop] at whole
  exact whole.symm

end ChangeLog
