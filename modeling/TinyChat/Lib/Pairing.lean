import TinyChat.Lib.Table

/-!
# Tables that are inverse to each other

One table has the value of every key, and the other one has the key of every
value; entries are added to both and taken out of both.
-/

namespace Table

variable {κ ν : Type} [DecidableEq κ] [DecidableEq ν]

def Paired (forward : Table κ ν) (backward : Table ν κ) : Prop :=
  ∀ key value, forward.lookup key = some value ↔
    backward.lookup value = some key

theorem paired_nil : Paired ([] : Table κ ν) [] := by
  intro key value
  constructor
  · intro found
    cases found
  · intro found
    cases found

variable {forward : Table κ ν} {backward : Table ν κ} {key : κ} {value : ν}

theorem Paired.pop (paired : Paired forward backward)
    (found : forward.lookup key = some value) :
    Paired (forward.pop key) (backward.pop value) := by
  have back := (paired key value).mp found
  intro other held
  rw [lookup_pop, lookup_pop]
  by_cases sameKey : other = key
  · subst sameKey
    rw [if_pos rfl]
    constructor
    · intro gone
      cases gone
    · intro kept
      split at kept
      · cases kept
      · rename_i different
        rw [← paired, found, Option.some.injEq] at kept
        exact absurd kept.symm different
  · rw [if_neg sameKey]
    by_cases sameValue : held = value
    · subst sameValue
      rw [if_pos rfl, paired, back, Option.some.injEq]
      constructor
      · intro same
        exact absurd same.symm sameKey
      · intro gone
        cases gone
    · rw [if_neg sameValue]
      exact paired other held

theorem Paired.assign (paired : Paired forward backward)
    (newKey : forward.lookup key = none)
    (newValue : backward.lookup value = none) :
    Paired (forward.assign key value) (backward.assign value key) := by
  intro other held
  rw [lookup_assign, lookup_assign]
  by_cases sameKey : other = key
  · subst sameKey
    rw [if_pos rfl, Option.some.injEq]
    constructor
    · intro same
      rw [if_pos same.symm]
    · intro found
      split at found
      · rename_i same
        exact same.symm
      · rw [← paired, newKey] at found
        cases found
  · rw [if_neg sameKey]
    by_cases sameValue : held = value
    · subst sameValue
      rw [if_pos rfl, paired, newValue, Option.some.injEq]
      constructor
      · intro absurdly
        cases absurdly
      · intro same
        exact absurd same.symm sameKey
    · rw [if_neg sameValue]
      exact paired other held

end Table
