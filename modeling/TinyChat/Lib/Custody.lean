import Mathlib.Data.List.Nodup
import Mathlib.Logic.Function.Basic

/-!
# Items in the custody of owners

Every item is either spare or in the hands of one owner.  Items are taken out
of the spare ones, put back, and passed from owner to owner; none is lost and
none is in two places.
-/

namespace Custody

variable {ι κ : Type}

/-- The items are those that are spare and those that have an owner, each of
them once. -/
structure Placed (items : ι → Prop) (spare : List ι) (owned : κ → Option ι) :
    Prop where
  nodup : spare.Nodup
  apart : ∀ item ∈ spare, ∀ owner, owned owner ≠ some item
  single : ∀ first second item, owned first = some item →
    owned second = some item → first = second
  all : ∀ item, items item ↔
    item ∈ spare ∨ ∃ owner, owned owner = some item

/-- Where an item is: at a place among the spare ones, or with an owner. -/
inductive Place (κ : Type) where
  | spare (place : Nat)
  | owner (owner : κ)

def At (spare : List ι) (owned : κ → Option ι) (item : ι) : Place κ → Prop
  | .spare place => spare[place]? = some item
  | .owner owner => owned owner = some item

theorem placed_spare {spare : List ι} (nodup : spare.Nodup) :
    Placed (fun item => item ∈ spare) spare (fun _ : κ => none) where
  nodup := nodup
  apart := fun _ _ _ => nofun
  single := fun _ _ _ => nofun
  all := fun _ => by simp

section

variable {items : ι → Prop} {spare : List ι} {owned : κ → Option ι}
  {item : ι}

/-- An item is in exactly one place. -/
theorem Placed.unique (placed : Placed items spare owned)
    (known : items item) : ∃! place, At spare owned item place := by
  rcases (placed.all item).mp known with inside | ⟨owner, held⟩
  · obtain ⟨place, bound, here⟩ := List.mem_iff_getElem.mp inside
    refine ⟨.spare place, List.getElem?_eq_some_iff.mpr ⟨bound, here⟩, ?_⟩
    intro other there
    cases other with
    | spare second =>
        obtain ⟨within, again⟩ := List.getElem?_eq_some_iff.mp there
        rw [placed.nodup.getElem_inj_iff.mp (again.trans here.symm)]
    | owner second => exact absurd there (placed.apart item inside second)
  · refine ⟨.owner owner, held, ?_⟩
    intro other there
    cases other with
    | spare second =>
        have inside := List.mem_of_getElem? there
        exact absurd held (placed.apart item inside owner)
    | owner second => rw [placed.single second owner item there held]

/-- The first spare item goes to its end. -/
theorem Placed.rotate (placed : Placed items (item :: spare) owned) :
    Placed items (spare ++ [item]) owned := by
  have same : ∀ other, other ∈ spare ++ [item] ↔ other ∈ item :: spare := by
    intro other
    rw [List.mem_append, List.mem_singleton, List.mem_cons, or_comm]
  constructor
  case nodup =>
    rw [List.nodup_append_comm]
    exact placed.nodup
  case apart =>
    intro other member
    exact placed.apart other ((same other).mp member)
  case single => exact placed.single
  case all =>
    intro other
    rw [same]
    exact placed.all other

variable [DecidableEq κ] {owner : κ}

/-- An owner without an item takes the first spare one. -/
theorem Placed.take (placed : Placed items (item :: spare) owned)
    (empty : owned owner = none) :
    Placed items spare (Function.update owned owner (some item)) := by
  have outside := (List.nodup_cons.mp placed.nodup).1
  have free := placed.apart item List.mem_cons_self
  constructor
  case nodup => exact (List.nodup_cons.mp placed.nodup).2
  case apart =>
    intro other member taker
    rw [Function.update_apply]
    split
    · intro same
      rw [Option.some.inj same] at outside
      exact outside member
    · exact placed.apart other (List.mem_cons_of_mem _ member) taker
  case single =>
    intro first second other held also
    rw [Function.update_apply] at held also
    split at held
    · rename_i here
      split at also
      · rename_i there
        exact here.trans there.symm
      · rw [← held] at also
        exact absurd also (free second)
    · split at also
      · rw [← also] at held
        exact absurd held (free first)
      · exact placed.single first second other held also
  case all =>
    intro other
    rw [placed.all, List.mem_cons, or_assoc]
    constructor
    · intro known
      rcases known with same | inside | ⟨holder, held⟩
      · refine .inr ⟨owner, ?_⟩
        rw [Function.update_self, same]
      · exact .inl inside
      · refine .inr ⟨holder, ?_⟩
        rw [Function.update_of_ne]
        · exact held
        · intro same
          rw [same, empty] at held
          cases held
    · intro known
      rcases known with inside | ⟨holder, held⟩
      · exact .inr (.inl inside)
      · rw [Function.update_apply] at held
        split at held
        · exact .inl (Option.some.inj held).symm
        · exact .inr (.inr ⟨holder, held⟩)

/-- An owner puts its item back. -/
theorem Placed.putBack (placed : Placed items spare owned)
    (held : owned owner = some item) :
    Placed items (spare ++ [item]) (Function.update owned owner none) := by
  constructor
  case nodup =>
    refine List.nodup_append.mpr
      ⟨placed.nodup, List.nodup_singleton _, ?_⟩
    intro other member spared single same
    rw [same, List.mem_singleton.mp single] at member
    exact placed.apart item member owner held
  case apart =>
    intro other member holder also
    rw [Function.update_apply] at also
    split at also
    · cases also
    · rename_i different
      rcases List.mem_append.mp member with inside | last
      · exact placed.apart other inside holder also
      · rw [List.mem_singleton.mp last] at also
        exact different (placed.single holder owner item also held)
  case single =>
    intro first second other one two
    rw [Function.update_apply] at one two
    split at one
    · cases one
    · split at two
      · cases two
      · exact placed.single first second other one two
  case all =>
    intro other
    rw [placed.all, List.mem_append, List.mem_singleton, or_assoc]
    refine or_congr_right ?_
    constructor
    · intro known
      obtain ⟨holder, has⟩ := known
      by_cases same : holder = owner
      · rw [same, held] at has
        exact .inl (Option.some.inj has).symm
      · refine .inr ⟨holder, ?_⟩
        rw [Function.update_of_ne same]
        exact has
    · intro known
      rcases known with same | ⟨holder, has⟩
      · rw [same]
        exact ⟨owner, held⟩
      · rw [Function.update_apply] at has
        split at has
        · cases has
        · exact ⟨holder, has⟩

/-- An owner passes its item to another one. -/
theorem Placed.pass (placed : Placed items spare owned) {receiver : κ}
    (held : owned owner = some item) (empty : owned receiver = none) :
    Placed items spare (Function.update (Function.update owned owner none)
      receiver (some item)) := by
  have different : owner ≠ receiver := by
    intro same
    rw [same, empty] at held
    cases held
  have moved : ∀ holder other,
      Function.update (Function.update owned owner none) receiver (some item)
          holder = some other ↔
        (holder = receiver ∧ item = other) ∨
          (holder ≠ receiver ∧ holder ≠ owner ∧
            owned holder = some other) := by
    intro holder other
    rw [Function.update_apply, Function.update_apply]
    split
    · rename_i here
      simp [here]
    · rename_i elsewhere
      split
      · rename_i giver
        simp [giver, different]
      · rename_i neither
        simp [elsewhere, neither]
  constructor
  case nodup => exact placed.nodup
  case apart =>
    intro other member holder has
    rcases (moved holder other).mp has with ⟨_, same⟩ | ⟨_, _, before⟩
    · rw [← same] at member
      exact placed.apart item member owner held
    · exact placed.apart other member holder before
  case single =>
    intro first second other one two
    rcases (moved first other).mp one with ⟨here, same⟩ | ⟨_, apart, before⟩
    · rcases (moved second other).mp two with ⟨there, _⟩ | ⟨_, not, has⟩
      · exact here.trans there.symm
      · rw [← same] at has
        exact absurd (placed.single second owner item has held) not
    · rcases (moved second other).mp two with ⟨_, same⟩ | ⟨_, _, has⟩
      · rw [← same] at before
        exact absurd (placed.single first owner item before held) apart
      · exact placed.single first second other before has
  case all =>
    intro other
    rw [placed.all]
    refine or_congr_right ?_
    constructor
    · intro known
      obtain ⟨holder, has⟩ := known
      by_cases giver : holder = owner
      · rw [giver, held] at has
        exact ⟨receiver,
          (moved receiver other).mpr (.inl ⟨rfl, Option.some.inj has⟩)⟩
      · refine ⟨holder, (moved holder other).mpr (.inr ⟨?_, giver, has⟩)⟩
        intro same
        rw [same, empty] at has
        cases has
    · intro known
      obtain ⟨holder, has⟩ := known
      rcases (moved holder other).mp has with ⟨_, same⟩ | ⟨_, _, before⟩
      · rw [← same]
        exact ⟨owner, held⟩
      · exact ⟨holder, before⟩

end

end Custody
