import Mathlib.Data.List.Nodup
import Mathlib.Logic.Function.Basic

/-!
# Recycled objects

Objects with a flag are handed out to holders and put back into a bounded
cache, from which they are handed out again.  If every holder puts its
object back once, two holders never have the same object.
-/

/-- Append to a deque of a maximal length; the oldest element is dropped when
it is full. -/
def boundedAppend {α : Type} (maxlen : Nat) (cache : List α) (element : α) :
    List α :=
  (cache ++ [element]).drop (cache.length + 1 - maxlen)

structure ObjectPool where
  flag : Nat → Bool := fun _ => false
  created : Nat := 0
  cache : List Nat := []

namespace ObjectPool

/-- The first object of the cache, or a new one. -/
def getOrCreate (pool : ObjectPool) : Nat × ObjectPool :=
  match pool.cache with
  | object :: cache => (object, { pool with cache := cache })
  | [] => (pool.created, { pool with created := pool.created + 1 })

def raise (pool : ObjectPool) (object : Nat) : ObjectPool :=
  { pool with flag := Function.update pool.flag object true }

def putBack (maxlen : Nat) (pool : ObjectPool) (object : Nat) : ObjectPool :=
  { pool with
    flag := Function.update pool.flag object false
    cache := boundedAppend maxlen pool.cache object }

/-- The holders have objects of their own; what is in the cache, or not
created yet, has no holder and no flag. -/
structure Leased (pool : ObjectPool) (holds : Nat → Prop)
    (object : Nat → Nat) : Prop where
  distinct : ∀ first second, holds first → holds second →
    object first = object second → first = second
  below : ∀ holder, holds holder → object holder < pool.created
  uncached : ∀ holder, holds holder → object holder ∉ pool.cache
  cached : ∀ spare ∈ pool.cache,
    spare < pool.created ∧ pool.flag spare = false
  nodup : pool.cache.Nodup
  fresh : ∀ spare, pool.created ≤ spare → pool.flag spare = false

theorem leased_empty (object : Nat → Nat) :
    Leased {} (fun _ => False) object where
  distinct := fun _ _ held => held.elim
  below := fun _ held => held.elim
  uncached := fun _ held => held.elim
  cached := fun _ member => absurd member List.not_mem_nil
  nodup := List.nodup_nil
  fresh := fun _ _ => rfl

variable {pool : ObjectPool} {holds : Nat → Prop} {object : Nat → Nat}

theorem Leased.congr (leased : Leased pool holds object)
    {others : Nat → Prop} {same : Nat → Nat}
    (held : ∀ holder, others holder → holds holder)
    (equal : ∀ holder, others holder → same holder = object holder) :
    Leased pool others same where
  distinct := by
    intro first second one two shared
    rw [equal first one, equal second two] at shared
    exact leased.distinct first second (held first one) (held second two)
      shared
  below := by
    intro holder holding
    rw [equal holder holding]
    exact leased.below holder (held holder holding)
  uncached := by
    intro holder holding
    rw [equal holder holding]
    exact leased.uncached holder (held holder holding)
  cached := leased.cached
  nodup := leased.nodup
  fresh := leased.fresh

/-- What is handed out has no flag, and its flags stay. -/
theorem Leased.getOrCreate_flag (leased : Leased pool holds object) :
    pool.getOrCreate.2.flag = pool.flag ∧
      pool.flag pool.getOrCreate.1 = false := by
  unfold getOrCreate
  split
  · rename_i spare cache shape
    refine ⟨rfl, (leased.cached spare ?_).2⟩
    rw [shape]
    exact List.mem_cons_self
  · exact ⟨rfl, leased.fresh pool.created (Nat.le_refl _)⟩

/-- Nobody holds what is handed out. -/
theorem Leased.getOrCreate_unheld (leased : Leased pool holds object)
    {holder : Nat} (holding : holds holder) :
    object holder ≠ pool.getOrCreate.1 := by
  unfold getOrCreate
  split
  · rename_i spare cache shape
    intro same
    have unlisted := leased.uncached holder holding
    rw [same, shape] at unlisted
    exact unlisted List.mem_cons_self
  · exact Nat.ne_of_lt (leased.below holder holding)

/-- A new holder gets an object of its own. -/
theorem Leased.getOrCreate (leased : Leased pool holds object)
    (holder : Nat) :
    Leased pool.getOrCreate.2
      (fun other => other = holder ∨ holds other ∧ other ≠ holder)
      (Function.update object holder pool.getOrCreate.1) := by
  have others : ∀ {other}, other ≠ holder → Function.update object holder
      pool.getOrCreate.1 other = object other :=
    fun different => Function.update_of_ne different ..
  have own : Function.update object holder pool.getOrCreate.1 holder =
      pool.getOrCreate.1 := Function.update_self ..
  have grown : pool.created ≤ pool.getOrCreate.2.created ∧
      pool.getOrCreate.1 < pool.getOrCreate.2.created ∧
      pool.getOrCreate.1 ∉ pool.getOrCreate.2.cache ∧
      (∀ spare ∈ pool.getOrCreate.2.cache, spare ∈ pool.cache) ∧
      pool.getOrCreate.2.cache.Nodup := by
    have cached := leased.cached
    have nodup := leased.nodup
    unfold ObjectPool.getOrCreate
    split
    · rename_i spare cache shape
      rw [shape] at cached nodup
      obtain ⟨unlisted, rest⟩ := List.nodup_cons.mp nodup
      refine ⟨Nat.le_refl _, (cached spare List.mem_cons_self).1, unlisted,
        ?_, rest⟩
      intro other member
      rw [shape]
      exact List.mem_cons_of_mem _ member
    · refine ⟨Nat.le_succ _, Nat.lt_succ_self _, ?_, fun _ => id, nodup⟩
      intro member
      exact Nat.lt_irrefl _ (cached _ member).1
  obtain ⟨more, new, unlisted, fewer, rest⟩ := grown
  obtain ⟨flags, -⟩ := leased.getOrCreate_flag
  constructor
  case distinct =>
    rintro first second (rfl | ⟨one, different⟩) (rfl | ⟨two, apart⟩) shared
    · rfl
    · rw [own, others apart] at shared
      exact absurd shared.symm (leased.getOrCreate_unheld two)
    · rw [own, others different] at shared
      exact absurd shared (leased.getOrCreate_unheld one)
    · rw [others different, others apart] at shared
      exact leased.distinct first second one two shared
  case below =>
    rintro other (rfl | ⟨holding, different⟩)
    · rw [own]
      exact new
    · rw [others different]
      exact Nat.lt_of_lt_of_le (leased.below other holding) more
  case uncached =>
    rintro other (rfl | ⟨holding, different⟩)
    · rw [own]
      exact unlisted
    · rw [others different]
      intro member
      exact leased.uncached other holding (fewer _ member)
  case cached =>
    intro spare member
    rw [flags]
    obtain ⟨created, unset⟩ := leased.cached spare (fewer spare member)
    exact ⟨Nat.lt_of_lt_of_le created more, unset⟩
  case nodup => exact rest
  case fresh =>
    intro spare above
    rw [flags]
    exact leased.fresh spare (Nat.le_trans more above)

/-- The flag of an object that somebody holds is set. -/
theorem Leased.raise (leased : Leased pool holds object) {holder : Nat}
    (holding : holds holder) :
    Leased (pool.raise (object holder)) holds object := by
  constructor
  case distinct => exact leased.distinct
  case below => exact leased.below
  case uncached => exact leased.uncached
  case cached =>
    intro spare member
    obtain ⟨created, unset⟩ := leased.cached spare member
    refine ⟨created, ?_⟩
    have different : spare ≠ object holder := by
      rintro rfl
      exact leased.uncached holder holding member
    exact (Function.update_of_ne different ..).trans unset
  case nodup => exact leased.nodup
  case fresh =>
    intro spare above
    have different : spare ≠ object holder := by
      rintro rfl
      exact Nat.not_le_of_gt (leased.below holder holding) above
    exact (Function.update_of_ne different ..).trans
      (leased.fresh spare above)

/-- A holder puts its object back, and holds it no more. -/
theorem Leased.putBack (leased : Leased pool holds object) {holder : Nat}
    (holding : holds holder) (maxlen : Nat) :
    Leased (pool.putBack maxlen (object holder))
      (fun other => holds other ∧ other ≠ holder) object := by
  have listed : ∀ {spare},
      spare ∈ boundedAppend maxlen pool.cache (object holder) →
      spare ∈ pool.cache ∨ spare = object holder := by
    intro spare member
    rcases List.mem_append.mp (List.mem_of_mem_drop member) with old | new
    · exact Or.inl old
    · exact Or.inr (List.mem_singleton.mp new)
  constructor
  case distinct =>
    intro first second one two shared
    exact leased.distinct first second one.1 two.1 shared
  case below => exact fun other other_holds =>
    leased.below other other_holds.1
  case uncached =>
    intro other apart member
    rcases listed member with old | same
    · exact leased.uncached other apart.1 old
    · exact apart.2 (leased.distinct other holder apart.1 holding same)
  case cached =>
    intro spare member
    by_cases same : spare = object holder
    · subst same
      exact ⟨leased.below holder holding, Function.update_self ..⟩
    · obtain ⟨created, unset⟩ :=
        leased.cached spare ((listed member).resolve_right same)
      exact ⟨created, (Function.update_of_ne same ..).trans unset⟩
  case nodup =>
    refine List.Nodup.sublist (List.drop_sublist _ _) ?_
    rw [List.nodup_append_comm, List.singleton_append, List.nodup_cons]
    exact ⟨leased.uncached holder holding, leased.nodup⟩
  case fresh =>
    intro spare above
    by_cases same : spare = object holder
    · subst same
      exact Function.update_self ..
    · exact (Function.update_of_ne same ..).trans
        (leased.fresh spare above)

end ObjectPool
