import Mathlib.Data.List.Basic
import TinyChat.Snowflake.SharedArray

/-!
# What the workers of a platform read

The low half of the mask counts the workers that have not read the id yet, if
there are at most fifteen, if none reads before the second write, and if no
worker that has read is started again.
-/

namespace TinyChat

namespace Snowflake

/-- Whether a worker, or the one that replaces it, still has to read. -/
def WorkerState.pending : WorkerState → Bool
  | .waiting => true
  | .awake => true
  | .exited read => !read
  | _ => false

/-- The first byte of the array for the workers that still have to read. -/
def maskOf (count : Nat) : UInt8 :=
  if count = 0 then 0 else UInt8.ofNat (count ||| 0x10)

/-- The first write has been made. -/
def Phase.marked : Phase → Bool
  | .masked _ => true
  | .serving _ => true
  | _ => false

theorem maskOf_ne_zero : ∀ count : Fin 16, count ≠ 0 →
    maskOf count ≠ 0 := by
  decide

theorem maskOf_bits : ∀ count : Fin 16, count ≠ 0 →
    ((maskOf count &&& 0xF0) >>> 4).toNat = 1 ∧
      (1 < maskOf count &&& 0x0F ↔ 1 < count.val) ∧
      (1 < count.val → maskOf count - 1 = maskOf (count.val - 1)) := by
  decide

theorem takeInstanceId_maskOf {sharedArray : SharedArray} {count : Nat}
    (positive : count ≠ 0) (bound : count ≤ 15)
    (marked : sharedArray 0 = maskOf count) :
    ∃ next, takeInstanceId sharedArray = some (sharedArray 1, next) ∧
      next 0 = maskOf (count - 1) ∧
        (count ≠ 1 → next 1 = sharedArray 1) := by
  obtain ⟨index, low, counted⟩ := maskOf_bits ⟨count, Nat.lt_succ_of_le bound⟩
    (fun equal => positive (congrArg Fin.val equal))
  dsimp only at index low counted
  rw [← marked] at index low counted
  unfold takeInstanceId
  dsimp only
  have inside : ((sharedArray 0 &&& 0xF0) >>> 4).toNat < 8 := by
    rw [index]
    decide
  have place : (⟨((sharedArray 0 &&& 0xF0) >>> 4).toNat, inside⟩ : Fin 8) =
      1 := Fin.ext index
  rw [dif_pos inside, place]
  by_cases several : 1 < count
  · rw [if_pos (low.mpr several)]
    refine ⟨_, rfl, ?_, ?_⟩
    · rw [Function.update_self]
      exact counted several
    · intro _
      apply Function.update_of_ne
      decide
  · rw [if_neg (fun above => several (low.mp above))]
    have last : count = 1 := by omega
    refine ⟨_, rfl, ?_, ?_⟩
    · rw [Function.update_of_ne (by decide), Function.update_self, last]
      rfl
    · intro more
      exact absurd last more

namespace Platform

/-- The workers that still have to read. -/
def pending (platform : Platform) : Nat :=
  platform.workers.countP WorkerState.pending

/-- The small steps that keep the mask a count: the id fits into a byte, no
worker reads between the two writes, and no worker that has read is started
again. -/
def allows (platform : Platform) : Move → Bool
  | .publish =>
      match platform.phase with
      | .masked startId => startId ≤ 255
      | _ => true
  | .obtain _ => !platform.halfway
  | .respawn index => platform.workers[index]? ≠ some (.exited true)
  | _ => true

structure Sound (platform : Platform) : Prop where
  size : platform.workers.length = platform.numWorkers
  bound : platform.numWorkers ≤ 15
  positive : 0 < platform.numWorkers
  one : platform.single = true → platform.numWorkers = 1
  sane : ∀ worker ∈ platform.workers, worker ≠ .raised
  unread : (∀ startId, platform.phase ≠ .serving startId) →
    ∀ worker ∈ platform.workers, worker.pending = true
  asleep : platform.phase.marked = false →
    ∀ worker ∈ platform.workers, worker ≠ .awake
  blank : platform.phase.marked = false → platform.sharedArray 0 = 0
  mark : platform.phase.marked = true →
    platform.sharedArray 0 = maskOf platform.pending
  small : ∀ startId, platform.phase = .serving startId → startId ≤ 255
  stored : ∀ startId, platform.phase = .serving startId →
    platform.pending ≠ 0 → platform.sharedArray 1 = UInt8.ofNat startId
  right : ∀ (index : Nat) instanceId,
    platform.workers[index]? = some (.obtained instanceId) →
      ∃ startId, platform.phase.startId = some startId ∧
        instanceId = startId + platform.processSeq index - 1

section

variable {platform next : Platform} {index : Nat} {worker : WorkerState}

theorem pending_le (platform : Platform) :
    platform.pending ≤ platform.workers.length :=
  List.countP_le_length

theorem Sound.pending_le (sound : platform.Sound) :
    platform.pending ≤ 15 := by
  have counted := platform.pending_le
  rw [sound.size] at counted
  exact Nat.le_trans counted sound.bound

/-- All workers have to read as long as none could. -/
theorem Sound.pending_all (sound : platform.Sound)
    (before : ∀ startId, platform.phase ≠ .serving startId) :
    platform.pending = platform.numWorkers := by
  rw [← sound.size]
  exact List.countP_eq_length.mpr (sound.unread before)

theorem pending_setWorker (found : platform.workers[index]? = some worker)
    (other : WorkerState) :
    (platform.setWorker index other).pending +
        (if worker.pending then 1 else 0) =
      platform.pending + if other.pending then 1 else 0 := by
  obtain ⟨inside, here⟩ := List.getElem?_eq_some_iff.mp found
  have counted : (if worker.pending then 1 else 0) ≤ platform.pending := by
    split
    · rename_i waits
      have member : worker ∈ platform.workers := here ▸ List.getElem_mem inside
      exact List.countP_pos_iff.mpr ⟨worker, member, waits⟩
    · exact Nat.zero_le _
  unfold pending setWorker at *
  dsimp only
  rw [List.countP_set inside, here]
  omega

theorem pending_setWorker_same
    (found : platform.workers[index]? = some worker) {other : WorkerState}
    (same : other.pending = worker.pending) :
    (platform.setWorker index other).pending = platform.pending := by
  have counted := pending_setWorker found other
  rw [same] at counted
  exact Nat.add_right_cancel counted

theorem spawn_sound {numWorkers : Nat} {single : Bool}
    (bound : numWorkers ≤ 15) (positive : 0 < numWorkers)
    (one : single = true → numWorkers = 1) :
    (spawn numWorkers single).Sound := by
  constructor
  case size => exact List.length_replicate
  case bound => exact bound
  case positive => exact positive
  case one => exact one
  case sane =>
    intro worker member
    rw [List.eq_of_mem_replicate member]
    exact nofun
  case unread =>
    intro _ worker member
    rw [List.eq_of_mem_replicate member]
    rfl
  case asleep =>
    intro _ worker member
    rw [List.eq_of_mem_replicate member]
    exact nofun
  case blank =>
    intro _
    unfold spawn
    cases single with
    | true => rfl
    | false => rfl
  case mark => exact nofun
  case small => exact nofun
  case stored => exact nofun
  case right =>
    intro index instanceId found
    have member := List.mem_of_getElem? found
    cases List.eq_of_mem_replicate member

/-- A worker changes its state, and still has to read or not as before. -/
theorem Sound.setWorker (sound : platform.Sound)
    (found : platform.workers[index]? = some worker) {other : WorkerState}
    (same : other.pending = worker.pending) (sane : other ≠ .raised)
    (asleep : platform.phase.marked = false → other ≠ .awake)
    (without : ∀ instanceId, other ≠ .obtained instanceId) :
    (platform.setWorker index other).Sound := by
  have counted := pending_setWorker_same found same
  have here := List.mem_of_getElem? found
  constructor
  case size => exact List.length_set.trans sound.size
  case bound => exact sound.bound
  case positive => exact sound.positive
  case one => exact sound.one
  case sane =>
    intro current member
    rcases List.mem_or_eq_of_mem_set member with before | new
    · exact sound.sane current before
    · rw [new]
      exact sane
  case unread =>
    intro before current member
    rcases List.mem_or_eq_of_mem_set member with earlier | new
    · exact sound.unread before current earlier
    · rw [new, same]
      exact sound.unread before worker here
  case asleep =>
    intro unmarked current member
    rcases List.mem_or_eq_of_mem_set member with before | new
    · exact sound.asleep unmarked current before
    · rw [new]
      exact asleep unmarked
  case blank => exact sound.blank
  case mark =>
    intro marked
    rw [counted]
    exact sound.mark marked
  case small => exact sound.small
  case stored =>
    intro startId serving several
    rw [counted] at several
    exact sound.stored startId serving several
  case right =>
    intro place instanceId obtained
    unfold Platform.setWorker at obtained
    dsimp only at obtained
    rw [List.getElem?_set] at obtained
    split at obtained
    · split at obtained
      · rw [Option.some.injEq] at obtained
        exact absurd obtained (without instanceId)
      · cases obtained
    · exact sound.right place instanceId obtained

/-- The master goes on before its first write. -/
theorem Sound.prepare (sound : platform.Sound)
    (unmarked : platform.phase.marked = false) {phase : Phase}
    (still : phase.marked = false) :
    ({ platform with phase } : Platform).Sound := by
  have before : ∀ startId, platform.phase ≠ .serving startId := by
    intro startId serving
    rw [serving] at unmarked
    cases unmarked
  have unread := sound.unread before
  have none_serves : ∀ startId, phase ≠ .serving startId := by
    intro startId serving
    rw [serving] at still
    cases still
  constructor
  case size => exact sound.size
  case bound => exact sound.bound
  case positive => exact sound.positive
  case one => exact sound.one
  case sane => exact sound.sane
  case unread =>
    intro _
    exact unread
  case asleep =>
    intro _
    exact sound.asleep unmarked
  case blank =>
    intro _
    exact sound.blank unmarked
  case mark =>
    intro marked
    dsimp only at marked
    rw [still] at marked
    cases marked
  case small =>
    intro startId serving
    exact absurd serving (none_serves startId)
  case stored =>
    intro startId serving
    exact absurd serving (none_serves startId)
  case right =>
    intro place instanceId obtained
    have waits := unread _ (List.mem_of_getElem? obtained)
    cases waits

theorem Sound.look (sound : platform.Sound)
    (moved : platform.look index = some next) : next.Sound := by
  unfold Platform.look at moved
  split at moved
  · rename_i found
    split at moved
    · rename_i ready
      cases moved
      refine sound.setWorker found rfl nofun ?_ nofun
      intro unmarked
      exact absurd (sound.blank unmarked) ready.1
    · cases moved
  · cases moved

theorem Sound.exit (sound : platform.Sound)
    (moved : platform.exit index = some next) : next.Sound := by
  unfold Platform.exit at moved
  split at moved
  · cases moved
  · split at moved
    · rename_i found
      cases moved
      exact sound.setWorker found rfl nofun (fun _ => nofun) nofun
    · rename_i found
      cases moved
      exact sound.setWorker found rfl nofun (fun _ => nofun) nofun
    · rename_i found
      exact absurd rfl (sound.sane _ (List.mem_of_getElem? found))
    · rename_i found
      cases moved
      exact sound.setWorker found rfl nofun (fun _ => nofun) nofun
    · cases moved

theorem Sound.respawn (sound : platform.Sound)
    (allowed : platform.allows (.respawn index) = true)
    (moved : platform.respawn index = some next) : next.Sound := by
  unfold Platform.respawn at moved
  split at moved
  · rename_i read found
    cases moved
    have unread : read = false := by
      rw [allows, found, decide_eq_true_eq] at allowed
      cases read with
      | false => rfl
      | true => exact absurd rfl allowed
    rw [unread] at found
    exact sound.setWorker found rfl nofun (fun _ => nofun) nofun
  · cases moved

theorem Sound.mask (sound : platform.Sound)
    (moved : platform.mask = some next) : next.Sound := by
  unfold Platform.mask at moved
  split at moved
  · rename_i startId flicked
    cases moved
    have before : ∀ startId, platform.phase ≠ .serving startId := by
      intro other serving
      rw [flicked] at serving
      cases serving
    have unread := sound.unread before
    constructor
    case size => exact sound.size
    case bound => exact sound.bound
    case positive => exact sound.positive
    case one => exact sound.one
    case sane => exact sound.sane
    case unread =>
      intro _
      exact unread
    case asleep => exact nofun
    case blank => exact nofun
    case mark =>
      intro _
      have counted := sound.pending_all before
      unfold pending at counted ⊢
      dsimp only
      rw [Function.update_self, counted, maskOf,
        if_neg (Nat.ne_of_gt sound.positive)]
    case small => exact nofun
    case stored => exact nofun
    case right =>
      intro place instanceId obtained
      have waits := unread _ (List.mem_of_getElem? obtained)
      cases waits
  · cases moved

theorem Sound.publish (sound : platform.Sound)
    (allowed : platform.allows .publish = true)
    (moved : platform.publish = some next) : next.Sound := by
  unfold Platform.publish at moved
  split at moved
  · rename_i startId masked
    cases moved
    have before : ∀ startId, platform.phase ≠ .serving startId := by
      intro other serving
      rw [masked] at serving
      cases serving
    have unread := sound.unread before
    constructor
    case size => exact sound.size
    case bound => exact sound.bound
    case positive => exact sound.positive
    case one => exact sound.one
    case sane => exact sound.sane
    case unread =>
      intro _
      exact unread
    case asleep => exact nofun
    case blank => exact nofun
    case mark =>
      intro _
      have marked := sound.mark (by rw [masked]; rfl)
      dsimp only
      rw [Function.update_of_ne (by decide)]
      exact marked
    case small =>
      intro other serving
      cases serving
      rw [allows, masked, decide_eq_true_eq] at allowed
      exact allowed
    case stored =>
      intro other serving _
      cases serving
      dsimp only
      rw [Function.update_self]
    case right =>
      intro place instanceId obtained
      have waits := unread _ (List.mem_of_getElem? obtained)
      cases waits
  · cases moved

theorem Sound.obtain (sound : platform.Sound)
    (allowed : platform.allows (.obtain index) = true)
    (moved : platform.obtain index = some next) : next.Sound := by
  unfold Platform.obtain at moved
  split at moved
  · rename_i found
    have here := List.mem_of_getElem? found
    have marked : platform.phase.marked = true := by
      by_contra unmarked
      rw [Bool.not_eq_true] at unmarked
      exact sound.asleep unmarked _ here rfl
    have serves : ∃ startId, platform.phase = .serving startId := by
      rw [allows, halfway] at allowed
      cases phase : platform.phase with
      | serving startId => exact ⟨startId, rfl⟩
      | masked startId =>
          rw [phase] at allowed
          cases allowed
      | _ =>
          rw [phase] at marked
          cases marked
    obtain ⟨startId, serving⟩ := serves
    have several : platform.pending ≠ 0 := by
      apply Nat.ne_of_gt
      exact List.countP_pos_iff.mpr ⟨_, here, rfl⟩
    obtain ⟨after, taken, first, second⟩ := takeInstanceId_maskOf several
      sound.pending_le (sound.mark marked)
    have small := sound.small startId serving
    have stored := sound.stored startId serving several
    rw [taken] at moved
    dsimp only at moved
    cases moved
    have counted := pending_setWorker found (.obtained
      ((platform.sharedArray 1).toNat + platform.processSeq index - 1))
    have fewer : (platform.setWorker index (.obtained
        ((platform.sharedArray 1).toNat + platform.processSeq index -
          1))).pending = platform.pending - 1 := by
      simp only [WorkerState.pending, if_true, Bool.false_eq_true,
        if_false] at counted
      omega
    constructor
    case size => exact List.length_set.trans sound.size
    case bound => exact sound.bound
    case positive => exact sound.positive
    case one => exact sound.one
    case sane =>
      intro current member
      rcases List.mem_or_eq_of_mem_set member with before | new
      · exact sound.sane current before
      · rw [new]
        exact nofun
    case unread =>
      intro before
      exact absurd serving (before startId)
    case asleep =>
      intro unmarked
      exact absurd marked (Bool.not_eq_true _ ▸ unmarked)
    case blank =>
      intro unmarked
      exact absurd marked (Bool.not_eq_true _ ▸ unmarked)
    case mark =>
      intro _
      exact first.trans (congrArg maskOf fewer.symm)
    case small => exact sound.small
    case stored =>
      intro other again more
      have left : platform.pending - 1 ≠ 0 := by
        intro none_left
        exact more (fewer.trans none_left)
      have last : platform.pending ≠ 1 := by omega
      exact (second last).trans (sound.stored other again several)
    case right =>
      intro place instanceId obtained
      have entry := obtained
      unfold Platform.setWorker at entry
      dsimp only at entry
      rw [List.getElem?_set] at entry
      split at entry
      · rename_i same
        split at entry
        · rw [Option.some.injEq, WorkerState.obtained.injEq] at entry
          refine ⟨startId, by rw [Platform.setWorker, serving]; rfl, ?_⟩
          rw [← entry, ← same, stored, UInt8.toNat_ofNat',
            Nat.mod_eq_of_lt (by omega)]
          rfl
        · cases entry
      · exact sound.right place instanceId entry
  · cases moved

theorem Sound.move (sound : platform.Sound) {move : Move}
    (allowed : platform.allows move = true)
    (moved : platform.move move = some next) : next.Sound := by
  cases move with
  | mask => exact sound.mask moved
  | publish => exact sound.publish allowed moved
  | look index => exact sound.look moved
  | obtain index => exact sound.obtain allowed moved
  | exit index => exact sound.exit moved
  | respawn index => exact sound.respawn allowed moved

/-- What the steps of a platform leave as it is, and how its master goes
on. -/
theorem move_phase {move : Move} (moved : platform.move move = some next) :
    next.numWorkers = platform.numWorkers ∧ next.single = platform.single ∧
      (next.phase = platform.phase ∨
        (∃ startId, platform.phase = .flicked startId ∧
          next.phase = .masked startId) ∨
        (move = .publish ∧ ∃ startId, platform.phase = .masked startId ∧
          next.phase = .serving startId)) := by
  cases move with
  | mask =>
      simp only [Platform.move, Platform.mask] at moved
      split at moved
      · rename_i startId flicked
        cases moved
        exact ⟨rfl, rfl, .inr (.inl ⟨startId, flicked, rfl⟩)⟩
      · cases moved
  | publish =>
      simp only [Platform.move, Platform.publish] at moved
      split at moved
      · rename_i startId masked
        cases moved
        exact ⟨rfl, rfl, .inr (.inr ⟨rfl, startId, masked, rfl⟩)⟩
      · cases moved
  | look index =>
      simp only [Platform.move, Platform.look] at moved
      split at moved
      · split at moved
        · cases moved
          exact ⟨rfl, rfl, .inl rfl⟩
        · cases moved
      · cases moved
  | obtain index =>
      simp only [Platform.move, Platform.obtain] at moved
      split at moved
      · split at moved
        · cases moved
          exact ⟨rfl, rfl, .inl rfl⟩
        · cases moved
          exact ⟨rfl, rfl, .inl rfl⟩
      · cases moved
  | exit index =>
      simp only [Platform.move, Platform.exit] at moved
      split at moved
      · cases moved
      · split at moved
        · cases moved
          exact ⟨rfl, rfl, .inl rfl⟩
        · cases moved
          exact ⟨rfl, rfl, .inl rfl⟩
        · cases moved
          exact ⟨rfl, rfl, .inl rfl⟩
        · cases moved
          exact ⟨rfl, rfl, .inl rfl⟩
        · cases moved
  | respawn index =>
      simp only [Platform.move, Platform.respawn] at moved
      split at moved
      · cases moved
        exact ⟨rfl, rfl, .inl rfl⟩
      · cases moved

theorem Sound.serving_of_obtained (sound : platform.Sound)
    {instanceId : Int}
    (found : platform.workers[index]? = some (.obtained instanceId)) :
    ∃ startId, platform.phase = .serving startId := by
  by_contra none_serves
  rw [not_exists] at none_serves
  have waits := sound.unread none_serves _ (List.mem_of_getElem? found)
  cases waits

theorem Sound.served (sound : platform.Sound) {startId : Nat}
    (serving : platform.phase = .serving startId)
    (found : platform.workers[index]? = some worker) :
    worker ≠ .raised ∧ (worker = .waiting ∨ worker = .awake →
      platform.sharedArray 0 ≠ 0) := by
  have here := List.mem_of_getElem? found
  refine ⟨sound.sane worker here, ?_⟩
  intro waits
  have pending : worker.pending = true := by
    rcases waits with waiting | awake
    · rw [waiting]
      rfl
    · rw [awake]
      rfl
  have several : platform.pending ≠ 0 := by
    apply Nat.ne_of_gt
    exact List.countP_pos_iff.mpr ⟨worker, here, pending⟩
  rw [sound.mark (by rw [serving]; rfl)]
  apply maskOf_ne_zero ⟨platform.pending, Nat.lt_succ_of_le sound.pending_le⟩
  intro equal
  exact several (congrArg Fin.val equal)

end

end Platform

end Snowflake

end TinyChat
