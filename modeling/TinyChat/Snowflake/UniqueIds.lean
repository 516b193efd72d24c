import TinyChat.Snowflake.Allocation
import TinyChat.Snowflake.WorkerIds

/-!
# The instance ids of all workers

The ranges of the platforms are disjoint, and each worker should take the id
at its place in the range of its platform.  The byte array does not hold all
first ids and all numbers of workers, it is written in two steps, and a worker
of the single mode takes the id before the range.
-/

namespace TinyChat

namespace Snowflake

namespace Phase

/-- The range of the platform is not in etcd yet. -/
def unstored : Phase → Bool
  | .locking => true
  | .counting => true
  | .storing _ => true
  | _ => false

end Phase

namespace Platform

/-- The worker of a single platform would take the last id of a platform with
worker processes. -/
def Follows (current : Platform) (startId : Nat) (other : Platform)
    (otherId : Nat) : Prop :=
  current.single = true ∧ other.single = false ∧
    startId = otherId + other.numWorkers

instance decidableFollows (current : Platform) (startId : Nat)
    (other : Platform) (otherId : Nat) :
    Decidable (current.Follows startId other otherId) :=
  inferInstanceAs (Decidable (_ ∧ _ ∧ _))

/-- A platform that comes to serve, beside another one. -/
def besides (current other : Platform) : Bool :=
  match current.phase, other.phase with
  | .masked startId, .serving otherId =>
      ¬current.Follows startId other otherId ∧
        ¬other.Follows otherId current startId
  | _, _ => true

/-- The range of a platform, given what etcd holds for it. -/
def claim (platform : Platform) (stored : Option (Nat × Nat)) :
    Option (Nat × Nat) :=
  match platform.phase with
  | .storing startId => some (startId, platform.numWorkers)
  | _ => stored

end Platform

namespace System

variable {π : Type} [DecidableEq π]

/-- There are at most fifteen workers, the first id fits into a byte, no
worker reads between the two writes or is started again after it has read, and
a single platform does not come right after one with worker processes. -/
def allowed (system : System π) : Action π → Bool
  | .start _ numWorkers _ => numWorkers ≤ 15
  | .move platform move =>
      (system.platforms.lookup platform).all (fun current =>
        current.allows move && (move ≠ .publish ||
          system.platforms.all (fun entry =>
            entry.1 = platform || current.besides entry.2)))
  | _ => true

/-- The range of a platform. -/
def claimed (system : System π) (platform : π) : Option (Nat × Nat) :=
  match system.platforms.lookup platform with
  | some current => current.claim (system.etcd.lookup platform)
  | none => system.etcd.lookup platform

structure Allocated (system : System π) : Prop where
  sound : ∀ platform current,
    system.platforms.lookup platform = some current → current.Sound
  bounded : ∀ platform startId length,
    system.claimed platform = some (startId, length) →
      0 < startId ∧ startId + length ≤ system.counter + 1
  apart : ∀ platform other startId length otherId otherLength,
    platform ≠ other →
    system.claimed platform = some (startId, length) →
    system.claimed other = some (otherId, otherLength) →
      startId + length ≤ otherId ∨ otherId + otherLength ≤ startId
  fresh : ∀ platform current,
    system.platforms.lookup platform = some current →
    current.phase.unstored = true → system.etcd.lookup platform = none
  owned : ∀ platform current startId,
    system.platforms.lookup platform = some current →
    current.phase.startId = some startId →
      ∃ length, system.etcd.lookup platform = some (startId, length) ∧
        current.numWorkers ≤ length
  modes : ∀ first second current other startId otherId,
    system.platforms.lookup first = some current →
    system.platforms.lookup second = some other →
    current.phase = .serving startId → other.phase = .serving otherId →
      ¬current.Follows startId other otherId

section

variable {system next : System π} {platform : π} {current after : Platform}
  {action : Action π} {events : List Empty}

theorem claim_of_unstored (stored : Option (Nat × Nat))
    (phase : ∀ startId, current.phase ≠ .storing startId) :
    current.claim stored = stored := by
  unfold Platform.claim
  split
  · rename_i startId storing
    exact absurd storing (phase startId)
  · rfl

theorem claimed_of_lookup
    (found : system.platforms.lookup platform = some current) :
    system.claimed platform =
      current.claim (system.etcd.lookup platform) := by
  rw [claimed, found]

theorem allocated_start : Allocated ({} : System π) := by
  constructor
  case sound => exact nofun
  case bounded =>
    intro platform startId length claimed
    cases claimed
  case apart =>
    intro platform other startId length otherId otherLength _ claimed
    cases claimed
  case fresh => exact nofun
  case owned => exact nofun
  case modes => exact nofun

/-- One platform changes, and what etcd holds for it; its range lies beside
the other ones. -/
theorem Allocated.change (allocated : Allocated system)
    (platforms : ∀ other, next.platforms.lookup other =
      if other = platform then some after
      else system.platforms.lookup other)
    (etcd : ∀ other, other ≠ platform →
      next.etcd.lookup other = system.etcd.lookup other)
    (counter : system.counter ≤ next.counter)
    (sound : after.Sound)
    (bounded : ∀ startId length,
      after.claim (next.etcd.lookup platform) = some (startId, length) →
        0 < startId ∧ startId + length ≤ next.counter + 1)
    (apart : ∀ other startId length otherId otherLength, other ≠ platform →
      after.claim (next.etcd.lookup platform) = some (startId, length) →
      system.claimed other = some (otherId, otherLength) →
        startId + length ≤ otherId ∨ otherId + otherLength ≤ startId)
    (fresh : after.phase.unstored = true →
      next.etcd.lookup platform = none)
    (owned : ∀ startId, after.phase.startId = some startId →
      ∃ length, next.etcd.lookup platform = some (startId, length) ∧
        after.numWorkers ≤ length)
    (modes : ∀ startId, after.phase = .serving startId →
      ∀ second other otherId, second ≠ platform →
        system.platforms.lookup second = some other →
        other.phase = .serving otherId →
          ¬after.Follows startId other otherId ∧
            ¬other.Follows otherId after startId) :
    Allocated next := by
  have here : next.claimed platform =
      after.claim (next.etcd.lookup platform) := by
    rw [claimed, platforms, if_pos rfl]
  have elsewhere : ∀ other, other ≠ platform →
      next.claimed other = system.claimed other := by
    intro other different
    rw [claimed, claimed, platforms, if_neg different, etcd other different]
  constructor
  case sound =>
    intro other current found
    rw [platforms] at found
    split at found
    · cases found
      exact sound
    · exact allocated.sound other current found
  case bounded =>
    intro other startId length claims
    by_cases same : other = platform
    · rw [same, here] at claims
      exact bounded startId length claims
    · rw [elsewhere other same] at claims
      obtain ⟨positive, below⟩ :=
        allocated.bounded other startId length claims
      exact ⟨positive, Nat.le_trans below (Nat.succ_le_succ counter)⟩
  case apart =>
    intro first second startId length otherId otherLength different claims
      also
    by_cases same : first = platform
    · have other : second ≠ platform := by
        intro equal
        exact different (same.trans equal.symm)
      rw [same, here] at claims
      rw [elsewhere second other] at also
      exact apart second startId length otherId otherLength other claims also
    · rw [elsewhere first same] at claims
      by_cases equal : second = platform
      · rw [equal, here] at also
        exact (apart first otherId otherLength startId length same also
          claims).symm
      · rw [elsewhere second equal] at also
        exact allocated.apart first second startId length otherId otherLength
          different claims also
  case fresh =>
    intro other current found unstored
    rw [platforms] at found
    split at found
    · rename_i same
      cases found
      rw [same]
      exact fresh unstored
    · rename_i different
      rw [etcd other different]
      exact allocated.fresh other current found unstored
  case owned =>
    intro other current startId found starts
    rw [platforms] at found
    split at found
    · rename_i same
      cases found
      rw [same]
      exact owned startId starts
    · rename_i different
      rw [etcd other different]
      exact allocated.owned other current startId found starts
  case modes =>
    intro first second current other startId otherId found also serving
      serves
    rw [platforms] at found also
    split at found
    · cases found
      split at also
      · cases also
        intro follows
        have single := follows.1
        rw [follows.2.1] at single
        cases single
      · rename_i different
        exact (modes startId serving second other otherId different also
          serves).1
    · rename_i different
      split at also
      · cases also
        exact (modes otherId serves first current startId different found
          serving).2
      · exact allocated.modes first second current other startId otherId
          found also serving serves

/-- A master goes on before its first write, with the same range. -/
theorem Allocated.proceed (allocated : Allocated system)
    (found : system.platforms.lookup platform = some current)
    {phase : Phase} (lock : Option π)
    (unmarked : current.phase.marked = false) (still : phase.marked = false)
    (storing : ∀ startId, current.phase ≠ .storing startId)
    (stores : ∀ startId, phase ≠ .storing startId)
    (fresh : phase.unstored = true → system.etcd.lookup platform = none)
    (owned : ∀ startId, phase.startId = some startId →
      ∃ length, system.etcd.lookup platform = some (startId, length) ∧
        current.numWorkers ≤ length) :
    Allocated { system.setPhase platform current phase with lock } := by
  have before := claimed_of_lookup found
  rw [claim_of_unstored _ storing] at before
  have after : ({ current with phase } : Platform).claim
      (system.etcd.lookup platform) = system.claimed platform := by
    rw [claim_of_unstored _ stores, before]
  refine allocated.change
    (fun other => Table.lookup_assign system.platforms platform other
      { current with phase })
    (fun _ _ => rfl) (Nat.le_refl _)
    ((allocated.sound platform current found).prepare unmarked still)
    ?_ ?_ fresh owned ?_
  · intro startId length claims
    exact allocated.bounded platform startId length
      (after.symm.trans claims)
  · intro other startId length otherId otherLength different claims also
    exact allocated.apart platform other startId length otherId otherLength
      different.symm (after.symm.trans claims) also
  · intro startId serving
    dsimp only at serving
    rw [serving] at still
    cases still

theorem Allocated.move (allocated : Allocated system)
    (found : system.platforms.lookup platform = some current) {move : Move}
    (allows : current.allows move = true)
    (besides : move = .publish → ∀ entry ∈ system.platforms,
      entry.1 ≠ platform → current.besides entry.2 = true)
    (moved : current.move move = some after) :
    Allocated (system.setPlatform platform after) := by
  have sound := (allocated.sound platform current found).move allows moved
  obtain ⟨workers, single, phase⟩ := Platform.move_phase moved
  have startId : after.phase.startId = current.phase.startId := by
    rcases phase with same | ⟨first, before, later⟩ |
      ⟨_, first, before, later⟩
    · rw [same]
    · rw [before, later]
      rfl
    · rw [before, later]
      rfl
  have unstored : after.phase.unstored = current.phase.unstored := by
    rcases phase with same | ⟨first, before, later⟩ |
      ⟨_, first, before, later⟩
    · rw [same]
    · rw [before, later]
      rfl
    · rw [before, later]
      rfl
  have claim : ∀ stored, after.claim stored = current.claim stored := by
    intro stored
    unfold Platform.claim
    rcases phase with same | ⟨first, before, later⟩ |
      ⟨_, first, before, later⟩
    · rw [same, workers]
    · rw [before, later]
    · rw [before, later]
  have follows : ∀ first other second,
      (after.Follows first other second ↔
          current.Follows first other second) ∧
        (other.Follows second after first ↔
          other.Follows second current first) := by
    intro first other second
    unfold Platform.Follows
    rw [single, workers]
    exact ⟨Iff.rfl, Iff.rfl⟩
  have here := claimed_of_lookup found
  refine allocated.change
    (fun other => Table.lookup_assign system.platforms platform other after)
    (fun _ _ => rfl) (Nat.le_refl _) sound ?_ ?_ ?_ ?_ ?_
  · intro first length claims
    exact allocated.bounded platform first length
      ((here.trans (claim _).symm).trans claims)
  · intro other first length second otherLength different claims also
    exact allocated.apart platform other first length second otherLength
      different.symm ((here.trans (claim _).symm).trans claims) also
  · intro pending
    rw [unstored] at pending
    exact allocated.fresh platform current found pending
  · intro first starts
    rw [startId] at starts
    rw [workers]
    exact allocated.owned platform current first found starts
  · intro first serving second other otherId different also serves
    obtain ⟨forward, backward⟩ := follows first other otherId
    rw [forward, backward]
    rcases phase with same | ⟨start, before, later⟩ |
      ⟨publishes, start, before, later⟩
    · rw [same] at serving
      exact ⟨allocated.modes platform second current other first otherId
          found also serving serves,
        allocated.modes second platform other current otherId first also
          found serves serving⟩
    · rw [later] at serving
      cases serving
    · rw [later] at serving
      cases serving
      have beside := besides publishes (second, other)
        (Table.mem_of_lookup also) different
      rw [Platform.besides, before, serves] at beside
      exact of_decide_eq_true beside

section

variable {stored : Option (Nat × Nat)}

theorem getPhase_unmarked : (getPhase current stored).marked = false := by
  unfold getPhase
  split
  · rfl
  · split
    · rfl
    · rfl

theorem getPhase_not_storing (startId : Nat) :
    getPhase current stored ≠ .storing startId := by
  unfold getPhase
  split
  · exact nofun
  · split
    · exact nofun
    · exact nofun

theorem getPhase_unstored :
    (getPhase current stored).unstored = true ↔ stored = none := by
  unfold getPhase
  split
  · exact iff_of_true rfl rfl
  · split
    · exact iff_of_false nofun nofun
    · exact iff_of_false nofun nofun

theorem getPhase_startId {startId : Nat}
    (starts : (getPhase current stored).startId = some startId) :
    ∃ length, stored = some (startId, length) ∧
      current.numWorkers ≤ length := by
  unfold getPhase at starts
  split at starts
  · cases starts
  · rename_i first length
    split at starts
    · cases starts
    · rename_i enough
      cases starts
      exact ⟨length, rfl, Nat.le_of_not_lt enough⟩

end

theorem Allocated.start (allocated : Allocated system)
    (absent : system.platforms.lookup platform = none) {numWorkers : Nat}
    {single : Bool} (sound : (Platform.spawn numWorkers single).Sound) :
    Allocated (system.setPlatform platform
      (.spawn numWorkers single)) := by
  have here : system.claimed platform = system.etcd.lookup platform := by
    rw [claimed, absent]
  refine allocated.change
    (fun other => Table.lookup_assign system.platforms platform other
      (.spawn numWorkers single))
    (fun _ _ => rfl) (Nat.le_refl _) sound ?_ ?_ nofun nofun nofun
  · intro startId length claims
    exact allocated.bounded platform startId length (here.trans claims)
  · intro other startId length otherId otherLength different claims also
    exact allocated.apart platform other startId length otherId otherLength
      different.symm (here.trans claims) also

theorem Allocated.lost (allocated : Allocated system) (amount : Nat) :
    Allocated { system with counter := system.counter + amount } := by
  refine { allocated with bounded := ?_ }
  intro platform startId length claims
  obtain ⟨positive, below⟩ :=
    allocated.bounded platform startId length claims
  refine ⟨positive, ?_⟩
  dsimp only
  omega

theorem Allocated.incr (allocated : Allocated system)
    (found : system.platforms.lookup platform = some current)
    (counting : current.phase = .counting) {startId : Nat}
    (next : startId = system.counter + 1) :
    Allocated { system.setPhase platform current (.storing startId) with
      counter := system.counter + current.numWorkers } := by
  have unmarked : current.phase.marked = false := by
    rw [counting]
    rfl
  have fresh := allocated.fresh platform current found (by
    rw [counting]
    rfl)
  refine allocated.change
    (fun other => Table.lookup_assign system.platforms platform other
      { current with phase := .storing startId })
    (fun _ _ => rfl) (Nat.le_add_right _ _)
    ((allocated.sound platform current found).prepare unmarked rfl)
    ?_ ?_ (fun _ => fresh) nofun nofun
  · intro first length claims
    cases claims
    dsimp only
    omega
  · intro other first length otherId otherLength _ claims also
    cases claims
    obtain ⟨_, below⟩ := allocated.bounded other otherId otherLength also
    omega

theorem Allocated.put (allocated : Allocated system)
    (found : system.platforms.lookup platform = some current)
    {startId : Nat} (storing : current.phase = .storing startId)
    (lock : Option π) :
    Allocated { system.setPhase platform current (.flicked startId) with
      etcd := system.etcd.assign platform (startId, current.numWorkers)
      lock } := by
  have unmarked : current.phase.marked = false := by
    rw [storing]
    rfl
  have before : system.claimed platform =
      some (startId, current.numWorkers) := by
    rw [claimed_of_lookup found, Platform.claim, storing]
  have after : List.lookup platform
      (system.etcd.assign platform (startId, current.numWorkers)) =
        some (startId, current.numWorkers) := by
    rw [Table.lookup_assign, if_pos rfl]
  refine allocated.change
    (fun other => Table.lookup_assign system.platforms platform other
      { current with phase := .flicked startId })
    ?_ (Nat.le_refl _)
    ((allocated.sound platform current found).prepare unmarked rfl)
    ?_ ?_ nofun ?_ nofun
  · intro other different
    dsimp only
    rw [Table.lookup_assign, if_neg different]
  · intro first length claims
    exact allocated.bounded platform first length
      (before.trans (after.symm.trans claims))
  · intro other first length otherId otherLength different claims also
    exact allocated.apart platform other first length otherId otherLength
      different.symm (before.trans (after.symm.trans claims)) also
  · intro first starts
    cases starts
    exact ⟨current.numWorkers, after, Nat.le_refl _⟩

theorem Allocated.stop (allocated : Allocated system) (lock : Option π) :
    Allocated { system with
      platforms := system.platforms.pop platform
      lock } := by
  have kept : ∀ {other : π} {current : Platform},
      List.lookup other (system.platforms.pop platform) = some current →
        system.platforms.lookup other = some current := by
    intro other current found
    rw [Table.lookup_pop] at found
    split at found
    · cases found
    · exact found
  have claims : ∀ {other : π} {range : Nat × Nat},
      ({ system with
        platforms := system.platforms.pop platform
        lock } : System π).claimed other = some range →
        system.claimed other = some range := by
    intro other range claimed
    unfold System.claimed at claimed ⊢
    dsimp only at claimed
    rw [Table.lookup_pop] at claimed
    by_cases same : other = platform
    · rw [if_pos same] at claimed
      dsimp only at claimed
      cases found : system.platforms.lookup other with
      | none => exact claimed
      | some current =>
          dsimp only
          rw [claim_of_unstored]
          · exact claimed
          · intro startId storing
            have fresh := allocated.fresh other current found (by
              rw [storing]
              rfl)
            rw [fresh] at claimed
            cases claimed
    · rw [if_neg same] at claimed
      exact claimed
  constructor
  case sound =>
    intro other current found
    exact allocated.sound other current (kept found)
  case bounded =>
    intro other startId length claimed
    exact allocated.bounded other startId length (claims claimed)
  case apart =>
    intro first second startId length otherId otherLength different claimed
      also
    exact allocated.apart first second startId length otherId otherLength
      different (claims claimed) (claims also)
  case fresh =>
    intro other current found
    exact allocated.fresh other current (kept found)
  case owned =>
    intro other current startId found
    exact allocated.owned other current startId (kept found)
  case modes =>
    intro first second current other startId otherId found also
    exact allocated.modes first second current other startId otherId
      (kept found) (kept also)

theorem Allocated.unlock (allocated : Allocated system) (platform : π) :
    Allocated (system.unlock platform) := by
  unfold System.unlock
  split
  · exact { allocated with }
  · exact allocated

theorem Allocated.step (allocated : Allocated system)
    (allowed : system.allowed action = true)
    (stepped : step system action = some (next, events)) :
    Allocated next := by
  cases action with
  | start platform numWorkers single =>
      simp only [System.step] at stepped
      split at stepped
      · rename_i ready
        obtain ⟨absent, positive, one⟩ := ready
        cases stepped
        exact allocated.start (Option.isNone_iff_eq_none.mp absent)
          (Platform.spawn_sound (of_decide_eq_true allowed) positive one)
      · cases stepped
  | get platform =>
      simp only [System.step] at stepped
      split at stepped
      · cases stepped
      · rename_i current found
        split at stepped
        · rename_i getting
          cases stepped
          apply allocated.proceed found system.lock
          · rw [getting]
            rfl
          · exact getPhase_unmarked
          · rw [getting]
            exact nofun
          · exact getPhase_not_storing
          · exact getPhase_unstored.mp
          · intro startId starts
            exact getPhase_startId starts
        · cases stepped
  | acquire platform =>
      simp only [System.step] at stepped
      split at stepped
      · cases stepped
      · rename_i current found
        split at stepped
        · rename_i ready
          cases stepped
          apply allocated.proceed found (some platform)
          · rw [ready.1]
            rfl
          · rfl
          · rw [ready.1]
            exact nofun
          · exact nofun
          · intro _
            apply allocated.fresh platform current found
            rw [ready.1]
            rfl
          · exact nofun
        · cases stepped
  | incr platform =>
      simp only [System.step] at stepped
      split at stepped
      · cases stepped
      · rename_i current found
        split at stepped
        · rename_i counting
          cases stepped
          exact allocated.incr found counting (by omega)
        · cases stepped
  | lost platform =>
      simp only [System.step] at stepped
      split at stepped
      · cases stepped
      · rename_i current found
        split at stepped
        · cases stepped
          exact allocated.lost current.numWorkers
        · cases stepped
  | retry platform =>
      simp only [System.step] at stepped
      split at stepped
      · cases stepped
      · rename_i current found
        split at stepped
        · rename_i counting
          cases stepped
          apply Allocated.unlock
          apply allocated.proceed found system.lock
          · rw [counting]
            rfl
          · rfl
          · rw [counting]
            exact nofun
          · exact nofun
          · intro _
            apply allocated.fresh platform current found
            rw [counting]
            rfl
          · exact nofun
        · cases stepped
  | put platform =>
      simp only [System.step] at stepped
      split at stepped
      · cases stepped
      · rename_i current found
        split at stepped
        · rename_i startId storing
          cases stepped
          apply Allocated.unlock
          exact allocated.put found storing system.lock
        · cases stepped
  | move platform move =>
      simp only [System.step] at stepped
      split at stepped
      · cases stepped
      · rename_i current found
        split at stepped
        · cases stepped
        · rename_i after moved
          cases stepped
          rw [System.allowed, found, Option.all_some, Bool.and_eq_true,
            Bool.or_eq_true] at allowed
          obtain ⟨allows, besides⟩ := allowed
          refine allocated.move found allows ?_ moved
          intro publishes entry member different
          rcases besides with other | all
          · exact absurd publishes (of_decide_eq_true other)
          · have beside := List.all_eq_true.mp all entry member
            rw [Bool.or_eq_true] at beside
            rcases beside with same | apart
            · exact absurd (of_decide_eq_true same) different
            · exact apart
  | stop platform =>
      simp only [System.step] at stepped
      split at stepped
      · cases stepped
        apply Allocated.unlock
        exact allocated.stop system.lock
      · cases stepped

/-- The ids of a platform lie in its range, or right before it in the single
mode. -/
theorem Allocated.distinct (allocated : Allocated system)
    {first second : π} {current other : Platform}
    (found : system.platforms.lookup first = some current)
    (also : system.platforms.lookup second = some other)
    {index place : Nat} {instanceId : Int}
    (obtained : current.workers[index]? = some (.obtained instanceId))
    (again : other.workers[place]? = some (.obtained instanceId)) :
    first = second ∧ index = place := by
  have sound := allocated.sound first current found
  have sounds := allocated.sound second other also
  obtain ⟨startId, serving⟩ := sound.serving_of_obtained obtained
  obtain ⟨otherId, serves⟩ := sounds.serving_of_obtained again
  obtain ⟨begins, starts, value⟩ := sound.right index instanceId obtained
  obtain ⟨opens, others, equal⟩ := sounds.right place instanceId again
  rw [serving, Phase.startId, Option.some.injEq] at starts
  rw [serves, Phase.startId, Option.some.injEq] at others
  subst starts others
  have inside := (List.getElem?_eq_some_iff.mp obtained).1
  have within := (List.getElem?_eq_some_iff.mp again).1
  rw [sound.size] at inside
  rw [sounds.size] at within
  rw [equal] at value
  unfold Platform.processSeq at value
  by_cases same : first = second
  · subst same
    rw [found, Option.some.injEq] at also
    subst also
    rw [serving, Phase.serving.injEq] at serves
    subst serves
    refine ⟨rfl, ?_⟩
    split at value
    · rename_i single
      have one := sound.one single
      omega
    · omega
  · obtain ⟨length, stored, enough⟩ := allocated.owned first current startId
      found (by rw [serving]; rfl)
    obtain ⟨width, holds, fits⟩ := allocated.owned second other otherId also
      (by rw [serves]; rfl)
    have claims : system.claimed first = some (startId, length) := by
      rw [claimed_of_lookup found, claim_of_unstored, stored]
      rw [serving]
      exact nofun
    have claimed : system.claimed second = some (otherId, width) := by
      rw [claimed_of_lookup also, claim_of_unstored, holds]
      rw [serves]
      exact nofun
    have apart := allocated.apart first second startId length otherId width
      same claims claimed
    have forward := allocated.modes first second current other startId otherId
      found also serving serves
    have backward := allocated.modes second first other current otherId
      startId also found serves serving
    unfold Platform.Follows at forward backward
    cases mode : current.single with
    | true =>
        cases modes : other.single with
        | true =>
            rw [mode, modes] at value
            have one := sound.one mode
            have alone := sounds.one modes
            simp only [if_true] at value
            omega
        | false =>
            rw [mode, modes] at value
            have differ : startId ≠ otherId + other.numWorkers :=
              fun equal => forward ⟨mode, modes, equal⟩
            simp only [if_true, Bool.false_eq_true, if_false] at value
            omega
    | false =>
        cases modes : other.single with
        | true =>
            rw [mode, modes] at value
            have differ : otherId ≠ startId + current.numWorkers :=
              fun equal => backward ⟨modes, mode, equal⟩
            simp only [if_true, Bool.false_eq_true, if_false] at value
            omega
        | false =>
            rw [mode, modes] at value
            simp only [Bool.false_eq_true, if_false] at value
            omega

theorem Allocated.correct (allocated : Allocated system) :
    Correct system := by
  constructor
  case right =>
    intro platform current found
    exact (allocated.sound platform current found).right
  case distinct =>
    intro first second current other found also index place instanceId
      obtained again
    exact allocated.distinct found also obtained again
  case served =>
    intro platform current startId found serving index worker here
    exact (allocated.sound platform current found).served serving here

theorem run_correct {trace : List Empty}
    (run : Transition.Run step
      (fun (system : System π) action => system.allowed action = true) {}
      trace system) :
    Correct system := by
  have allocated : Allocated system := by
    apply run.state_invariant allocated_start
    intro events system next action holds allowed stepped
    exact holds.step allowed stepped
  exact allocated.correct

/-- Two platforms whose workers get the ids one to three. -/
theorem run_correct_two : ∃ system : System Nat, Correct system ∧
    (system.platforms.lookup 1).map Platform.workers =
      some [.obtained 1, .obtained 2] ∧
    (system.platforms.lookup 2).map Platform.workers =
      some [.obtained 3] := by
  have reached : ∃ trace system, Transition.Run step
      (fun (system : System Nat) action => system.allowed action = true) {}
      trace system ∧
      (system.platforms.lookup 1).map Platform.workers =
        some [.obtained 1, .obtained 2] ∧
      (system.platforms.lookup 2).map Platform.workers =
        some [.obtained 3] := by
    apply Transition.Run.exists_state_of_exec
      [.start 1 2 false, .start 2 1 false, .get 1, .get 2, .acquire 1,
        .incr 1, .put 1, .acquire 2, .incr 2, .put 2, .move 1 .mask,
        .move 1 (.look 1), .move 1 .publish, .move 1 (.obtain 1),
        .move 1 (.look 0), .move 1 (.obtain 0), .move 2 .mask,
        .move 2 .publish, .move 2 (.look 0), .move 2 (.obtain 0)]
    decide +kernel
  obtain ⟨trace, system, run, workers⟩ := reached
  exact ⟨system, run_correct run, workers⟩

/-- A worker reads between the two writes of the master. -/
theorem halfway_incorrect : ∃ (trace : List Empty) (system : System Nat),
    Transition.AnyRun step {} trace system ∧ ¬Correct system := by
  have reached : ∃ trace system, Transition.AnyRun step ({} : System Nat)
      trace system ∧
      (system.platforms.lookup 1).any (fun current =>
        current.phase = .masked 1 ∧
          current.workers = [.obtained 0, .waiting] ∧
            current.single = false) = true := by
    apply Transition.Run.exists_state_of_exec
      [.start 1 2 false, .get 1, .acquire 1, .incr 1, .put 1,
        .move 1 .mask, .move 1 (.look 0), .move 1 (.obtain 0)]
    decide +kernel
  obtain ⟨trace, system, run, found⟩ := reached
  refine ⟨trace, system, run, ?_⟩
  intro correct
  obtain ⟨current, here, holds⟩ := (Option.any_eq_true _ _).mp found
  have facts : current.phase = .masked 1 ∧
      current.workers = [.obtained 0, .waiting] ∧
        current.single = false := of_decide_eq_true holds
  obtain ⟨masked, workers, processes⟩ := facts
  obtain ⟨startId, starts, value⟩ := correct.right 1 current here 0 0 (by
    rw [workers]
    rfl)
  rw [masked] at starts
  cases starts
  rw [Platform.processSeq, processes] at value
  exact absurd value (by decide)

/-- The worker of a single platform has the id of the last worker process of
another one. -/
theorem single_incorrect : ∃ (trace : List Empty) (system : System Nat),
    Transition.AnyRun step {} trace system ∧ ¬Correct system := by
  have reached : ∃ trace system, Transition.AnyRun step ({} : System Nat)
      trace system ∧
      (system.platforms.lookup 1).any (fun current =>
        current.workers[1]? = some (.obtained 2)) = true ∧
      (system.platforms.lookup 2).any (fun current =>
        current.workers[0]? = some (.obtained 2)) = true := by
    apply Transition.Run.exists_state_of_exec
      [.start 1 2 false, .get 1, .acquire 1, .incr 1, .put 1,
        .start 2 1 true, .get 2, .acquire 2, .incr 2, .put 2,
        .move 1 .mask, .move 1 .publish, .move 1 (.look 1),
        .move 1 (.obtain 1), .move 2 .mask, .move 2 .publish,
        .move 2 (.look 0), .move 2 (.obtain 0)]
    decide +kernel
  obtain ⟨trace, system, run, first, second⟩ := reached
  refine ⟨trace, system, run, ?_⟩
  intro correct
  obtain ⟨current, found, obtained⟩ := (Option.any_eq_true _ _).mp first
  obtain ⟨other, also, again⟩ := (Option.any_eq_true _ _).mp second
  have same := correct.distinct 1 2 current other found also 1 0 2
    (of_decide_eq_true obtained) (of_decide_eq_true again)
  exact absurd same.1 (by decide)

end

end System

end Snowflake

end TinyChat
