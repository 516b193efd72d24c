import Mathlib.Order.Bounds.Basic
import TinyChat.Worker.Convergence

/-!
# Where the watermark settles

Messages of a sender are reported as handled in any order, and most reports
leave the watermark where it is.  The one report that moves it passes every
accepted id behind it, so that whenever nothing is being handled the
watermark is the first id that was never accepted.  The stores of its values
queue at the lock in the order in which the watermark took them.
-/

namespace TinyChat

namespace Worker

namespace Pacer

open Transition

/-- The lock is fair, new items are reported once, and values that others
store in Redis are positive.  A report below the watermark has no effect and
is not restricted; a message to be retried is not reported. -/
def ReportsNewItems (pacer : Pacer) : PacerAction → Prop
  | .wake index => index = 0
  | .onHandledNewItem deliveryId =>
      deliveryId ∈ pacer.handling ∨
        pacer.info.initialized ∧ deliveryId < pacer.info.nextDeliveryId
  | .external value => 1 ≤ value.getD 1
  | _ => True

instance reportsNewItems_decidable :
    ∀ pacer action, Decidable (ReportsNewItems pacer action)
  | _, .wake _ => inferInstanceAs (Decidable (_ = _))
  | _, .onHandledNewItem _ => inferInstanceAs (Decidable (_ ∨ _ ∧ _))
  | _, .external _ => inferInstanceAs (Decidable (_ ≤ _))
  | _, .filterOrNot _ _ => .isTrue trivial
  | _, .getReply _ => .isTrue trivial
  | _, .setReply _ => .isTrue trivial

def redisSetValue : PacerEvent → Option Int
  | .redisSet value => some value
  | _ => none

/-- The values passed to `redis_set`, in the order of the calls. -/
def redisSets (trace : List PacerEvent) : List Int :=
  trace.filterMap redisSetValue

/-- The values whose `redis_set` has yet to be called. -/
def waitingStores (lock : AsyncLock PacerTask) : List Int :=
  lock.waiters.filterMap storedValue

section

variable {pacer next : Pacer} {action : PacerAction}
  {trace events : List PacerEvent}

theorem Sound.keepsSound (sound : Sound pacer)
    (reports : ReportsNewItems pacer action) : KeepsSound pacer action := by
  cases action with
  | onHandledNewItem deliveryId =>
      rcases reports with handling | ⟨ready, _⟩
      · exact Or.inr (sound.ready_of_key (sound.recorded _ handling))
      · exact Or.inr ready
  | external value => exact reports
  | _ => trivial

/-! ## The order of the stores -/

theorem waitingStores_wait (lock : AsyncLock PacerTask) (task : PacerTask) :
    waitingStores (lock.wait task) =
      waitingStores lock ++ [task].filterMap storedValue := by
  unfold waitingStores
  rw [AsyncLock.wait_waiters, List.filterMap_append]

theorem waitingStores_resume {lock resumed : AsyncLock PacerTask}
    {task : PacerTask} (success : lock.resume 0 = some (task, resumed)) :
    [task].filterMap storedValue ++ waitingStores resumed =
      waitingStores lock := by
  obtain ⟨_, present, _, rest⟩ := AsyncLock.resume_eq_some success
  unfold waitingStores
  rw [rest]
  cases waiting : lock.waiters with
  | nil => simp [waiting] at present
  | cons first others =>
      have same : first = task := by simpa [waiting] using present
      rw [same, List.eraseIdx_cons_zero, ← List.filterMap_append]
      rfl

/-- A step issues the first of the waiting stores, or adds the value to which
it moves the watermark, or leaves the sequence of stores alone. -/
theorem Moved.stores_origin (reports : ReportsNewItems pacer action)
    (moved : Moved pacer action next events) :
    redisSets events ++ waitingStores next.info.lock =
        waitingStores pacer.info.lock ∨
      pacer.info.nextDeliveryId < next.info.nextDeliveryId ∧
        redisSets events ++ waitingStores next.info.lock =
          waitingStores pacer.info.lock ++ [next.info.nextDeliveryId] := by
  cases moved with
  | waiting =>
      left
      show waitingStores (pacer.info.lock.wait _) = _
      rw [waitingStores_wait]
      exact List.append_nil _
  | wokenIgnored resumed =>
      cases reports
      exact Or.inl (waitingStores_resume resumed)
  | wokenAccepted resumed =>
      cases reports
      exact Or.inl (waitingStores_resume resumed)
  | wokenLoading resumed =>
      cases reports
      exact Or.inl (waitingStores_resume resumed)
  | wokenStoring resumed =>
      cases reports
      exact Or.inl (waitingStores_resume resumed)
  | handledStoring reached free =>
      right
      refine ⟨lt_of_eq_of_lt reached.symm (pacer.lt_following _), ?_⟩
      obtain ⟨_, empty⟩ := pacer.info.lock.available_iff.mp free
      show [pacer.following _] ++ pacer.info.lock.waiters.filterMap _ =
        pacer.info.lock.waiters.filterMap _ ++ [pacer.following _]
      rw [empty]
      rfl
  | handledWaiting reached =>
      right
      refine ⟨lt_of_eq_of_lt reached.symm (pacer.lt_following _), ?_⟩
      exact waitingStores_wait _ _
  | _ => exact Or.inl rfl

theorem Sound.redisSet_positive (sound : Sound pacer)
    (moved : Moved pacer action next events) {value : Int}
    (member : .redisSet value ∈ events) : 1 ≤ value := by
  cases moved with
  | wokenStoring resumed =>
      cases List.mem_singleton.mp member
      exact (sound.stores value (AsyncLock.mem_tasks_of_resumed resumed)).1
  | @handledStoring deliveryId reached =>
      simp only [List.mem_cons, reduceCtorEq, PacerEvent.redisSet.injEq,
        List.not_mem_nil, or_false, false_or] at member
      have started := sound.started
      have further := pacer.lt_following deliveryId
      omega
  | _ => simp at member

/-- The stores so far and to come, in the order of the calls. -/
structure InOrder (trace : List PacerEvent) (pacer : Pacer) : Prop where
  increasing :
    (redisSets trace ++ waitingStores pacer.info.lock).Pairwise (· < ·)
  bounded : ∀ value ∈ redisSets trace ++ waitingStores pacer.info.lock,
    value ≤ pacer.info.nextDeliveryId

theorem InOrder.moved (inOrder : InOrder trace pacer) (sound : Sound pacer)
    (reports : ReportsNewItems pacer action)
    (moved : Moved pacer action next events) :
    InOrder (trace ++ events) next := by
  have grows := sound.next_mono moved
  have issued : redisSets (trace ++ events) =
      redisSets trace ++ redisSets events := List.filterMap_append
  rcases moved.stores_origin reports with same | ⟨further, longer⟩
  · constructor
    · rw [issued, List.append_assoc, same]
      exact inOrder.increasing
    · intro value member
      rw [issued, List.append_assoc, same] at member
      exact le_trans (inOrder.bounded value member) grows
  · constructor
    · rw [issued, List.append_assoc, longer, ← List.append_assoc,
        List.pairwise_append]
      refine ⟨inOrder.increasing, List.pairwise_singleton _ _, ?_⟩
      intro value member last isLast
      rw [List.mem_singleton.mp isLast]
      exact lt_of_le_of_lt (inOrder.bounded value member) further
    · intro value member
      rw [issued, List.append_assoc, longer, ← List.append_assoc] at member
      rcases List.mem_append.mp member with earlier | last
      · exact le_trans (inOrder.bounded value earlier) grows
      · rw [List.mem_singleton.mp last]

/-! ## The first id that was not accepted -/

theorem Moved.loaded_origin (moved : Moved pacer action next events)
    {value : Int} (member : .loaded value ∈ events) :
    value = pacer.redis.getD 1 ∧ next.info.nextDeliveryId = value := by
  cases moved with
  | loadIgnored =>
      simp only [List.mem_cons, PacerEvent.loaded.injEq, reduceCtorEq,
        List.not_mem_nil, or_false] at member
      exact ⟨member, member.symm⟩
  | loadAccepted =>
      simp only [List.mem_cons, PacerEvent.loaded.injEq, reduceCtorEq,
        List.not_mem_nil, or_false] at member
      exact ⟨member, member.symm⟩
  | _ => simp at member

theorem Sound.next_of_ready (sound : Sound pacer)
    (ready : pacer.info.initialized)
    (moved : Moved pacer action next events) :
    next.info.nextDeliveryId = pacer.info.nextDeliveryId ∨
      ∃ handled, action = .onHandledNewItem handled ∧
        handled = pacer.info.nextDeliveryId ∧
        next.info.nextDeliveryId = pacer.following handled := by
  have loaded : ∀ {captured deliveryId messageId : Int},
      pacer.info.lock.holder ≠
        some (.filter captured deliveryId messageId) := by
    intro captured deliveryId messageId held
    exact (unready_iff sound).mpr (sound.loader _ _ _ held) ready
  cases moved with
  | loadIgnored held => exact absurd held loaded
  | loadAccepted held => exact absurd held loaded
  | handledStoring reached => exact Or.inr ⟨_, rfl, reached, rfl⟩
  | handledWaiting reached => exact Or.inr ⟨_, rfl, reached, rfl⟩
  | _ => exact Or.inl rfl

/-- The ids from the loaded value up to the watermark were accepted, and the
id at the watermark is still being handled if it was. -/
structure Settling (trace : List PacerEvent) (pacer : Pacer) : Prop where
  once : Once trace pacer
  accepted : ∀ deliveryId ∈ pacer.info.keys, deliveryId ∈ newItems trace
  tracked : pacer.handling = outstanding trace
  unread : ¬ pacer.info.initialized → ∀ value, .loaded value ∉ trace
  above : ∀ first, .loaded first ∈ trace →
    first ≤ pacer.info.nextDeliveryId
  filled : ∀ first, .loaded first ∈ trace → ∀ deliveryId,
    first ≤ deliveryId → deliveryId < pacer.info.nextDeliveryId →
    deliveryId ∈ pacer.info.keys
  reported : pacer.info.nextDeliveryId ∈ pacer.info.keys →
    pacer.info.nextDeliveryId ∈ pacer.handling
  inOrder : InOrder trace pacer

theorem Settling.accepted_moved (settling : Settling trace pacer)
    (moved : Moved pacer action next events) :
    ∀ deliveryId ∈ next.info.keys,
      deliveryId ∈ newItems (trace ++ events) := by
  intro deliveryId member
  rw [newItems_append, List.mem_append]
  rcases moved.key_origin member with earlier | ⟨messageId, new⟩
  · exact Or.inl (settling.accepted deliveryId earlier)
  · exact Or.inr (List.mem_filterMap.mpr ⟨_, new, rfl⟩)

theorem Settling.unread_moved (settling : Settling trace pacer)
    (sound : Sound next) (moved : Moved pacer action next events)
    (unready : ¬ next.info.initialized) :
    ∀ value, .loaded value ∉ trace ++ events := by
  intro value member
  have before := settling.once.sound.unready_of_moved moved unready
  rcases List.mem_append.mp member with earlier | now
  · exact settling.unread before value earlier
  · obtain ⟨read, reached⟩ := moved.loaded_origin now
    have zero := (unready_iff sound).mp unready
    have positive := settling.once.sound.positive
    omega

theorem Settling.above_moved (settling : Settling trace pacer)
    (moved : Moved pacer action next events) :
    ∀ first, .loaded first ∈ trace ++ events →
      first ≤ next.info.nextDeliveryId := by
  intro first member
  rcases List.mem_append.mp member with earlier | now
  · exact le_trans (settling.above first earlier)
      (settling.once.sound.next_mono moved)
  · exact le_of_eq (moved.loaded_origin now).2.symm

theorem Settling.filled_moved (settling : Settling trace pacer)
    (reports : ReportsNewItems pacer action)
    (moved : Moved pacer action next events) :
    ∀ first, .loaded first ∈ trace ++ events → ∀ deliveryId,
      first ≤ deliveryId → deliveryId < next.info.nextDeliveryId →
      deliveryId ∈ next.info.keys := by
  intro first member deliveryId lower upper
  rcases List.mem_append.mp member with earlier | now
  · have ready : pacer.info.initialized := by
      by_contra unready
      exact settling.unread unready first earlier
    have sound := settling.once.sound
    have filled := settling.filled first earlier
    apply moved.keys_mono
    rcases sound.next_of_ready ready moved with
      same | ⟨handled, called, reached, moves⟩
    · rw [same] at upper
      exact filled deliveryId lower upper
    · rw [called] at reports
      rw [moves] at upper
      have listed : handled ∈ pacer.info.keys := by
        rcases reports with handling | ⟨_, below⟩
        · exact sound.recorded handled handling
        · exact absurd reached (ne_of_lt below)
      exact below_following filled listed reached lower upper
  · rw [(moved.loaded_origin now).2] at upper
    exact absurd lower (not_le_of_gt upper)

theorem Settling.moved (settling : Settling trace pacer)
    (reports : ReportsNewItems pacer action)
    (moved : Moved pacer action next events) :
    Settling (trace ++ events) next := by
  have sound := settling.once.sound
  have once := settling.once.moved (sound.keepsSound reports) moved
  exact ⟨once, settling.accepted_moved moved,
    handling_moved settling.tracked moved,
    settling.unread_moved once.sound moved,
    settling.above_moved moved,
    settling.filled_moved reports moved,
    sound.reported_moved settling.reported moved,
    settling.inOrder.moved sound reports moved⟩

theorem start_settling {redis : Option Int} (senderId : Int)
    (positive : 1 ≤ redis.getD 1) :
    Settling [] (start senderId redis) := by
  refine ⟨⟨start_sound senderId positive, List.nodup_nil, ?_⟩, ?_, rfl, ?_,
    ?_, ?_, ?_, ⟨List.Pairwise.nil, ?_⟩⟩
  · intro deliveryId member
    cases member
  · intro deliveryId member
    cases member
  · intro _ value member
    cases member
  · intro first member
    cases member
  · intro first member
    cases member
  · intro member
    cases member
  · intro value member
    cases member

/-- Whenever no new item from the loaded value on is being handled, the
watermark is the first id that was not accepted. -/
theorem Settling.isLeast (settling : Settling trace pacer) {first : Int}
    (loaded : .loaded first ∈ trace)
    (idle : ∀ deliveryId ∈ outstanding trace, deliveryId < first) :
    IsLeast {deliveryId | first ≤ deliveryId ∧ deliveryId ∉ newItems trace}
      pacer.info.nextDeliveryId := by
  have above := settling.above first loaded
  constructor
  · refine ⟨above, ?_⟩
    intro accepted
    have handling := settling.reported (settling.once.listed _ accepted)
    rw [settling.tracked] at handling
    exact absurd above (not_le_of_gt (idle _ handling))
  · intro deliveryId missing
    obtain ⟨lower, notAccepted⟩ := missing
    by_contra below
    have listed := settling.filled first loaded deliveryId lower
      (lt_of_not_ge below)
    exact notAccepted (settling.accepted deliveryId listed)

end

theorem redisSets_positive (senderId : Int) {redis : Option Int}
    (positive : 1 ≤ redis.getD 1) {trace : List PacerEvent} {pacer : Pacer}
    (run : Run step KeepsSound (start senderId redis) trace pacer) :
    Sound pacer ∧ ∀ value ∈ redisSets trace, 1 ≤ value := by
  apply run.invariant
  · refine ⟨start_sound senderId positive, ?_⟩
    intro value member
    cases member
  · intro trace events pacer next action holds keeps stepped
    obtain ⟨sound, stores⟩ := holds
    refine ⟨sound.moved keeps (step_moved stepped), ?_⟩
    intro value member
    obtain ⟨event, listed, same⟩ := List.mem_filterMap.mp member
    rcases List.mem_append.mp listed with earlier | now
    · exact stores value (List.mem_filterMap.mpr ⟨event, earlier, same⟩)
    · cases event with
      | redisSet stored =>
          cases same
          exact sound.redisSet_positive (step_moved stepped) now
      | _ => cases same

/-- In every run in which the new items from the loaded value on are reported
once, the watermark is the first id that was not accepted whenever none of
them is being handled, and the values passed to `redis_set` increase. -/
theorem watermark_converges (senderId : Int) {redis : Option Int}
    (positive : 1 ≤ redis.getD 1) {trace : List PacerEvent} {pacer : Pacer}
    (run : Run step ReportsNewItems (start senderId redis) trace pacer) :
    (∀ first, .loaded first ∈ trace →
      (∀ deliveryId ∈ outstanding trace, deliveryId < first) →
      IsLeast
        {deliveryId | first ≤ deliveryId ∧ deliveryId ∉ newItems trace}
        pacer.info.nextDeliveryId) ∧
      (redisSets trace).Pairwise (· < ·) := by
  have settling : Settling trace pacer := by
    apply run.invariant
    · exact start_settling senderId positive
    · intro trace events pacer next action settling reports stepped
      exact settling.moved reports (step_moved stepped)
  refine ⟨?_, ?_⟩
  · intro first loaded idle
    exact settling.isLeast loaded idle
  · exact (List.pairwise_append.mp settling.inOrder.increasing).1

/-- From the value 2 on, 4 and 3 are reported before 2, and 6 while the value
5 is being stored. -/
theorem watermark_converges_unordered :
    IsLeast
        {deliveryId | (2 : Int) ≤ deliveryId ∧ deliveryId ∉ newItems
          [.loaded 2, .classified 4 100 .newItem,
            .classified 3 101 .newItem, .classified 2 102 .newItem,
            .handled 4, .handled 3, .handled 2, .redisSet 5,
            .classified 5 103 .newItem, .handled 5, .redisSet 6]}
        6 ∧
      (redisSets
        [.loaded 2, .classified 4 100 .newItem,
          .classified 3 101 .newItem, .classified 2 102 .newItem,
          .handled 4, .handled 3, .handled 2, .redisSet 5,
          .classified 5 103 .newItem, .handled 5,
          .redisSet 6]).Pairwise (· < ·) := by
  have executed : (exec step ReportsNewItems (start 7 (some 2))
      [.filterOrNot 4 100, .getReply true, .filterOrNot 3 101,
        .filterOrNot 2 102, .onHandledNewItem 4, .onHandledNewItem 3,
        .onHandledNewItem 2, .filterOrNot 5 103, .onHandledNewItem 5,
        .setReply true, .wake 0]).map (fun result =>
          (result.2, result.1.info.nextDeliveryId)) =
      some ([.loaded 2, .classified 4 100 .newItem,
        .classified 3 101 .newItem, .classified 2 102 .newItem,
        .handled 4, .handled 3, .handled 2, .redisSet 5,
        .classified 5 103 .newItem, .handled 5, .redisSet 6], 6) := by
    decide
  obtain ⟨⟨pacer, trace⟩, result, same⟩ :=
    Option.map_eq_some_iff.mp executed
  simp only [Prod.mk.injEq] at same
  obtain ⟨rfl, reached⟩ := same
  have converged := watermark_converges 7 (by decide) (.of_exec result)
  rw [reached] at converged
  exact ⟨converged.1 2 (by decide) (by decide), converged.2⟩

end Pacer

end Worker

end TinyChat
