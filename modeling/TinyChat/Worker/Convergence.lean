import TinyChat.Worker.PacerSafety

/-!
# Convergence of the watermark

A worker whose calls to Redis succeed and which reports every message that
it handled moves the watermark up to the first id that it has not accepted.
When nothing is left to do, that id is also the value in Redis.
-/

namespace TinyChat

namespace Worker

namespace Pacer

open Transition

/-- A worker that filters messages with the given ids only, reports what it
handled, is served by the lock in the order of arrival and has no trouble
with Redis. -/
def Orderly (sent : List Int) (pacer : Pacer) : PacerAction → Prop
  | .filterOrNot deliveryId _ => deliveryId ∈ sent
  | .wake index => index = 0
  | .getReply success => success = true
  | .onHandledNewItem deliveryId => deliveryId ∈ pacer.unfinished
  | .setReply applied => applied = true
  | .external _ => False

instance orderly_decidable (sent : List Int) :
    ∀ pacer action, Decidable (Orderly sent pacer action)
  | _, .filterOrNot _ _ => inferInstanceAs (Decidable (_ ∈ _))
  | _, .wake _ => inferInstanceAs (Decidable (_ = _))
  | _, .getReply _ => inferInstanceAs (Decidable (_ = _))
  | _, .onHandledNewItem _ => inferInstanceAs (Decidable (_ ∈ _))
  | _, .setReply _ => inferInstanceAs (Decidable (_ = _))
  | _, .external _ => .isFalse not_false

/-- The values that are yet to be stored, in the order of the stores. -/
def storedValue : PacerTask → Option Int
  | .store value => some value
  | .filter _ _ _ => none

def pendingStores (lock : AsyncLock PacerTask) : List Int :=
  lock.tasks.filterMap storedValue

section

variable {sent : List Int} {floor : Int} {pacer next : Pacer}
  {action : PacerAction} {trace events : List PacerEvent}

/-! ## Only the given ids -/

structure Within (sent : List Int) (pacer : Pacer) : Prop where
  keys : ∀ deliveryId ∈ pacer.info.keys, deliveryId ∈ sent
  tasks : ∀ captured deliveryId messageId,
    .filter captured deliveryId messageId ∈ pacer.info.lock.tasks →
    deliveryId ∈ sent

theorem Within.moved (within : Within sent pacer)
    (filters : ∀ deliveryId messageId,
      action = .filterOrNot deliveryId messageId → deliveryId ∈ sent)
    (moved : Moved pacer action next events) : Within sent next := by
  constructor
  · intro deliveryId member
    rcases moved.key_origin member with earlier | ⟨messageId, new⟩
    · exact within.keys deliveryId earlier
    · rcases moved.classified_origin new with called | ⟨captured, waited⟩
      · exact filters deliveryId messageId called
      · exact within.tasks captured deliveryId messageId waited
  · intro captured deliveryId messageId member
    rcases moved.task_origin member with
      earlier | ⟨_, _, called, _, same⟩ | ⟨_, _, _, other⟩
    · exact within.tasks captured deliveryId messageId earlier
    · cases same
      exact filters deliveryId messageId called
    · cases other

/-! ## The watermark fills up -/

/-- The ids from the floor up to the watermark were accepted, and the id at
the watermark is still being handled if it was. -/
structure Converging (floor : Int) (pacer : Pacer) : Prop where
  sound : Sound pacer
  listed : ∀ deliveryId ∈ pacer.unfinished, deliveryId ∈ pacer.info.keys
  pending : ∀ deliveryId ∈ pacer.handling, deliveryId ∈ pacer.unfinished
  unloaded : ¬ pacer.info.initialized → pacer.redis.getD 1 = floor
  above : pacer.info.initialized → floor ≤ pacer.info.nextDeliveryId
  filled : ∀ deliveryId, floor ≤ deliveryId →
    deliveryId < pacer.info.nextDeliveryId → deliveryId ∈ pacer.info.keys
  reported : pacer.info.nextDeliveryId ∈ pacer.info.keys →
    pacer.info.nextDeliveryId ∈ pacer.handling

theorem Sound.ready_of_key (sound : Sound pacer) {deliveryId : Int}
    (member : deliveryId ∈ pacer.info.keys) : pacer.info.initialized := by
  by_contra unready
  rw [sound.blank ((unready_iff sound).mp unready)] at member
  cases member

theorem Converging.keepsSound (converging : Converging floor pacer)
    (orderly : Orderly sent pacer action) : KeepsSound pacer action := by
  cases action with
  | onHandledNewItem deliveryId =>
      have member := converging.listed deliveryId orderly
      exact Or.inr (converging.sound.ready_of_key member)
  | external value => exact absurd orderly not_false
  | _ => trivial

theorem Converging.listed_moved (converging : Converging floor pacer)
    (orderly : Orderly sent pacer action)
    (moved : Moved pacer action next events) :
    ∀ deliveryId ∈ next.unfinished, deliveryId ∈ next.info.keys := by
  intro deliveryId member
  have accepts : ∀ {accepted : Int},
      deliveryId ∈ pacer.unfinished ++ [accepted] →
      deliveryId ∈ accepted :: pacer.info.keys := by
    intro accepted member
    rcases List.mem_append.mp member with earlier | new
    · exact List.mem_cons_of_mem _ (converging.listed deliveryId earlier)
    · rw [List.mem_singleton.mp new]
      exact List.mem_cons_self
  cases moved with
  | accepted => exact accepts member
  | wokenAccepted => exact accepts member
  | loadAccepted => exact accepts member
  | loadFailed => cases orderly
  | handledOther =>
      exact converging.listed deliveryId (List.mem_of_mem_erase member)
  | handledStoring =>
      exact converging.listed deliveryId (List.mem_of_mem_erase member)
  | handledWaiting =>
      exact converging.listed deliveryId (List.mem_of_mem_erase member)
  | _ => exact converging.listed deliveryId member

theorem mem_append_both {deliveryId new : Int} {first second : List Int}
    (subset : ∀ deliveryId ∈ first, deliveryId ∈ second)
    (member : deliveryId ∈ first ++ [new]) :
    deliveryId ∈ second ++ [new] := by
  rcases List.mem_append.mp member with earlier | now
  · exact List.mem_append_left _ (subset deliveryId earlier)
  · exact List.mem_append_right _ now

theorem Converging.finish_pending (converging : Converging floor pacer)
    (handled : Int) :
    ∀ deliveryId ∈ (pacer.finish handled).handling,
      deliveryId ∈ (pacer.finish handled).unfinished := by
  intro deliveryId member
  obtain ⟨earlier, different⟩ := List.mem_filter.mp member
  have distinct : deliveryId ≠ handled := by simpa using different
  exact (List.mem_erase_of_ne distinct).mpr
    (converging.pending deliveryId earlier)

theorem Converging.pending_moved (converging : Converging floor pacer)
    (moved : Moved pacer action next events) :
    ∀ deliveryId ∈ next.handling, deliveryId ∈ next.unfinished := by
  cases moved with
  | accepted => exact fun _ => mem_append_both converging.pending
  | wokenAccepted => exact fun _ => mem_append_both converging.pending
  | loadAccepted => exact fun _ => mem_append_both converging.pending
  | loadFailed =>
      intro deliveryId member
      exact List.mem_append_left _ (converging.pending deliveryId member)
  | handledOther => exact converging.finish_pending _
  | handledStoring => exact converging.finish_pending _
  | handledWaiting => exact converging.finish_pending _
  | _ => exact converging.pending

theorem Sound.next_mono (sound : Sound pacer)
    (moved : Moved pacer action next events) :
    pacer.info.nextDeliveryId ≤ next.info.nextDeliveryId := by
  have positive := sound.positive
  cases moved with
  | loadIgnored held =>
      rw [sound.loader _ _ _ held]
      exact le_trans Int.one_nonneg positive
  | loadAccepted held =>
      rw [sound.loader _ _ _ held]
      exact le_trans Int.one_nonneg positive
  | handledStoring reached =>
      rw [← reached]
      exact le_of_lt (pacer.lt_following _)
  | handledWaiting reached =>
      rw [← reached]
      exact le_of_lt (pacer.lt_following _)
  | _ => exact le_refl _

theorem Sound.unready_of_moved (sound : Sound pacer)
    (moved : Moved pacer action next events)
    (unready : ¬ next.info.initialized) : ¬ pacer.info.initialized := by
  intro ready
  exact unready (lt_of_lt_of_le ready (sound.next_mono moved))

theorem Converging.unloaded_moved (converging : Converging floor pacer)
    (orderly : Orderly sent pacer action)
    (moved : Moved pacer action next events)
    (unready : ¬ next.info.initialized) : next.redis.getD 1 = floor := by
  have before := converging.sound.unready_of_moved moved unready
  cases moved with
  | stored held =>
      have bounds := converging.sound.stores _
        (AsyncLock.mem_tasks_of_held held)
      exact absurd (lt_of_lt_of_le Int.zero_lt_one
        (le_trans bounds.1 bounds.2)) before
  | external => exact absurd orderly not_false
  | _ => exact converging.unloaded before

theorem Converging.redis_of_held (converging : Converging floor pacer)
    {captured deliveryId messageId : Int}
    (held : pacer.info.lock.holder =
      some (.filter captured deliveryId messageId)) :
    pacer.redis.getD 1 = floor := by
  apply converging.unloaded
  rw [unready_iff converging.sound]
  exact converging.sound.loader _ _ _ held

theorem Converging.above_moved (converging : Converging floor pacer)
    (orderly : Orderly sent pacer action)
    (moved : Moved pacer action next events)
    (ready : next.info.initialized) :
    floor ≤ next.info.nextDeliveryId := by
  by_cases before : pacer.info.initialized
  · exact le_trans (converging.above before)
      (converging.sound.next_mono moved)
  · cases moved with
    | loadIgnored held => exact le_of_eq (converging.redis_of_held held).symm
    | loadAccepted held => exact le_of_eq (converging.redis_of_held held).symm
    | handledStoring reached =>
        have keeps := converging.keepsSound orderly
        exact absurd (converging.sound.ready_of_reached keeps reached) before
    | handledWaiting reached =>
        have keeps := converging.keepsSound orderly
        exact absurd (converging.sound.ready_of_reached keeps reached) before
    | _ => exact absurd ready before

/-- The loop of `on_handled_new_item` passes accepted ids only. -/
theorem below_following {handled deliveryId : Int}
    (filled : ∀ earlier, floor ≤ earlier →
      earlier < pacer.info.nextDeliveryId → earlier ∈ pacer.info.keys)
    (accepted : handled ∈ pacer.info.keys)
    (reached : handled = pacer.info.nextDeliveryId)
    (lower : floor ≤ deliveryId)
    (upper : deliveryId < pacer.following handled) :
    deliveryId ∈ pacer.info.keys := by
  rcases lt_trichotomy deliveryId handled with below | same | above
  · rw [reached] at below
    exact filled deliveryId lower below
  · rw [same]
    exact accepted
  · exact IntSpan.mem_of_lt_firstMissing above upper

theorem Converging.filled_moved (converging : Converging floor pacer)
    (orderly : Orderly sent pacer action)
    (moved : Moved pacer action next events) (deliveryId : Int)
    (lower : floor ≤ deliveryId)
    (upper : deliveryId < next.info.nextDeliveryId) :
    deliveryId ∈ next.info.keys := by
  have kept : deliveryId < pacer.info.nextDeliveryId →
      deliveryId ∈ next.info.keys := by
    intro below
    exact moved.keys_mono (converging.filled deliveryId lower below)
  cases moved with
  | loadIgnored held =>
      have bound : deliveryId < pacer.redis.getD 1 := upper
      rw [converging.redis_of_held held] at bound
      exact absurd lower (not_le_of_gt bound)
  | loadAccepted held =>
      have bound : deliveryId < pacer.redis.getD 1 := upper
      rw [converging.redis_of_held held] at bound
      exact absurd lower (not_le_of_gt bound)
  | handledStoring reached =>
      have passed := below_following converging.filled
        (converging.listed _ orderly) reached lower upper
      exact passed
  | handledWaiting reached =>
      have passed := below_following converging.filled
        (converging.listed _ orderly) reached lower upper
      exact passed
  | _ => exact kept upper

theorem accept_reported {accepted : Int}
    (reported : pacer.info.nextDeliveryId ∈ pacer.info.keys →
      pacer.info.nextDeliveryId ∈ pacer.handling)
    (member : pacer.info.nextDeliveryId ∈ accepted :: pacer.info.keys) :
    pacer.info.nextDeliveryId ∈ pacer.handling ++ [accepted] := by
  rcases List.mem_cons.mp member with same | earlier
  · rw [same]
    exact List.mem_append_right _ List.mem_cons_self
  · exact List.mem_append_left _ (reported earlier)

theorem Sound.reported_moved (sound : Sound pacer)
    (reported : pacer.info.nextDeliveryId ∈ pacer.info.keys →
      pacer.info.nextDeliveryId ∈ pacer.handling)
    (moved : Moved pacer action next events)
    (member : next.info.nextDeliveryId ∈ next.info.keys) :
    next.info.nextDeliveryId ∈ next.handling := by
  cases moved with
  | @accepted deliveryId =>
      show pacer.info.nextDeliveryId ∈ pacer.handling ++ [deliveryId]
      exact accept_reported reported member
  | @wokenAccepted _ _ deliveryId =>
      show pacer.info.nextDeliveryId ∈ pacer.handling ++ [deliveryId]
      exact accept_reported reported member
  | loadIgnored held =>
      have blank := sound.blank (sound.loader _ _ _ held)
      have listed : pacer.redis.getD 1 ∈ pacer.info.keys := member
      rw [blank] at listed
      cases listed
  | @loadAccepted _ deliveryId _ held =>
      have blank := sound.blank (sound.loader _ _ _ held)
      have listed : pacer.redis.getD 1 ∈ deliveryId :: pacer.info.keys :=
        member
      rw [blank, List.mem_singleton] at listed
      show pacer.redis.getD 1 ∈ pacer.handling ++ [deliveryId]
      rw [listed]
      exact List.mem_append_right _ List.mem_cons_self
  | handledOther other =>
      apply List.mem_filter.mpr
      exact ⟨reported member, decide_eq_true (Ne.symm other)⟩
  | handledStoring =>
      exact absurd member (IntSpan.firstMissing_notMem _ _)
  | handledWaiting =>
      exact absurd member (IntSpan.firstMissing_notMem _ _)
  | _ => exact reported member

theorem Converging.moved (converging : Converging floor pacer)
    (orderly : Orderly sent pacer action)
    (moved : Moved pacer action next events) : Converging floor next :=
  ⟨converging.sound.moved (converging.keepsSound orderly) moved,
    converging.listed_moved orderly moved,
    converging.pending_moved moved,
    converging.unloaded_moved orderly moved,
    converging.above_moved orderly moved,
    converging.filled_moved orderly moved,
    converging.sound.reported_moved converging.reported moved⟩

/-! ## The value in Redis follows -/

/-- The stores that are under way end with the watermark. -/
structure Saved (pacer : Pacer) : Prop where
  loader : ∀ captured deliveryId messageId,
    pacer.info.lock.holder = some (.filter captured deliveryId messageId) →
    pacer.info.redisKey.isSome
  keyed : pacer.info.initialized → pacer.info.redisKey.isSome
  last : pacer.info.initialized →
    (pacer.redis.getD 1 :: pendingStores pacer.info.lock).getLast? =
      some pacer.info.nextDeliveryId

theorem pendingStores_release {lock : AsyncLock PacerTask}
    {captured deliveryId messageId : Int}
    (held : lock.holder = some (.filter captured deliveryId messageId)) :
    pendingStores lock.release = pendingStores lock := by
  unfold pendingStores
  rw [AsyncLock.tasks_of_held held]
  rfl

theorem pendingStores_resume {lock resumed : AsyncLock PacerTask}
    {task : PacerTask} (success : lock.resume 0 = some (task, resumed)) :
    pendingStores resumed = pendingStores lock := by
  unfold pendingStores
  rw [AsyncLock.tasks_resume_first success]

theorem pendingStores_wait (lock : AsyncLock PacerTask) (value : Int) :
    pendingStores (lock.wait (.store value)) =
      pendingStores lock ++ [value] := by
  unfold pendingStores
  rw [AsyncLock.tasks_wait, List.filterMap_append]
  rfl

theorem pendingStores_hold {lock : AsyncLock PacerTask} (value : Int)
    (free : lock.available = true) :
    pendingStores (lock.hold (.store value)) = [value] := by
  unfold pendingStores
  rw [AsyncLock.tasks_hold _ free]
  rfl

theorem pendingStores_held {lock : AsyncLock PacerTask} {value : Int}
    (held : lock.holder = some (.store value)) :
    pendingStores lock = value :: pendingStores lock.release := by
  unfold pendingStores
  rw [AsyncLock.tasks_of_held held]
  rfl

theorem Sound.pendingStores_loading (sound : Sound pacer)
    {captured deliveryId messageId : Int}
    (held : pacer.info.lock.holder =
      some (.filter captured deliveryId messageId)) :
    pendingStores pacer.info.lock.release = [] := by
  rw [pendingStores_release held]
  apply List.filterMap_eq_nil_iff.mpr
  intro task member
  cases task with
  | filter => rfl
  | store value =>
      have bounds := sound.stores value member
      rw [sound.loader _ _ _ held] at bounds
      exact absurd (le_trans bounds.1 bounds.2) (by decide)

theorem Saved.loader_moved (saved : Saved pacer)
    (moved : Moved pacer action next events) :
    ∀ captured deliveryId messageId,
      next.info.lock.holder =
        some (.filter captured deliveryId messageId) →
      next.info.redisKey.isSome := by
  intro captured deliveryId messageId held
  cases moved with
  | loading => rfl
  | wokenLoading => rfl
  | wokenIgnored => cases held
  | wokenAccepted => cases held
  | wokenStoring resumed =>
      obtain ⟨_, _, holds, _⟩ := AsyncLock.resume_eq_some resumed
      cases holds.symm.trans held
  | loadFailed => cases held
  | loadIgnored => cases held
  | loadAccepted => cases held
  | handledStoring => cases held
  | stored => cases held
  | _ => exact saved.loader _ _ _ held

theorem Saved.keyed_moved (saved : Saved pacer) (sound : Sound pacer)
    (keeps : KeepsSound pacer action)
    (moved : Moved pacer action next events)
    (ready : next.info.initialized) : next.info.redisKey.isSome := by
  cases moved with
  | loading => rfl
  | wokenLoading => rfl
  | loadIgnored held => exact saved.loader _ _ _ held
  | loadAccepted held => exact saved.loader _ _ _ held
  | handledStoring reached =>
      exact saved.keyed (sound.ready_of_reached keeps reached)
  | handledWaiting reached =>
      exact saved.keyed (sound.ready_of_reached keeps reached)
  | _ => exact saved.keyed ready

theorem Saved.last_moved (saved : Saved pacer) (sound : Sound pacer)
    (orderly : Orderly sent pacer action)
    (moved : Moved pacer action next events)
    (ready : next.info.initialized) :
    (next.redis.getD 1 :: pendingStores next.info.lock).getLast? =
      some next.info.nextDeliveryId := by
  cases moved with
  | loading unready => exact absurd ready unready
  | waiting unready => exact absurd ready unready
  | wokenLoading _ unready => exact absurd ready unready
  | @wokenIgnored index captured deliveryId messageId lock resumed =>
      cases orderly
      obtain ⟨_, _, held, _⟩ := AsyncLock.resume_eq_some resumed
      show (_ :: pendingStores lock.release).getLast? = _
      rw [pendingStores_release held, pendingStores_resume resumed]
      exact saved.last ready
  | @wokenAccepted index captured deliveryId messageId lock resumed =>
      cases orderly
      obtain ⟨_, _, held, _⟩ := AsyncLock.resume_eq_some resumed
      show (_ :: pendingStores lock.release).getLast? = _
      rw [pendingStores_release held, pendingStores_resume resumed]
      exact saved.last ready
  | @wokenStoring index value lock resumed =>
      cases orderly
      show (_ :: pendingStores lock).getLast? = _
      rw [pendingStores_resume resumed]
      exact saved.last ready
  | loadFailed => cases orderly
  | loadIgnored held =>
      show (_ :: pendingStores pacer.info.lock.release).getLast? = _
      rw [sound.pendingStores_loading held]
      rfl
  | loadAccepted held =>
      show (_ :: pendingStores pacer.info.lock.release).getLast? = _
      rw [sound.pendingStores_loading held]
      rfl
  | handledStoring _ free =>
      show (_ :: pendingStores (pacer.info.lock.hold _)).getLast? = _
      rw [pendingStores_hold _ free]
      rfl
  | handledWaiting =>
      show (_ :: pendingStores (pacer.info.lock.wait _)).getLast? = _
      rw [pendingStores_wait, ← List.cons_append]
      exact List.getLast?_concat
  | @stored value applied held =>
      cases orderly
      have key := saved.keyed ready
      have before := saved.last ready
      rw [pendingStores_held held, List.getLast?_cons_cons] at before
      simp only [Pacer.stored, key, Bool.and_self, if_true, Option.getD_some]
      exact before
  | external => exact absurd orderly not_false
  | _ => exact saved.last ready

theorem Saved.moved (saved : Saved pacer)
    (converging : Converging floor pacer)
    (orderly : Orderly sent pacer action)
    (moved : Moved pacer action next events) : Saved next := by
  have keeps := converging.keepsSound orderly
  exact ⟨saved.loader_moved moved,
    saved.keyed_moved converging.sound keeps moved,
    saved.last_moved converging.sound orderly moved⟩

/-! ## Nothing left to do -/

/-- Every given id was accepted and reported, and nobody needs the lock. -/
structure Complete (sent : List Int) (trace : List PacerEvent)
    (pacer : Pacer) : Prop where
  accepted : ∀ deliveryId ∈ sent, deliveryId ∈ newItems trace
  finished : pacer.unfinished = []
  idle : pacer.info.lock.tasks = []

/-- No id between the floor and a given id is left out. -/
def Gapless (floor : Int) (sent : List Int) : Prop :=
  ∀ deliveryId ∈ sent, ∀ between, floor ≤ between →
    between < deliveryId → between ∈ sent

/-- What holds after every run of an orderly worker. -/
structure OrderlyRun (sent : List Int) (floor : Int)
    (trace : List PacerEvent) (pacer : Pacer) : Prop where
  once : Once trace pacer
  within : Within sent pacer
  converging : Converging floor pacer
  saved : Saved pacer

theorem OrderlyRun.moved (orderlyRun : OrderlyRun sent floor trace pacer)
    (orderly : Orderly sent pacer action)
    (moved : Moved pacer action next events) :
    OrderlyRun sent floor (trace ++ events) next := by
  have keeps := orderlyRun.converging.keepsSound orderly
  refine ⟨orderlyRun.once.moved keeps moved, ?_,
    orderlyRun.converging.moved orderly moved,
    orderlyRun.saved.moved orderlyRun.converging orderly moved⟩
  apply orderlyRun.within.moved _ moved
  intro deliveryId messageId called
  rw [called] at orderly
  exact orderly

theorem start_converging {stored : Option Int} (senderId : Int)
    (positive : 1 ≤ stored.getD 1) :
    Converging (stored.getD 1) (start senderId stored) := by
  refine ⟨start_sound senderId positive, ?_, ?_, fun _ => rfl, ?_, ?_, ?_⟩
  · intro deliveryId member
    cases member
  · intro deliveryId member
    cases member
  · intro ready
    exact absurd ready (lt_irrefl 0)
  · intro deliveryId lower upper
    have below : deliveryId < 0 := upper
    omega
  · intro member
    cases member

theorem orderlyRun {senderId : Int} {stored : Option Int}
    (positive : 1 ≤ stored.getD 1)
    (run : Run step (Orderly sent) (start senderId stored) trace pacer) :
    OrderlyRun sent (stored.getD 1) trace pacer := by
  apply run.invariant
  · refine ⟨⟨start_sound senderId positive, List.nodup_nil, ?_⟩, ⟨?_, ?_⟩,
      start_converging senderId positive, ⟨?_, ?_, ?_⟩⟩
    · intro deliveryId member
      cases member
    · intro deliveryId member
      cases member
    · intro captured deliveryId messageId member
      cases member
    · intro captured deliveryId messageId held
      cases held
    · intro ready
      exact absurd ready (lt_irrefl 0)
    · intro ready
      exact absurd ready (lt_irrefl 0)
  · intro trace events pacer next action holds orderly stepped
    exact holds.moved orderly (step_moved stepped)

section

variable (orderlyRun : OrderlyRun sent floor trace pacer)
  (complete : Complete sent trace pacer)

include orderlyRun complete

theorem OrderlyRun.mem_keys_iff (deliveryId : Int) :
    deliveryId ∈ pacer.info.keys ↔ deliveryId ∈ sent := by
  constructor
  · exact orderlyRun.within.keys deliveryId
  · intro member
    exact orderlyRun.once.listed _ (complete.accepted deliveryId member)

theorem OrderlyRun.next_notMem : pacer.info.nextDeliveryId ∉ sent := by
  rw [← orderlyRun.mem_keys_iff complete]
  intro member
  have handling := orderlyRun.converging.reported member
  have unfinished := orderlyRun.converging.pending _ handling
  rw [complete.finished] at unfinished
  cases unfinished

theorem OrderlyRun.redis_eq (ready : pacer.info.initialized) :
    pacer.redis.getD 1 = pacer.info.nextDeliveryId := by
  have last := orderlyRun.saved.last ready
  have none : pendingStores pacer.info.lock = [] := by
    unfold pendingStores
    rw [complete.idle]
    rfl
  rw [none] at last
  simpa using last

/-- In the end Redis has a value above all ids exactly if there was no gap. -/
theorem OrderlyRun.gapless_iff :
    Gapless floor sent ↔ ∀ deliveryId ∈ sent,
      deliveryId < pacer.redis.getD 1 := by
  constructor
  · intro gapless deliveryId member
    have listed := (orderlyRun.mem_keys_iff complete deliveryId).mpr member
    have ready := orderlyRun.converging.sound.ready_of_key listed
    have above := orderlyRun.converging.above ready
    have missing := orderlyRun.next_notMem complete
    rw [orderlyRun.redis_eq complete ready]
    by_contra beyond
    rcases lt_or_eq_of_le (le_of_not_gt beyond) with later | same
    · exact missing (gapless deliveryId member _ above later)
    · rw [same] at missing
      exact missing member
  · intro bounded deliveryId member between lower upper
    have listed := (orderlyRun.mem_keys_iff complete deliveryId).mpr member
    have ready := orderlyRun.converging.sound.ready_of_key listed
    have below := bounded deliveryId member
    rw [orderlyRun.redis_eq complete ready] at below
    rw [← orderlyRun.mem_keys_iff complete]
    exact orderlyRun.converging.filled between lower (lt_trans upper below)

end

end

end Pacer

end Worker

end TinyChat
