import TinyChat.Worker.Pacer

/-!
# What a step of the pacer can do

The section of a coroutine between two suspension points takes one of the
branches of `filter_or_not` or of `on_handled_new_item`.  The branches are
listed once, with the tests that select them; the invariants of the pacer
are proved branch by branch.
-/

namespace TinyChat

namespace Worker

namespace DeliveryInfo

theorem lookup_eq_none_iff (info : DeliveryInfo) (deliveryId : Int) :
    info.deliveryIds.lookup deliveryId = none ↔ deliveryId ∉ info.keys := by
  rw [List.lookup_eq_none_iff]
  constructor
  · intro absent present
    obtain ⟨entry, member, same⟩ := List.mem_map.mp present
    have different := absent entry member
    simp [same] at different
  · intro absent entry member
    simp only [bne_iff_ne, ne_eq]
    intro same
    exact absent (List.mem_map.mpr ⟨entry, member, same.symm⟩)

end DeliveryInfo

namespace Pacer

/-- The branches of the pacer, with the tests on the state before the step. -/
inductive Moved (pacer : Pacer) :
    PacerAction → Pacer → List PacerEvent → Prop where
  | ignored {deliveryId messageId : Int} :
      pacer.info.initialized →
      deliveryId < pacer.info.nextDeliveryId ∨ deliveryId ∈ pacer.info.keys →
      Moved pacer (.filterOrNot deliveryId messageId) pacer
        [.classified deliveryId messageId .canIgnore]
  | accepted {deliveryId messageId : Int} :
      pacer.info.initialized →
      pacer.info.nextDeliveryId ≤ deliveryId →
      deliveryId ∉ pacer.info.keys →
      Moved pacer (.filterOrNot deliveryId messageId)
        (pacer.accept deliveryId messageId).1
        [.classified deliveryId messageId .newItem]
  | loading {deliveryId messageId : Int} :
      ¬ pacer.info.initialized →
      pacer.info.lock.available = true →
      Moved pacer (.filterOrNot deliveryId messageId)
        (pacer.beginLoad (pacer.info.lock.hold
          (.filter pacer.info.nextDeliveryId deliveryId messageId))) []
  | waiting {deliveryId messageId : Int} :
      ¬ pacer.info.initialized →
      Moved pacer (.filterOrNot deliveryId messageId)
        (pacer.withLock (pacer.info.lock.wait
          (.filter pacer.info.nextDeliveryId deliveryId messageId))) []
  | wokenIgnored {index : Nat} {captured deliveryId messageId : Int}
      {lock : AsyncLock PacerTask} :
      pacer.info.lock.resume index =
        some (.filter captured deliveryId messageId, lock) →
      pacer.info.initialized →
      deliveryId < captured ∨ deliveryId ∈ pacer.info.keys →
      Moved pacer (.wake index) (pacer.withLock lock.release)
        [.classified deliveryId messageId .canIgnore]
  | wokenAccepted {index : Nat} {captured deliveryId messageId : Int}
      {lock : AsyncLock PacerTask} :
      pacer.info.lock.resume index =
        some (.filter captured deliveryId messageId, lock) →
      pacer.info.initialized →
      captured ≤ deliveryId →
      deliveryId ∉ pacer.info.keys →
      Moved pacer (.wake index)
        ((pacer.withLock lock.release).accept deliveryId messageId).1
        [.classified deliveryId messageId .newItem]
  | wokenLoading {index : Nat} {captured deliveryId messageId : Int}
      {lock : AsyncLock PacerTask} :
      pacer.info.lock.resume index =
        some (.filter captured deliveryId messageId, lock) →
      ¬ pacer.info.initialized →
      Moved pacer (.wake index) (pacer.beginLoad lock) []
  | wokenStoring {index : Nat} {value : Int} {lock : AsyncLock PacerTask} :
      pacer.info.lock.resume index = some (.store value, lock) →
      Moved pacer (.wake index) (pacer.withLock lock) [.redisSet value]
  | loadFailed {captured deliveryId messageId : Int} :
      pacer.info.lock.holder =
        some (.filter captured deliveryId messageId) →
      Moved pacer (.getReply false)
        ((pacer.withLock pacer.info.lock.release).onFiltered deliveryId
          .retryRequired)
        [.classified deliveryId messageId .retryRequired]
  | loadIgnored {captured deliveryId messageId : Int} :
      pacer.info.lock.holder =
        some (.filter captured deliveryId messageId) →
      deliveryId < pacer.redis.getD 1 →
      Moved pacer (.getReply true)
        ((pacer.withLock pacer.info.lock.release).withNext
          (pacer.redis.getD 1))
        [.loaded (pacer.redis.getD 1),
          .classified deliveryId messageId .canIgnore]
  | loadAccepted {captured deliveryId messageId : Int} :
      pacer.info.lock.holder =
        some (.filter captured deliveryId messageId) →
      pacer.redis.getD 1 ≤ deliveryId →
      Moved pacer (.getReply true)
        (((pacer.withLock pacer.info.lock.release).withNext
          (pacer.redis.getD 1)).accept deliveryId messageId).1
        [.loaded (pacer.redis.getD 1),
          .classified deliveryId messageId .newItem]
  | handledOther {deliveryId : Int} :
      deliveryId ≠ pacer.info.nextDeliveryId →
      Moved pacer (.onHandledNewItem deliveryId) (pacer.finish deliveryId)
        [.handled deliveryId]
  | handledStoring {deliveryId : Int} :
      deliveryId = pacer.info.nextDeliveryId →
      pacer.info.lock.available = true →
      Moved pacer (.onHandledNewItem deliveryId)
        (((pacer.finish deliveryId).withNext
          (pacer.following deliveryId)).withLock
          (pacer.info.lock.hold (.store (pacer.following deliveryId))))
        [.handled deliveryId, .redisSet (pacer.following deliveryId)]
  | handledWaiting {deliveryId : Int} :
      deliveryId = pacer.info.nextDeliveryId →
      Moved pacer (.onHandledNewItem deliveryId)
        (((pacer.finish deliveryId).withNext
          (pacer.following deliveryId)).withLock
          (pacer.info.lock.wait (.store (pacer.following deliveryId))))
        [.handled deliveryId]
  | stored {value : Int} {applied : Bool} :
      pacer.info.lock.holder = some (.store value) →
      Moved pacer (.setReply applied) (pacer.stored value applied) []
  | external {value : Option Int} :
      Moved pacer (.external value) { pacer with redis := value } []

section

variable {pacer next : Pacer} {action : PacerAction}
  {events : List PacerEvent}

theorem filterInitialized_cases (pacer : Pacer)
    (captured deliveryId messageId : Int) :
    (deliveryId < captured ∨ deliveryId ∈ pacer.info.keys) ∧
        pacer.filterInitialized captured deliveryId messageId =
          (pacer, [.classified deliveryId messageId .canIgnore]) ∨
      captured ≤ deliveryId ∧ deliveryId ∉ pacer.info.keys ∧
        pacer.filterInitialized captured deliveryId messageId =
          ((pacer.accept deliveryId messageId).1,
            [.classified deliveryId messageId .newItem]) := by
  unfold filterInitialized
  by_cases fresh : deliveryId ≥ captured
  · rw [if_pos fresh]
    cases found : pacer.info.deliveryIds.lookup deliveryId with
    | none =>
        right
        exact ⟨fresh, (pacer.info.lookup_eq_none_iff _).mp found, rfl⟩
    | some handledMessageId =>
        left
        refine ⟨Or.inr ?_, rfl⟩
        by_contra absent
        rw [(pacer.info.lookup_eq_none_iff _).mpr absent] at found
        cases found
  · left
    rw [if_neg fresh]
    exact ⟨Or.inl (lt_of_not_ge fresh), rfl⟩

theorem filterOrNot_moved (pacer : Pacer) (deliveryId messageId : Int) :
    Moved pacer (.filterOrNot deliveryId messageId)
      (pacer.filterOrNot deliveryId messageId).1
      (pacer.filterOrNot deliveryId messageId).2 := by
  simp only [filterOrNot]
  split
  · rename_i ready
    rcases pacer.filterInitialized_cases pacer.info.nextDeliveryId deliveryId
      messageId with ⟨known, result⟩ | ⟨fresh, absent, result⟩
    · rw [result]
      exact .ignored ready known
    · rw [result]
      exact .accepted ready fresh absent
  · rename_i unready
    split
    · rename_i free
      exact .loading unready free
    · exact .waiting unready

theorem resumeWith_moved {index : Nat} {task : PacerTask}
    {lock : AsyncLock PacerTask}
    (resumed : pacer.info.lock.resume index = some (task, lock)) :
    Moved pacer (.wake index) (pacer.resumeWith lock task).1
      (pacer.resumeWith lock task).2 := by
  cases task with
  | store value => exact .wokenStoring resumed
  | filter captured deliveryId messageId =>
      simp only [resumeWith]
      split
      · rename_i ready
        rcases (pacer.withLock lock.release).filterInitialized_cases captured
          deliveryId messageId with ⟨known, result⟩ | ⟨fresh, absent, result⟩
        · rw [result]
          exact .wokenIgnored resumed ready known
        · rw [result]
          exact .wokenAccepted resumed ready fresh absent
      · rename_i unready
        exact .wokenLoading resumed unready

theorem loaded_moved {captured deliveryId messageId : Int}
    (held : pacer.info.lock.holder =
      some (.filter captured deliveryId messageId)) (success : Bool) :
    Moved pacer (.getReply success)
      (pacer.loaded deliveryId messageId success).1
      (pacer.loaded deliveryId messageId success).2 := by
  cases success with
  | false => exact .loadFailed held
  | true =>
      by_cases below : deliveryId < pacer.redis.getD 1
      · simp only [loaded, if_true, below]
        exact .loadIgnored held below
      · simp only [loaded, if_true, below, if_false]
        exact .loadAccepted held (le_of_not_gt below)

theorem onHandledNewItem_moved (pacer : Pacer) (deliveryId : Int) :
    Moved pacer (.onHandledNewItem deliveryId)
      (pacer.onHandledNewItem deliveryId).1
      (pacer.onHandledNewItem deliveryId).2 := by
  simp only [onHandledNewItem]
  split
  · rename_i reached
    split
    · rename_i free
      exact .handledStoring reached free
    · exact .handledWaiting reached
  · rename_i other
    exact .handledOther other

theorem step_moved (stepped : step pacer action = some (next, events)) :
    Moved pacer action next events := by
  cases action with
  | filterOrNot deliveryId messageId =>
      simp only [step, Option.some.injEq] at stepped
      have moved := pacer.filterOrNot_moved deliveryId messageId
      rw [stepped] at moved
      exact moved
  | wake index =>
      simp only [step] at stepped
      split at stepped
      · rename_i task lock resumed
        simp only [Option.some.injEq] at stepped
        have moved := resumeWith_moved resumed
        rw [stepped] at moved
        exact moved
      · cases stepped
  | getReply success =>
      simp only [step] at stepped
      split at stepped
      · rename_i captured deliveryId messageId held
        simp only [Option.some.injEq] at stepped
        have moved := loaded_moved held success
        rw [stepped] at moved
        exact moved
      · cases stepped
  | onHandledNewItem deliveryId =>
      simp only [step, Option.some.injEq] at stepped
      have moved := pacer.onHandledNewItem_moved deliveryId
      rw [stepped] at moved
      exact moved
  | setReply applied =>
      simp only [step] at stepped
      split at stepped
      · rename_i value held
        simp only [Option.some.injEq, Prod.mk.injEq] at stepped
        obtain ⟨rfl, rfl⟩ := stepped
        exact .stored held
      · cases stepped
  | external value =>
      simp only [step, Option.some.injEq, Prod.mk.injEq] at stepped
      obtain ⟨rfl, rfl⟩ := stepped
      exact .external

/-! ## The first message after a start -/

/-- The worker reads the value from Redis for its first message. -/
def loadingFirst (senderId : Int) (redis : Option Int)
    (deliveryId messageId : Int) : Pacer :=
  (start senderId redis).beginLoad
    { holder := some (.filter 0 deliveryId messageId) }

/-- The worker has read the value from Redis. -/
def loadedFirst (senderId : Int) (redis : Option Int) : Pacer :=
  ((start senderId redis).beginLoad {}).withNext (redis.getD 1)

theorem step_first (senderId : Int) (redis : Option Int)
    (deliveryId messageId : Int) :
    step (start senderId redis) (.filterOrNot deliveryId messageId) =
      some (loadingFirst senderId redis deliveryId messageId, []) :=
  rfl

theorem step_first_accepted {senderId : Int} {redis : Option Int}
    {deliveryId messageId : Int} (reached : redis.getD 1 ≤ deliveryId) :
    step (loadingFirst senderId redis deliveryId messageId)
        (.getReply true) =
      some (((loadedFirst senderId redis).accept deliveryId messageId).1,
        [.loaded (redis.getD 1),
          .classified deliveryId messageId .newItem]) := by
  have notBelow : ¬ deliveryId < redis.getD 1 := not_lt_of_ge reached
  simp only [step, loadingFirst, beginLoad, loaded, start, withLock, if_true,
    notBelow, if_false]
  rfl

theorem step_first_ignored {senderId : Int} {redis : Option Int}
    {deliveryId messageId : Int} (below : deliveryId < redis.getD 1) :
    step (loadingFirst senderId redis deliveryId messageId)
        (.getReply true) =
      some (loadedFirst senderId redis,
        [.loaded (redis.getD 1),
          .classified deliveryId messageId .canIgnore]) := by
  simp only [step, loadingFirst, beginLoad, loaded, start, withLock, if_true,
    below]
  rfl

theorem step_known {deliveryId : Int} (messageId : Int)
    (ready : pacer.info.initialized) (known : deliveryId ∈ pacer.info.keys) :
    step pacer (.filterOrNot deliveryId messageId) =
      some (pacer, [.classified deliveryId messageId .canIgnore]) := by
  rcases pacer.filterInitialized_cases pacer.info.nextDeliveryId deliveryId
    messageId with ⟨_, result⟩ | ⟨_, absent, _⟩
  · simp only [step, filterOrNot, if_pos ready, result]
  · exact absurd known absent

/-! ## Where things come from -/

/-- A task of the lock was there before or has just asked for the lock. -/
theorem Moved.task_origin (moved : Moved pacer action next events)
    {task : PacerTask} (member : task ∈ next.info.lock.tasks) :
    task ∈ pacer.info.lock.tasks ∨
      (∃ deliveryId messageId,
        action = .filterOrNot deliveryId messageId ∧
        ¬ pacer.info.initialized ∧
        task = .filter pacer.info.nextDeliveryId deliveryId messageId) ∨
      (∃ deliveryId, action = .onHandledNewItem deliveryId ∧
        deliveryId = pacer.info.nextDeliveryId ∧
        task = .store (pacer.following deliveryId)) := by
  cases moved with
  | ignored => exact Or.inl member
  | accepted => exact Or.inl member
  | loading unready free =>
      exact Or.inr (Or.inl ⟨_, _, rfl, unready,
        AsyncLock.mem_tasks_hold free member⟩)
  | waiting unready =>
      rcases AsyncLock.mem_tasks_wait member with earlier | new
      · exact Or.inl earlier
      · exact Or.inr (Or.inl ⟨_, _, rfl, unready, new⟩)
  | wokenIgnored resumed =>
      exact Or.inl (AsyncLock.mem_tasks_of_resume resumed
        (AsyncLock.mem_tasks_of_release member))
  | wokenAccepted resumed =>
      exact Or.inl (AsyncLock.mem_tasks_of_resume resumed
        (AsyncLock.mem_tasks_of_release member))
  | wokenLoading resumed =>
      exact Or.inl (AsyncLock.mem_tasks_of_resume resumed member)
  | wokenStoring resumed =>
      exact Or.inl (AsyncLock.mem_tasks_of_resume resumed member)
  | loadFailed => exact Or.inl (AsyncLock.mem_tasks_of_release member)
  | loadIgnored => exact Or.inl (AsyncLock.mem_tasks_of_release member)
  | loadAccepted => exact Or.inl (AsyncLock.mem_tasks_of_release member)
  | handledOther => exact Or.inl member
  | handledStoring reached free =>
      exact Or.inr (Or.inr ⟨_, rfl, reached,
        AsyncLock.mem_tasks_hold free member⟩)
  | handledWaiting reached =>
      rcases AsyncLock.mem_tasks_wait member with earlier | new
      · exact Or.inl earlier
      · exact Or.inr (Or.inr ⟨_, rfl, reached, new⟩)
  | stored => exact Or.inl (AsyncLock.mem_tasks_of_release member)
  | external => exact Or.inl member

/-- An id in the table was there before or has just become a new item. -/
theorem Moved.key_origin (moved : Moved pacer action next events)
    {deliveryId : Int} (member : deliveryId ∈ next.info.keys) :
    deliveryId ∈ pacer.info.keys ∨
      ∃ messageId, .classified deliveryId messageId .newItem ∈ events := by
  cases moved with
  | accepted =>
      rcases List.mem_cons.mp member with rfl | earlier
      · exact Or.inr ⟨_, List.mem_cons_self⟩
      · exact Or.inl earlier
  | wokenAccepted =>
      rcases List.mem_cons.mp member with rfl | earlier
      · exact Or.inr ⟨_, List.mem_cons_self⟩
      · exact Or.inl earlier
  | loadAccepted =>
      rcases List.mem_cons.mp member with rfl | earlier
      · exact Or.inr ⟨_, List.mem_cons_of_mem _ List.mem_cons_self⟩
      · exact Or.inl earlier
  | _ => exact Or.inl member

/-- A message that has to be reported had to be reported before or was not
ignored now. -/
theorem Moved.unfinished_origin (moved : Moved pacer action next events)
    {deliveryId : Int} (member : deliveryId ∈ next.unfinished) :
    deliveryId ∈ pacer.unfinished ∨
      ∃ messageId state, .classified deliveryId messageId state ∈ events ∧
        (state = .newItem ∨ state = .retryRequired) := by
  cases moved with
  | accepted =>
      rcases List.mem_append.mp member with earlier | new
      · exact Or.inl earlier
      · rw [List.mem_singleton.mp new]
        exact Or.inr ⟨_, _, List.mem_cons_self, Or.inl rfl⟩
  | wokenAccepted =>
      rcases List.mem_append.mp member with earlier | new
      · exact Or.inl earlier
      · rw [List.mem_singleton.mp new]
        exact Or.inr ⟨_, _, List.mem_cons_self, Or.inl rfl⟩
  | loadFailed =>
      rcases List.mem_append.mp member with earlier | new
      · exact Or.inl earlier
      · rw [List.mem_singleton.mp new]
        exact Or.inr ⟨_, _, List.mem_cons_self, Or.inr rfl⟩
  | loadAccepted =>
      rcases List.mem_append.mp member with earlier | new
      · exact Or.inl earlier
      · rw [List.mem_singleton.mp new]
        exact Or.inr ⟨_, _, List.mem_cons_of_mem _ List.mem_cons_self,
          Or.inl rfl⟩
  | handledOther => exact Or.inl (List.mem_of_mem_erase member)
  | handledStoring => exact Or.inl (List.mem_of_mem_erase member)
  | handledWaiting => exact Or.inl (List.mem_of_mem_erase member)
  | _ => exact Or.inl member

/-- The watermark changes when the value is loaded and when the message at
the watermark is reported. -/
theorem Moved.next_origin (moved : Moved pacer action next events) :
    next.info.nextDeliveryId = pacer.info.nextDeliveryId ∨
      next.info.nextDeliveryId = pacer.redis.getD 1 ∨
      ∃ deliveryId, action = .onHandledNewItem deliveryId ∧
        deliveryId = pacer.info.nextDeliveryId ∧
        next.info.nextDeliveryId = pacer.following deliveryId := by
  cases moved with
  | loadIgnored => exact Or.inr (Or.inl rfl)
  | loadAccepted => exact Or.inr (Or.inl rfl)
  | handledStoring reached => exact Or.inr (Or.inr ⟨_, rfl, reached, rfl⟩)
  | handledWaiting reached => exact Or.inr (Or.inr ⟨_, rfl, reached, rfl⟩)
  | _ => exact Or.inl rfl

theorem Moved.redis_origin (moved : Moved pacer action next events) :
    next.redis = pacer.redis ∨
      (∃ value, .store value ∈ pacer.info.lock.tasks ∧
        next.redis = some value) ∨
      action = .external next.redis := by
  cases moved with
  | stored held =>
      simp only [Pacer.stored]
      split
      · exact Or.inr (Or.inl ⟨_, AsyncLock.mem_tasks_of_held held, rfl⟩)
      · exact Or.inl rfl
  | external => exact Or.inr (Or.inr rfl)
  | _ => exact Or.inl rfl

theorem Moved.ignored_origin (moved : Moved pacer action next events)
    {deliveryId messageId : Int}
    (member : .classified deliveryId messageId .canIgnore ∈ events) :
    deliveryId < pacer.info.nextDeliveryId ∨
      deliveryId ∈ pacer.info.keys ∨ deliveryId < pacer.redis.getD 1 ∨
      ∃ captured, .filter captured deliveryId messageId ∈
        pacer.info.lock.tasks ∧ deliveryId < captured := by
  cases moved with
  | ignored _ known =>
      cases List.mem_singleton.mp member
      rcases known with below | listed
      · exact Or.inl below
      · exact Or.inr (Or.inl listed)
  | wokenIgnored resumed _ known =>
      cases List.mem_singleton.mp member
      rcases known with below | listed
      · exact Or.inr (Or.inr (Or.inr ⟨_,
          AsyncLock.mem_tasks_of_resumed resumed, below⟩))
      · exact Or.inr (Or.inl listed)
  | loadIgnored _ below =>
      simp only [List.mem_cons, reduceCtorEq, List.not_mem_nil, or_false,
        false_or] at member
      cases member
      exact Or.inr (Or.inr (Or.inl below))
  | _ => simp at member

/-- The table only grows. -/
theorem Moved.keys_mono (moved : Moved pacer action next events)
    {deliveryId : Int} (member : deliveryId ∈ pacer.info.keys) :
    deliveryId ∈ next.info.keys := by
  cases moved with
  | accepted => exact List.mem_cons_of_mem _ member
  | wokenAccepted => exact List.mem_cons_of_mem _ member
  | loadAccepted => exact List.mem_cons_of_mem _ member
  | _ => exact member

/-- The message that a step classifies is the one that it was called for, or
the one of a call that holds the lock or waits for it. -/
theorem Moved.classified_origin (moved : Moved pacer action next events)
    {deliveryId messageId : Int} {state : FilterState}
    (member : .classified deliveryId messageId state ∈ events) :
    action = .filterOrNot deliveryId messageId ∨
      ∃ captured, .filter captured deliveryId messageId ∈
        pacer.info.lock.tasks := by
  cases moved with
  | ignored =>
      cases List.mem_singleton.mp member
      exact Or.inl rfl
  | accepted =>
      cases List.mem_singleton.mp member
      exact Or.inl rfl
  | wokenIgnored resumed =>
      cases List.mem_singleton.mp member
      exact Or.inr ⟨_, AsyncLock.mem_tasks_of_resumed resumed⟩
  | wokenAccepted resumed =>
      cases List.mem_singleton.mp member
      exact Or.inr ⟨_, AsyncLock.mem_tasks_of_resumed resumed⟩
  | loadFailed held =>
      cases List.mem_singleton.mp member
      exact Or.inr ⟨_, AsyncLock.mem_tasks_of_held held⟩
  | loadIgnored held =>
      simp only [List.mem_cons, reduceCtorEq, List.not_mem_nil, or_false,
        false_or] at member
      cases member
      exact Or.inr ⟨_, AsyncLock.mem_tasks_of_held held⟩
  | loadAccepted held =>
      simp only [List.mem_cons, reduceCtorEq, List.not_mem_nil, or_false,
        false_or] at member
      cases member
      exact Or.inr ⟨_, AsyncLock.mem_tasks_of_held held⟩
  | _ => simp at member

end

end Pacer

end Worker

end TinyChat
