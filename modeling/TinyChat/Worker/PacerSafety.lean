import Mathlib.Data.Int.Range
import TinyChat.Worker.PacerSteps

/-!
# Safety of the message pacer

The entry of a sender is consistent as long as nobody reports the id `0` as
handled before the entry is initialised: the coroutine that loads the value
from Redis is then the only one that can initialise it.  From that follow
the guarantees of the pacer over all interleavings: no message is a new item
twice, a message below the loaded value is not a new item, and the watermark
does not pass a message that is still being handled.
-/

namespace TinyChat

namespace Worker

namespace Pacer

open Transition

/-- What holds between the watermark, the table, the lock and Redis. -/
structure Sound (pacer : Pacer) : Prop where
  started : 0 ≤ pacer.info.nextDeliveryId
  blank : pacer.info.nextDeliveryId = 0 → pacer.info.keys = []
  recorded : ∀ deliveryId ∈ pacer.handling, deliveryId ∈ pacer.info.keys
  loader : ∀ captured deliveryId messageId,
    pacer.info.lock.holder = some (.filter captured deliveryId messageId) →
    pacer.info.nextDeliveryId = 0
  positive : 1 ≤ pacer.redis.getD 1
  stores : ∀ value, .store value ∈ pacer.info.lock.tasks →
    1 ≤ value ∧ value ≤ pacer.info.nextDeliveryId

/-- The id `0` is not reported before the entry is initialised, and values
that others store in Redis are positive. -/
def KeepsSound (pacer : Pacer) : PacerAction → Prop
  | .onHandledNewItem deliveryId => deliveryId ≠ 0 ∨ pacer.info.initialized
  | .external value => 1 ≤ value.getD 1
  | _ => True

instance keepsSound_decidable :
    ∀ pacer action, Decidable (KeepsSound pacer action)
  | _, .onHandledNewItem _ => inferInstanceAs (Decidable (_ ∨ _))
  | _, .external _ => inferInstanceAs (Decidable (_ ≤ _))
  | _, .filterOrNot _ _ => .isTrue trivial
  | _, .wake _ => .isTrue trivial
  | _, .getReply _ => .isTrue trivial
  | _, .setReply _ => .isTrue trivial

section

variable {pacer next : Pacer} {action : PacerAction}
  {events : List PacerEvent}

theorem start_sound {redis : Option Int} (senderId : Int)
    (positive : 1 ≤ redis.getD 1) : Sound (start senderId redis) := by
  refine ⟨le_refl 0, fun _ => rfl, ?_, ?_, positive, ?_⟩
  · intro deliveryId member
    cases member
  · intro captured deliveryId messageId held
    cases held
  · intro value member
    cases member

theorem lt_following (pacer : Pacer) (deliveryId : Int) :
    deliveryId < pacer.following deliveryId := by
  have bound := IntSpan.le_firstMissing pacer.info.keys (deliveryId + 1)
  unfold following
  omega

theorem unready_iff (sound : Sound pacer) :
    ¬ pacer.info.initialized ↔ pacer.info.nextDeliveryId = 0 := by
  have started := sound.started
  unfold DeliveryInfo.initialized
  omega

theorem Sound.accept (sound : Sound pacer) (ready : pacer.info.initialized)
    (deliveryId messageId : Int) :
    Sound (pacer.accept deliveryId messageId).1 := by
  refine ⟨sound.started, ?_, ?_, sound.loader, sound.positive, sound.stores⟩
  · intro zero
    exact absurd zero (ne_of_gt ready)
  · intro handled member
    rcases List.mem_append.mp member with earlier | new
    · exact List.mem_cons_of_mem _ (sound.recorded handled earlier)
    · rw [List.mem_singleton.mp new]
      exact List.mem_cons_self

theorem Sound.withLock (sound : Sound pacer) {lock : AsyncLock PacerTask}
    (loader : ∀ captured deliveryId messageId,
      lock.holder = some (.filter captured deliveryId messageId) →
      pacer.info.nextDeliveryId = 0)
    (tasks : ∀ value, .store value ∈ lock.tasks →
      .store value ∈ pacer.info.lock.tasks) :
    Sound (pacer.withLock lock) :=
  ⟨sound.started, sound.blank, sound.recorded, loader, sound.positive,
    fun value member => sound.stores value (tasks value member)⟩

theorem Sound.beginLoad (sound : Sound pacer)
    (unready : ¬ pacer.info.initialized) {lock : AsyncLock PacerTask}
    (tasks : ∀ value, .store value ∈ lock.tasks →
      .store value ∈ pacer.info.lock.tasks) :
    Sound (pacer.beginLoad lock) :=
  ⟨sound.started, sound.blank, sound.recorded,
    fun _ _ _ _ => (unready_iff sound).mp unready, sound.positive,
    fun value member => sound.stores value (tasks value member)⟩

theorem Sound.release (sound : Sound pacer) {lock : AsyncLock PacerTask}
    (tasks : ∀ value, .store value ∈ lock.tasks →
      .store value ∈ pacer.info.lock.tasks) :
    Sound (pacer.withLock lock.release) := by
  apply sound.withLock
  · intro captured deliveryId messageId held
    cases held
  · intro value member
    exact tasks value (AsyncLock.mem_tasks_of_release member)

/-- The loader fills an entry that has neither ids nor stores. -/
theorem Sound.fill (sound : Sound pacer)
    {captured deliveryId messageId : Int}
    (held : pacer.info.lock.holder =
      some (.filter captured deliveryId messageId)) :
    Sound ((pacer.withLock pacer.info.lock.release).withNext
      (pacer.redis.getD 1)) := by
  have zero := sound.loader _ _ _ held
  have positive := sound.positive
  refine ⟨?_, fun _ => sound.blank zero, sound.recorded, ?_, positive, ?_⟩
  · exact le_trans (by decide) positive
  · intro captured deliveryId messageId held
    cases held
  · intro value member
    have bounds := sound.stores value (AsyncLock.mem_tasks_of_release member)
    omega

theorem Sound.finish (sound : Sound pacer) (deliveryId : Int) :
    Sound (pacer.finish deliveryId) :=
  ⟨sound.started, sound.blank,
    fun handled member =>
      sound.recorded handled (List.mem_of_mem_filter member),
    sound.loader, sound.positive, sound.stores⟩

theorem Sound.ready_of_reached (sound : Sound pacer) {deliveryId : Int}
    (keeps : KeepsSound pacer (.onHandledNewItem deliveryId))
    (reached : deliveryId = pacer.info.nextDeliveryId) :
    pacer.info.initialized := by
  rcases keeps with nonzero | ready
  · by_contra unready
    exact nonzero (reached.trans ((unready_iff sound).mp unready))
  · exact ready

theorem Sound.advance (sound : Sound pacer) {deliveryId : Int}
    {lock : AsyncLock PacerTask}
    (reached : deliveryId = pacer.info.nextDeliveryId)
    (ready : pacer.info.initialized)
    (loader : ∀ captured deliveryId messageId,
      lock.holder = some (.filter captured deliveryId messageId) →
      pacer.info.lock.holder =
        some (.filter captured deliveryId messageId))
    (tasks : ∀ task ∈ lock.tasks, task ∈ pacer.info.lock.tasks ∨
      task = .store (pacer.following deliveryId)) :
    Sound (((pacer.finish deliveryId).withNext
      (pacer.following deliveryId)).withLock lock) := by
  have further := pacer.lt_following deliveryId
  have positive : 0 < pacer.info.nextDeliveryId := ready
  refine ⟨?_, ?_, (sound.finish deliveryId).recorded, ?_, sound.positive, ?_⟩
  · show 0 ≤ pacer.following deliveryId
    omega
  · intro zero
    have : pacer.following deliveryId = 0 := zero
    omega
  · intro captured filtered messageId held
    have zero := sound.loader _ _ _ (loader _ _ _ held)
    omega
  · intro value member
    show 1 ≤ value ∧ value ≤ pacer.following deliveryId
    rcases tasks _ member with earlier | new
    · have bounds := sound.stores value earlier
      omega
    · simp only [PacerTask.store.injEq] at new
      omega

theorem Sound.stored (sound : Sound pacer) {value : Int} (applied : Bool)
    (held : pacer.info.lock.holder = some (.store value)) :
    Sound (pacer.stored value applied) := by
  have released := sound.release (fun _ member => member)
  have listed := AsyncLock.mem_tasks_of_held held
  refine ⟨released.started, released.blank, released.recorded,
    released.loader, ?_, released.stores⟩
  simp only [Pacer.stored]
  split
  · exact (sound.stores value listed).1
  · exact sound.positive

theorem Sound.moved (sound : Sound pacer)
    (keeps : KeepsSound pacer action)
    (moved : Moved pacer action next events) : Sound next := by
  cases moved with
  | ignored => exact sound
  | accepted ready => exact sound.accept ready _ _
  | loading unready free =>
      apply sound.beginLoad unready
      intro value member
      cases AsyncLock.mem_tasks_hold free member
  | waiting unready =>
      apply sound.withLock
      · exact sound.loader
      · intro value member
        rcases AsyncLock.mem_tasks_wait member with earlier | new
        · exact earlier
        · cases new
  | wokenIgnored resumed =>
      exact sound.release (fun _ => AsyncLock.mem_tasks_of_resume resumed)
  | wokenAccepted resumed ready =>
      have released :=
        sound.release (fun _ => AsyncLock.mem_tasks_of_resume resumed)
      exact released.accept ready _ _
  | wokenLoading resumed unready =>
      exact sound.beginLoad unready
        (fun _ => AsyncLock.mem_tasks_of_resume resumed)
  | wokenStoring resumed =>
      apply sound.withLock
      · intro captured deliveryId messageId held
        obtain ⟨_, _, holds, _⟩ := AsyncLock.resume_eq_some resumed
        rw [holds] at held
        cases held
      · exact fun _ => AsyncLock.mem_tasks_of_resume resumed
  | loadFailed held =>
      have released := sound.release (fun _ member => member)
      exact ⟨released.started, released.blank, released.recorded,
        released.loader, released.positive, released.stores⟩
  | loadIgnored held => exact sound.fill held
  | loadAccepted held =>
      apply (sound.fill held).accept
      exact lt_of_lt_of_le Int.zero_lt_one sound.positive
  | handledOther => exact sound.finish _
  | handledStoring reached free =>
      apply sound.advance reached (sound.ready_of_reached keeps reached)
      · intro captured deliveryId messageId held
        cases held
      · exact fun _ member => Or.inr (AsyncLock.mem_tasks_hold free member)
  | handledWaiting reached =>
      apply sound.advance reached (sound.ready_of_reached keeps reached)
      · exact fun _ _ _ held => held
      · exact fun _ member => AsyncLock.mem_tasks_wait member
  | stored held => exact sound.stored _ held
  | external =>
      exact ⟨sound.started, sound.blank, sound.recorded, sound.loader,
        keeps, sound.stores⟩

/-! ## New items -/

def newItem : PacerEvent → Option Int
  | .classified deliveryId _ .newItem => some deliveryId
  | _ => none

def newItems (trace : List PacerEvent) : List Int := trace.filterMap newItem

theorem newItems_append (trace events : List PacerEvent) :
    newItems (trace ++ events) = newItems trace ++ newItems events :=
  List.filterMap_append

/-- The new items so far are different and in the table. -/
structure Once (trace : List PacerEvent) (pacer : Pacer) : Prop where
  sound : Sound pacer
  distinct : (newItems trace).Nodup
  listed : ∀ deliveryId ∈ newItems trace, deliveryId ∈ pacer.info.keys

/-- A step that classifies at most one new item, which was not in the table
before. -/
theorem Once.extend {trace : List PacerEvent} (once : Once trace pacer)
    (sound : Sound next)
    (grown : ∀ deliveryId ∈ pacer.info.keys, deliveryId ∈ next.info.keys)
    (new : newItems events = [] ∨ ∃ deliveryId,
      newItems events = [deliveryId] ∧ deliveryId ∉ pacer.info.keys ∧
        deliveryId ∈ next.info.keys) :
    Once (trace ++ events) next := by
  rcases new with none | ⟨deliveryId, single, absent, present⟩
  · refine ⟨sound, ?_, ?_⟩
    · rw [newItems_append, none, List.append_nil]
      exact once.distinct
    · intro earlier member
      rw [newItems_append, none, List.append_nil] at member
      exact grown _ (once.listed earlier member)
  · refine ⟨sound, ?_, ?_⟩
    · rw [newItems_append, single]
      apply List.Nodup.append once.distinct (List.nodup_singleton _)
      intro earlier member same
      rw [List.mem_singleton.mp same] at member
      exact absent (once.listed deliveryId member)
    · intro earlier member
      rw [newItems_append, single] at member
      rcases List.mem_append.mp member with before | now
      · exact grown _ (once.listed earlier before)
      · rw [List.mem_singleton.mp now]
        exact present

theorem Once.moved {trace : List PacerEvent} (once : Once trace pacer)
    (keeps : KeepsSound pacer action)
    (moved : Moved pacer action next events) :
    Once (trace ++ events) next := by
  have sound := once.sound.moved keeps moved
  apply once.extend sound (fun _ => moved.keys_mono)
  cases moved with
  | accepted _ _ absent =>
      exact Or.inr ⟨_, rfl, absent, List.mem_cons_self⟩
  | wokenAccepted _ _ _ absent =>
      exact Or.inr ⟨_, rfl, absent, List.mem_cons_self⟩
  | loadAccepted held =>
      refine Or.inr ⟨_, rfl, ?_, List.mem_cons_self⟩
      rw [once.sound.blank (once.sound.loader _ _ _ held)]
      exact List.not_mem_nil
  | _ => exact Or.inl rfl

end

/-- No message of a sender is a new item twice, over all interleavings in
which the id `0` is not reported as handled before the sender's value has
been loaded. -/
theorem newItems_nodup (senderId : Int) (redis : Option Int)
    (positive : 1 ≤ redis.getD 1) (trace : List PacerEvent) (pacer : Pacer)
    (run : Run step KeepsSound (start senderId redis) trace pacer) :
    (newItems trace).Nodup := by
  have once : Once trace pacer := by
    apply run.invariant
    · refine ⟨start_sound senderId positive, List.nodup_nil, ?_⟩
      intro deliveryId member
      cases member
    · intro trace events pacer next action once keeps stepped
      exact once.moved keeps (step_moved stepped)
  exact once.distinct

/-- The id `5` is filtered by two coroutines, one of which loads the value
`1`; the other one waits for the lock and finds the id in the table. -/
theorem newItems_nodup_concurrent :
    newItems [.loaded 1, .classified 5 100 .newItem,
      .classified 5 100 .canIgnore, .handled 5] = [5] ∧
    (newItems [.loaded 1, .classified 5 100 .newItem,
      .classified 5 100 .canIgnore, .handled 5]).Nodup := by
  have executed : (exec step KeepsSound (start 7 none)
      [.filterOrNot 5 100, .filterOrNot 5 100, .getReply true, .wake 0,
        .onHandledNewItem 5]).map Prod.snd =
      some [.loaded 1, .classified 5 100 .newItem,
        .classified 5 100 .canIgnore, .handled 5] := by
    decide
  obtain ⟨pacer, run⟩ := Run.exists_of_exec executed
  exact ⟨rfl, newItems_nodup 7 none (by decide) _ pacer run⟩

/-- A message with the id `0` that could not be checked is sent to the
dead-letter queue and reported as handled while another coroutine loads the
value; the entry then counts as initialised and the id `5` is accepted twice. -/
theorem newItems_repeat_after_zero :
    ∃ trace pacer, AnyRun step (start 7 none) trace pacer ∧
      ¬ (newItems trace).Nodup := by
  have executed : (exec step (fun _ _ => True) (start 7 none)
      [.filterOrNot 0 99, .getReply false, .filterOrNot 5 100,
        .onHandledNewItem 0, .filterOrNot 5 101, .getReply true]).map
        Prod.snd =
      some [.classified 0 99 .retryRequired, .handled 0,
        .classified 5 101 .newItem, .loaded 1,
        .classified 5 100 .newItem] := by
    decide
  obtain ⟨pacer, run⟩ := Run.exists_of_exec executed
  exact ⟨_, pacer, run, by decide⟩

/-! ## Replayed messages -/

def loadedValue : PacerEvent → Option Int
  | .loaded value => some value
  | _ => none

/-- The value that was last read from Redis. -/
def lastLoaded (trace : List PacerEvent) : Option Int :=
  (trace.filterMap loadedValue).getLast?

/-- A message below the loaded value is not a new item, and it is ignored
if the value is a proper one. -/
def ReplayFiltered (before : List PacerEvent) : PacerEvent → Prop
  | .classified deliveryId _ state =>
      ∀ value ∈ lastLoaded before, deliveryId < value →
        state ≠ .newItem ∧ (1 ≤ value → state = .canIgnore)
  | _ => True

instance replayFiltered_decidable :
    ∀ before event, Decidable (ReplayFiltered before event)
  | _, .classified _ _ _ => inferInstanceAs (Decidable (∀ _ ∈ _, _ → _))
  | _, .loaded _ => .isTrue trivial
  | _, .handled _ => .isTrue trivial
  | _, .redisSet _ => .isTrue trivial

/-- A call of `filter_or_not` that waited for the lock and resumes on an
initialised entry compares with the value that it read before it waited; the
result is as with the present value. -/
def UpToDate (info : DeliveryInfo) : PacerTask → Prop
  | .filter captured deliveryId _ =>
      info.initialized → deliveryId < captured ∨ deliveryId ∈ info.keys ∨
        info.nextDeliveryId ≤ deliveryId
  | .store _ => True

def WakesUpToDate (pacer : Pacer) : PacerAction → Prop
  | .wake index =>
      ∀ task ∈ pacer.info.lock.waiters[index]?,
        UpToDate pacer.info task
  | _ => True

instance upToDate_decidable (info : DeliveryInfo) :
    ∀ task, Decidable (UpToDate info task)
  | .filter _ _ _ => inferInstanceAs (Decidable (_ → _ ∨ _ ∨ _))
  | .store _ => .isTrue trivial

instance wakesUpToDate_decidable :
    ∀ pacer action, Decidable (WakesUpToDate pacer action)
  | _, .wake _ => inferInstanceAs (Decidable (∀ _ ∈ _, _))
  | _, .filterOrNot _ _ => .isTrue trivial
  | _, .getReply _ => .isTrue trivial
  | _, .onHandledNewItem _ => .isTrue trivial
  | _, .setReply _ => .isTrue trivial
  | _, .external _ => .isTrue trivial

section

variable {pacer next : Pacer} {action : PacerAction}
  {trace events : List PacerEvent}

theorem lastLoaded_append (unloaded : events.filterMap loadedValue = []) :
    lastLoaded (trace ++ events) = lastLoaded trace := by
  unfold lastLoaded
  rw [List.filterMap_append, unloaded, List.append_nil]

theorem lastLoaded_concat (trace : List PacerEvent) (value : Int) :
    lastLoaded (trace ++ [PacerEvent.loaded value]) = some value := by
  unfold lastLoaded
  rw [List.filterMap_append]
  exact List.getLast?_concat

theorem wokenAccepted_upToDate {index : Nat}
    {captured deliveryId messageId : Int} {lock : AsyncLock PacerTask}
    (current : WakesUpToDate pacer (.wake index))
    (resumed : pacer.info.lock.resume index =
      some (.filter captured deliveryId messageId, lock))
    (ready : pacer.info.initialized) (fresh : captured ≤ deliveryId)
    (absent : deliveryId ∉ pacer.info.keys) :
    pacer.info.nextDeliveryId ≤ deliveryId := by
  obtain ⟨_, present, _, _⟩ := AsyncLock.resume_eq_some resumed
  rcases current _ present ready with below | known | above
  · exact absurd fresh (not_le_of_gt below)
  · exact absurd known absent
  · exact above

/-- The watermark stays above the loaded value, and a coroutine loads again
only if the value was not a proper one. -/
structure Replay (trace : List PacerEvent) (pacer : Pacer) : Prop where
  above : ∀ value ∈ lastLoaded trace, value ≤ pacer.info.nextDeliveryId
  loader : ∀ captured deliveryId messageId,
    pacer.info.lock.holder = some (.filter captured deliveryId messageId) →
    ∀ value ∈ lastLoaded trace, value ≤ 0
  filtered : EachEvent ReplayFiltered [] trace

theorem Replay.extend (replay : Replay trace pacer)
    (unloaded : events.filterMap loadedValue = [])
    (grown : pacer.info.nextDeliveryId ≤ next.info.nextDeliveryId)
    (loader : ∀ captured deliveryId messageId,
      next.info.lock.holder = some (.filter captured deliveryId messageId) →
      pacer.info.lock.holder =
          some (.filter captured deliveryId messageId) ∨
        ¬ pacer.info.initialized)
    (filtered : EachEvent ReplayFiltered trace events) :
    Replay (trace ++ events) next := by
  refine ⟨?_, ?_, ?_⟩
  · intro value member
    rw [lastLoaded_append unloaded] at member
    exact le_trans (replay.above value member) grown
  · intro captured deliveryId messageId held value member
    rw [lastLoaded_append unloaded] at member
    rcases loader _ _ _ held with before | unready
    · exact replay.loader _ _ _ before value member
    · exact le_trans (replay.above value member) (le_of_not_gt unready)
  · rw [eachEvent_append]
    exact ⟨replay.filtered, filtered⟩

theorem Replay.load (replay : Replay trace pacer) {value : Int}
    {deliveryId messageId : Int} {state : FilterState}
    (reached : next.info.nextDeliveryId = value)
    (released : next.info.lock.holder = none)
    (filtered : deliveryId < value → state = .canIgnore) :
    Replay
      (trace ++
        [PacerEvent.loaded value, .classified deliveryId messageId state])
      next := by
  have latest : lastLoaded (trace ++
      [PacerEvent.loaded value, .classified deliveryId messageId state]) =
      some value := by
    rw [← lastLoaded_concat trace value, List.append_cons]
    exact lastLoaded_append rfl
  refine ⟨?_, ?_, ?_⟩
  · intro other member
    rw [latest] at member
    cases member
    exact le_of_eq reached.symm
  · intro captured deliveryId messageId held
    rw [released] at held
    cases held
  · rw [eachEvent_append]
    refine ⟨replay.filtered, trivial, ?_, trivial⟩
    intro other member below
    rw [List.nil_append, lastLoaded_concat] at member
    cases member
    rw [filtered below]
    exact ⟨by decide, fun _ => rfl⟩

theorem replayFiltered_ignored (before : List PacerEvent)
    (deliveryId messageId : Int) :
    ReplayFiltered before (.classified deliveryId messageId .canIgnore) :=
  fun _ _ _ => ⟨by decide, fun _ => rfl⟩

theorem Replay.accepts (replay : Replay trace pacer) {deliveryId : Int}
    (messageId : Int) (fresh : pacer.info.nextDeliveryId ≤ deliveryId) :
    ReplayFiltered trace (.classified deliveryId messageId .newItem) := by
  intro value member below
  have above := replay.above value member
  omega

theorem Replay.moved (replay : Replay trace pacer)
    (current : WakesUpToDate pacer action)
    (moved : Moved pacer action next events) :
    Replay (trace ++ events) next := by
  cases moved with
  | ignored =>
      refine replay.extend rfl (le_refl _)
        (fun _ _ _ held => Or.inl held) ?_
      exact ⟨replayFiltered_ignored _ _ _, trivial⟩
  | accepted _ fresh =>
      refine replay.extend rfl (le_refl _)
        (fun _ _ _ held => Or.inl held) ?_
      exact ⟨replay.accepts _ fresh, trivial⟩
  | loading unready =>
      exact replay.extend rfl (le_refl _) (fun _ _ _ _ => Or.inr unready)
        trivial
  | waiting =>
      exact replay.extend rfl (le_refl _) (fun _ _ _ held => Or.inl held)
        trivial
  | wokenIgnored =>
      refine replay.extend rfl (le_refl _) (fun _ _ _ held => nomatch held) ?_
      exact ⟨replayFiltered_ignored _ _ _, trivial⟩
  | wokenAccepted resumed ready fresh absent =>
      have above :=
        wokenAccepted_upToDate current resumed ready fresh absent
      refine replay.extend rfl (le_refl _) (fun _ _ _ held => nomatch held) ?_
      exact ⟨replay.accepts _ above, trivial⟩
  | wokenLoading _ unready =>
      exact replay.extend rfl (le_refl _) (fun _ _ _ _ => Or.inr unready)
        trivial
  | wokenStoring resumed =>
      refine replay.extend rfl (le_refl _) ?_ ⟨trivial, trivial⟩
      intro captured deliveryId messageId held
      obtain ⟨_, _, holds, _⟩ := AsyncLock.resume_eq_some resumed
      cases holds.symm.trans held
  | loadFailed held =>
      refine replay.extend rfl (le_refl _) (fun _ _ _ held => nomatch held) ?_
      refine ⟨?_, trivial⟩
      intro value member below
      have improper := replay.loader _ _ _ held value member
      exact ⟨by decide, fun proper => by omega⟩
  | loadIgnored => exact replay.load rfl rfl (fun _ => rfl)
  | loadAccepted _ fresh =>
      refine replay.load rfl rfl ?_
      intro below
      exact absurd fresh (not_le_of_gt below)
  | handledOther =>
      exact replay.extend rfl (le_refl _) (fun _ _ _ held => Or.inl held)
        ⟨trivial, trivial⟩
  | @handledStoring deliveryId reached =>
      refine replay.extend rfl ?_ (fun _ _ _ held => nomatch held)
        ⟨trivial, trivial, trivial⟩
      rw [← reached]
      exact le_of_lt (pacer.lt_following deliveryId)
  | @handledWaiting deliveryId reached =>
      refine replay.extend rfl ?_ (fun _ _ _ held => Or.inl held)
        ⟨trivial, trivial⟩
      rw [← reached]
      exact le_of_lt (pacer.lt_following deliveryId)
  | stored =>
      exact replay.extend rfl (le_refl _) (fun _ _ _ held => nomatch held)
        trivial
  | external =>
      exact replay.extend rfl (le_refl _) (fun _ _ _ held => Or.inl held)
        trivial

end

/-- A message below the value that was loaded from Redis is not classified
as a new item, over all interleavings in which no call resumes with an
outdated value after it waited for the lock. -/
theorem replayed_not_new (senderId : Int) (redis : Option Int)
    (trace : List PacerEvent) (pacer : Pacer)
    (run : Run step WakesUpToDate (start senderId redis) trace pacer) :
    EachEvent ReplayFiltered [] trace := by
  have replay : Replay trace pacer := by
    apply run.invariant
    · refine ⟨?_, ?_, trivial⟩
      · intro value member
        cases member
      · intro captured deliveryId messageId held
        cases held
    · intro trace events pacer next action replay current stepped
      exact replay.moved current (step_moved stepped)
  exact replay.filtered

/-- Two messages of a sender are replayed one after the other after a
restart and both are ignored. -/
theorem replayed_not_new_sequential :
    EachEvent ReplayFiltered []
      [.loaded 5, .classified 1 100 .canIgnore,
        .classified 2 101 .canIgnore] := by
  have executed : (exec step WakesUpToDate (start 7 (some 5))
      [.filterOrNot 1 100, .getReply true, .filterOrNot 2 101]).map
        Prod.snd =
      some [.loaded 5, .classified 1 100 .canIgnore,
        .classified 2 101 .canIgnore] := by
    decide
  obtain ⟨pacer, run⟩ := Run.exists_of_exec executed
  exact replayed_not_new 7 (some 5) _ pacer run

/-- The second of two replayed messages waits while the first one loads the
value `5`, and then compares its id with the value `0` from before. -/
theorem replayed_new_after_wait :
    ∃ trace pacer, AnyRun step (start 7 (some 5)) trace pacer ∧
      ¬ EachEvent ReplayFiltered [] trace := by
  have executed : (exec step (fun _ _ => True) (start 7 (some 5))
      [.filterOrNot 1 100, .filterOrNot 2 101, .getReply true,
        .wake 0]).map Prod.snd =
      some [.loaded 5, .classified 1 100 .canIgnore,
        .classified 2 101 .newItem] := by
    decide
  obtain ⟨pacer, run⟩ := Run.exists_of_exec executed
  exact ⟨_, pacer, run, by decide⟩

/-! ## The watermark -/

def trackHandling (handling : List Int) : PacerEvent → List Int
  | .classified deliveryId _ .newItem => handling ++ [deliveryId]
  | .handled deliveryId => handling.filter (· ≠ deliveryId)
  | _ => handling

/-- The new items for which `on_handled_new_item` has not been called. -/
def outstanding (trace : List PacerEvent) : List Int :=
  trace.foldl trackHandling []

/-- A value that is sent to Redis passes no outstanding message. -/
def StoresBelow (before : List PacerEvent) : PacerEvent → Prop
  | .redisSet value => ∀ deliveryId ∈ outstanding before, value ≤ deliveryId
  | _ => True

instance storesBelow_decidable :
    ∀ before event, Decidable (StoresBelow before event)
  | _, .redisSet _ => inferInstanceAs (Decidable (∀ _ ∈ _, _ ≤ _))
  | _, .classified _ _ _ => .isTrue trivial
  | _, .loaded _ => .isTrue trivial
  | _, .handled _ => .isTrue trivial

/-- The message at the watermark is reported as handled only if no later
message that is still being handled follows it without a gap in the table. -/
def HandlesBeforeGap (pacer : Pacer) : PacerAction → Prop
  | .onHandledNewItem deliveryId =>
      deliveryId = pacer.info.nextDeliveryId →
      ∀ later ∈ pacer.handling, deliveryId < later →
        ¬ ∀ between, deliveryId < between → between < later →
          between ∈ pacer.info.keys
  | _ => True

instance handlesBeforeGap_decidable :
    ∀ pacer action, Decidable (HandlesBeforeGap pacer action)
  | _, .onHandledNewItem _ => inferInstanceAs (Decidable (_ → ∀ _ ∈ _, _))
  | _, .filterOrNot _ _ => .isTrue trivial
  | _, .wake _ => .isTrue trivial
  | _, .getReply _ => .isTrue trivial
  | _, .setReply _ => .isTrue trivial
  | _, .external _ => .isTrue trivial

/-- What the watermark needs of the order in which messages are handled. -/
def KeepsWatermark (pacer : Pacer) (action : PacerAction) : Prop :=
  KeepsSound pacer action ∧ WakesUpToDate pacer action ∧
    HandlesBeforeGap pacer action

instance keepsWatermark_decidable (pacer : Pacer) (action : PacerAction) :
    Decidable (KeepsWatermark pacer action) :=
  inferInstanceAs (Decidable (_ ∧ _ ∧ _))

section

variable {pacer next : Pacer} {action : PacerAction}
  {trace events : List PacerEvent}

theorem outstanding_append (trace events : List PacerEvent) :
    outstanding (trace ++ events) =
      events.foldl trackHandling (outstanding trace) :=
  List.foldl_append

theorem handling_moved (same : pacer.handling = outstanding trace)
    (moved : Moved pacer action next events) :
    next.handling = outstanding (trace ++ events) := by
  rw [outstanding_append, ← same]
  cases moved with
  | _ => rfl

/-- No outstanding message is below the watermark. -/
structure Watermark (trace : List PacerEvent) (pacer : Pacer) : Prop where
  sound : Sound pacer
  tracked : pacer.handling = outstanding trace
  bound : ∀ deliveryId ∈ pacer.handling,
    pacer.info.nextDeliveryId ≤ deliveryId
  stores : EachEvent StoresBelow [] trace

theorem following_le {deliveryId : Int}
    (bound : ∀ handled ∈ pacer.handling,
      pacer.info.nextDeliveryId ≤ handled)
    (gaps : HandlesBeforeGap pacer (.onHandledNewItem deliveryId))
    (reached : deliveryId = pacer.info.nextDeliveryId) :
    ∀ later ∈ (pacer.finish deliveryId).handling,
      pacer.following deliveryId ≤ later := by
  intro later member
  obtain ⟨listed, different⟩ := List.mem_filter.mp member
  have above := bound later listed
  have distinct : later ≠ deliveryId := by simpa using different
  by_contra beyond
  refine gaps reached later listed (by omega) ?_
  intro between lower upper
  have inside : between < pacer.following deliveryId := by omega
  exact IntSpan.mem_of_lt_firstMissing lower inside

theorem Sound.notMem_handling (sound : Sound pacer)
    {captured deliveryId messageId : Int}
    (held : pacer.info.lock.holder =
      some (.filter captured deliveryId messageId)) (handled : Int) :
    handled ∉ pacer.handling := by
  intro member
  have blank := sound.blank (sound.loader _ _ _ held)
  have listed := sound.recorded handled member
  rw [blank] at listed
  cases listed

theorem bound_append {deliveryId bound : Int} {handling : List Int}
    (earlier : ∀ handled ∈ handling, bound ≤ handled)
    (new : bound ≤ deliveryId) :
    ∀ handled ∈ handling ++ [deliveryId], bound ≤ handled := by
  intro handled member
  rcases List.mem_append.mp member with before | now
  · exact earlier handled before
  · rw [List.mem_singleton.mp now]
    exact new

theorem Watermark.bound_moved (watermark : Watermark trace pacer)
    (keeps : KeepsWatermark pacer action)
    (moved : Moved pacer action next events) :
    ∀ deliveryId ∈ next.handling,
      next.info.nextDeliveryId ≤ deliveryId := by
  obtain ⟨_, current, gaps⟩ := keeps
  cases moved with
  | accepted _ fresh => exact bound_append watermark.bound fresh
  | wokenAccepted resumed ready fresh absent =>
      have above :=
        wokenAccepted_upToDate current resumed ready fresh absent
      exact bound_append watermark.bound above
  | loadIgnored held =>
      intro deliveryId member
      exact absurd member (watermark.sound.notMem_handling held deliveryId)
  | loadAccepted held fresh =>
      refine bound_append ?_ fresh
      intro deliveryId member
      exact absurd member (watermark.sound.notMem_handling held deliveryId)
  | handledOther =>
      intro deliveryId member
      exact watermark.bound deliveryId (List.mem_of_mem_filter member)
  | handledStoring reached =>
      exact following_le watermark.bound gaps reached
  | handledWaiting reached =>
      exact following_le watermark.bound gaps reached
  | _ => exact watermark.bound

theorem Watermark.stores_moved (watermark : Watermark trace pacer)
    (keeps : KeepsWatermark pacer action)
    (moved : Moved pacer action next events) :
    EachEvent StoresBelow trace events := by
  obtain ⟨_, _, gaps⟩ := keeps
  cases moved with
  | @wokenStoring index value lock resumed =>
      refine ⟨?_, trivial⟩
      intro deliveryId member
      rw [← watermark.tracked] at member
      have pending := AsyncLock.mem_tasks_of_resumed resumed
      exact le_trans (watermark.sound.stores value pending).2
        (watermark.bound deliveryId member)
  | @handledStoring deliveryId reached =>
      refine ⟨trivial, ?_, trivial⟩
      intro later member
      rw [outstanding_append, ← watermark.tracked] at member
      exact following_le watermark.bound gaps reached later member
  | loadIgnored => exact ⟨trivial, trivial, trivial⟩
  | loadAccepted => exact ⟨trivial, trivial, trivial⟩
  | loading => trivial
  | waiting => trivial
  | wokenLoading => trivial
  | stored => trivial
  | external => trivial
  | _ => exact ⟨trivial, trivial⟩

theorem Watermark.moved (watermark : Watermark trace pacer)
    (keeps : KeepsWatermark pacer action)
    (moved : Moved pacer action next events) :
    Watermark (trace ++ events) next := by
  refine ⟨watermark.sound.moved keeps.1 moved,
    handling_moved watermark.tracked moved,
    watermark.bound_moved keeps moved, ?_⟩
  rw [eachEvent_append]
  exact ⟨watermark.stores, watermark.stores_moved keeps moved⟩

end

/-- Neither the watermark nor a value that is sent to Redis passes a new item
that has not been reported as handled, as long as messages that follow each
other without a gap are reported in descending order. -/
theorem watermark_below_outstanding (senderId : Int) (redis : Option Int)
    (positive : 1 ≤ redis.getD 1) (trace : List PacerEvent) (pacer : Pacer)
    (run : Run step KeepsWatermark (start senderId redis) trace pacer) :
    EachEvent StoresBelow [] trace ∧
      ∀ deliveryId ∈ outstanding trace,
        pacer.info.nextDeliveryId ≤ deliveryId := by
  have watermark : Watermark trace pacer := by
    apply run.invariant
    · refine ⟨start_sound senderId positive, rfl, ?_, trivial⟩
      intro deliveryId member
      cases member
    · intro trace events pacer next action watermark keeps stepped
      exact watermark.moved keeps (step_moved stepped)
  refine ⟨watermark.stores, ?_⟩
  rw [← watermark.tracked]
  exact watermark.bound

/-- The messages `1` and `2` are handled concurrently; `2` ends first. -/
theorem watermark_below_outstanding_descending :
    EachEvent StoresBelow []
      [.loaded 1, .classified 1 100 .newItem, .classified 2 101 .newItem,
        .handled 2, .handled 1, .redisSet 3] := by
  have executed : (exec step KeepsWatermark (start 7 none)
      [.filterOrNot 1 100, .getReply true, .filterOrNot 2 101,
        .onHandledNewItem 2, .onHandledNewItem 1, .setReply true]).map
        Prod.snd =
      some [.loaded 1, .classified 1 100 .newItem,
        .classified 2 101 .newItem, .handled 2, .handled 1,
        .redisSet 3] := by
    decide
  obtain ⟨pacer, run⟩ := Run.exists_of_exec executed
  exact (watermark_below_outstanding 7 none (by decide) _ pacer run).1

/-- The messages `1` and `2` are handled concurrently; when `1` ends first,
the value `3` is stored while `2` is still being handled. -/
theorem watermark_passes_outstanding :
    ∃ trace pacer, AnyRun step (start 7 none) trace pacer ∧
      ¬ EachEvent StoresBelow [] trace ∧
      ∃ deliveryId ∈ outstanding trace,
        deliveryId < pacer.info.nextDeliveryId := by
  have executed : (exec step (fun _ _ => True) (start 7 none)
      [.filterOrNot 1 100, .getReply true, .filterOrNot 2 101,
        .onHandledNewItem 1]).map (fun result =>
          (result.2, result.1.info.nextDeliveryId)) =
      some ([.loaded 1, .classified 1 100 .newItem,
        .classified 2 101 .newItem, .handled 1, .redisSet 3], 3) := by
    decide
  obtain ⟨⟨pacer, trace⟩, result, same⟩ :=
    Option.map_eq_some_iff.mp executed
  simp only [Prod.mk.injEq] at same
  obtain ⟨rfl, reached⟩ := same
  refine ⟨_, pacer, .of_exec result, by decide, 2, by decide, ?_⟩
  rw [reached]
  decide

end Pacer

end Worker

end TinyChat
