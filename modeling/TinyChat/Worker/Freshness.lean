import TinyChat.Front.UserSession
import TinyChat.Storage.Inbox
import TinyChat.Worker.PacerSteps

/-!
# Fresh messages and duplicates

Two filters take messages of a sender with the same delivery id for copies
of one message: the pacer of the worker, over all restarts of the worker, and
`ReadInbox`.  They are right as long as the clients of the sender never use
an id twice.
-/

namespace TinyChat

namespace Worker

open Transition

/-- A worker over its restarts, with the stores that were under way when it
stopped and may still reach Redis. -/
structure Life where
  pacer : Pacer
  late : List Int := []

inductive LifeAction where
  | pacer (action : PacerAction)
  | restart
  | lands (value : Int)

namespace Life

def start (senderId : Int) : Life := { pacer := .start senderId none }

/-- The value of a store that has been sent to Redis. -/
def inFlight (info : DeliveryInfo) : List Int :=
  match info.lock.holder with
  | some (.store value) => [value]
  | _ => []

def step : Step Life LifeAction PacerEvent
  | life, .pacer action =>
      match Pacer.step life.pacer action with
      | some (pacer, events) => some ({ life with pacer := pacer }, events)
      | none => none
  | life, .restart =>
      some ({ pacer := .start life.pacer.senderId life.pacer.redis
              late := life.late ++ inFlight life.pacer.info }, [])
  | life, .lands value =>
      if value ∈ life.late then
        some ({ pacer := { life.pacer with redis := some value }
                late := life.late.erase value }, [])
      else none

/-- The messages that reach the worker were sent: `ids` lists the delivery
ids of the messages that the clients created, and `origin` tells for a
message id to which of them it belongs.  A resent message gets another
message id of the same origin.  Messages are reported after they were
classified, and the value in Redis is only lost, not changed, by others. -/
def PacerDelivers (ids : List Int) (origin : Int → Nat) (pacer : Pacer) :
    PacerAction → Prop
  | .filterOrNot deliveryId messageId =>
      ids[origin messageId]? = some deliveryId
  | .onHandledNewItem deliveryId => deliveryId ∈ pacer.unfinished
  | .external value => value = none
  | _ => True

def Delivers (ids : List Int) (origin : Int → Nat) (life : Life) :
    LifeAction → Prop
  | .pacer action => PacerDelivers ids origin life.pacer action
  | .restart => True
  | .lands _ => True

instance delivers_decidable (ids : List Int) (origin : Int → Nat) :
    ∀ life action, Decidable (Delivers ids origin life action)
  | _, .pacer (.filterOrNot _ _) => inferInstanceAs (Decidable (_ = _))
  | _, .pacer (.onHandledNewItem _) => inferInstanceAs (Decidable (_ ∈ _))
  | _, .pacer (.external _) => inferInstanceAs (Decidable (_ = _))
  | _, .pacer (.wake _) => .isTrue trivial
  | _, .pacer (.getReply _) => .isTrue trivial
  | _, .pacer (.setReply _) => .isTrue trivial
  | _, .restart => .isTrue trivial
  | _, .lands _ => .isTrue trivial

/-- The message was handed on, to be handled or to be retried. -/
def Taken : FilterState → Prop
  | .newItem => True
  | .retryRequired => True
  | .newVersion => False
  | .canIgnore => False

/-- A message is ignored only after a copy of it was taken. -/
def TakenFirst (origin : Int → Nat) (before : List PacerEvent) :
    PacerEvent → Prop
  | .classified deliveryId messageId .canIgnore =>
      ∃ earlier state, .classified deliveryId earlier state ∈ before ∧
        Taken state ∧ origin earlier = origin messageId
  | _ => True

def Settled (trace : List PacerEvent) (deliveryId : Int) : Prop :=
  ∃ messageId state, .classified deliveryId messageId state ∈ trace ∧
    Taken state

def SettledBelow (trace : List PacerEvent) (bound : Int) : Prop :=
  ∀ deliveryId, 1 ≤ deliveryId → deliveryId < bound →
    Settled trace deliveryId

section

variable {ids : List Int} {origin : Int → Nat}
  {trace events : List PacerEvent} {pacer next : Pacer}
  {action : PacerAction}

theorem Settled.append {deliveryId : Int} (settled : Settled trace deliveryId)
    (events : List PacerEvent) : Settled (trace ++ events) deliveryId := by
  obtain ⟨messageId, state, member, taken⟩ := settled
  exact ⟨messageId, state, List.mem_append_left _ member, taken⟩

theorem SettledBelow.append {bound : Int}
    (settled : SettledBelow trace bound) (events : List PacerEvent) :
    SettledBelow (trace ++ events) bound :=
  fun deliveryId lower upper =>
    (settled deliveryId lower upper).append events

theorem takenFirst_mono (origin : Int → Nat)
    (before later : List PacerEvent) (event : PacerEvent)
    (good : TakenFirst origin before event) :
    TakenFirst origin (before ++ later) event := by
  cases event with
  | classified deliveryId messageId state =>
      cases state with
      | canIgnore =>
          obtain ⟨earlier, state, member, taken, same⟩ := good
          exact ⟨earlier, state, List.mem_append_left _ member, taken, same⟩
      | _ => trivial
  | _ => trivial

/-- Every id that the pacer takes for handled was taken before. -/
structure Fresh (ids : List Int) (origin : Int → Nat)
    (trace : List PacerEvent) (pacer : Pacer) : Prop where
  keys : ∀ deliveryId ∈ pacer.info.keys, Settled trace deliveryId
  unfinished : ∀ deliveryId ∈ pacer.unfinished, Settled trace deliveryId
  next : SettledBelow trace pacer.info.nextDeliveryId
  redis : SettledBelow trace (pacer.redis.getD 1)
  stores : ∀ value, .store value ∈ pacer.info.lock.tasks →
    SettledBelow trace value
  filters : ∀ captured deliveryId messageId,
    .filter captured deliveryId messageId ∈ pacer.info.lock.tasks →
    ids[origin messageId]? = some deliveryId ∧ SettledBelow trace captured
  sources : ∀ deliveryId messageId state,
    .classified deliveryId messageId state ∈ trace →
    ids[origin messageId]? = some deliveryId
  taken : EachEvent (TakenFirst origin) [] trace

theorem Fresh.classified (fresh : Fresh ids origin trace pacer)
    (delivers : PacerDelivers ids origin pacer action)
    (moved : Pacer.Moved pacer action next events)
    {deliveryId messageId : Int} {state : FilterState}
    (member : .classified deliveryId messageId state ∈ events) :
    ids[origin messageId]? = some deliveryId := by
  rcases moved.classified_origin member with called | ⟨captured, waited⟩
  · rw [called] at delivers
    exact delivers
  · exact (fresh.filters captured deliveryId messageId waited).1

theorem settled_of_event {deliveryId messageId : Int} {state : FilterState}
    (member : .classified deliveryId messageId state ∈ events)
    (taken : Taken state) : Settled (trace ++ events) deliveryId :=
  ⟨messageId, state, List.mem_append_right _ member, taken⟩

theorem Fresh.following (fresh : Fresh ids origin trace pacer)
    {handled : Int} (reported : handled ∈ pacer.unfinished)
    (reached : handled = pacer.info.nextDeliveryId) :
    SettledBelow trace (pacer.following handled) := by
  intro deliveryId lower upper
  rcases lt_trichotomy deliveryId handled with below | same | above
  · rw [reached] at below
    exact fresh.next deliveryId lower below
  · rw [same]
    exact fresh.unfinished handled reported
  · exact fresh.keys deliveryId
      (IntSpan.mem_of_lt_firstMissing above upper)

theorem Fresh.next_moved (fresh : Fresh ids origin trace pacer)
    (delivers : PacerDelivers ids origin pacer action)
    (moved : Pacer.Moved pacer action next events) :
    SettledBelow trace next.info.nextDeliveryId := by
  rcases moved.next_origin with
    same | loaded | ⟨handled, called, reached, moves⟩
  · rw [same]
    exact fresh.next
  · rw [loaded]
    exact fresh.redis
  · rw [called] at delivers
    rw [moves]
    exact fresh.following delivers reached

theorem Fresh.redis_moved (fresh : Fresh ids origin trace pacer)
    (delivers : PacerDelivers ids origin pacer action)
    (moved : Pacer.Moved pacer action next events) :
    SettledBelow trace (next.redis.getD 1) := by
  rcases moved.redis_origin with same | ⟨value, pending, stored⟩ | lost
  · rw [same]
    exact fresh.redis
  · rw [stored]
    exact fresh.stores value pending
  · rw [lost] at delivers
    have gone : next.redis = none := delivers
    rw [gone]
    intro deliveryId lower upper
    simp only [Option.getD_none] at upper
    omega

/-- An ignored message has an id that was taken before. -/
theorem Fresh.ignored (fresh : Fresh ids origin trace pacer)
    (moved : Pacer.Moved pacer action next events)
    {deliveryId messageId : Int} (positive : 1 ≤ deliveryId)
    (member : .classified deliveryId messageId .canIgnore ∈ events) :
    Settled trace deliveryId := by
  rcases moved.ignored_origin member with
    below | listed | stored | ⟨captured, waited, below⟩
  · exact fresh.next deliveryId positive below
  · exact fresh.keys deliveryId listed
  · exact fresh.redis deliveryId positive stored
  · exact (fresh.filters captured deliveryId messageId waited).2
      deliveryId positive below

theorem Fresh.takenFirst (fresh : Fresh ids origin trace pacer)
    (distinct : ids.Nodup) {deliveryId messageId : Int}
    (sent : ids[origin messageId]? = some deliveryId)
    (settled : Settled trace deliveryId) :
    TakenFirst origin trace
      (.classified deliveryId messageId .canIgnore) := by
  obtain ⟨earlier, state, member, taken⟩ := settled
  refine ⟨earlier, state, member, taken, ?_⟩
  have source := fresh.sources deliveryId earlier state member
  obtain ⟨bound, _⟩ := List.getElem?_eq_some_iff.mp source
  exact (List.getElem?_inj bound distinct).mp (source.trans sent.symm)

theorem Fresh.moved (fresh : Fresh ids origin trace pacer)
    (distinct : ids.Nodup) (positive : ∀ deliveryId ∈ ids, 1 ≤ deliveryId)
    (delivers : PacerDelivers ids origin pacer action)
    (moved : Pacer.Moved pacer action next events) :
    Fresh ids origin (trace ++ events) next := by
  refine ⟨?_, ?_, (fresh.next_moved delivers moved).append events,
    (fresh.redis_moved delivers moved).append events, ?_, ?_, ?_, ?_⟩
  · intro deliveryId member
    rcases moved.key_origin member with earlier | ⟨messageId, new⟩
    · exact (fresh.keys deliveryId earlier).append events
    · exact settled_of_event new trivial
  · intro deliveryId member
    rcases moved.unfinished_origin member with
      earlier | ⟨messageId, state, new, rfl | rfl⟩
    · exact (fresh.unfinished deliveryId earlier).append events
    · exact settled_of_event new trivial
    · exact settled_of_event new trivial
  · intro value member
    rcases moved.task_origin member with
      earlier | ⟨_, _, _, _, other⟩ | ⟨handled, called, reached, same⟩
    · exact (fresh.stores value earlier).append events
    · cases other
    · cases same
      rw [called] at delivers
      exact (fresh.following delivers reached).append events
  · intro captured deliveryId messageId member
    rcases moved.task_origin member with
      earlier | ⟨_, _, called, _, same⟩ | ⟨_, _, _, other⟩
    · have before := fresh.filters captured deliveryId messageId earlier
      exact ⟨before.1, before.2.append events⟩
    · cases same
      rw [called] at delivers
      exact ⟨delivers, fresh.next.append events⟩
    · cases other
  · intro deliveryId messageId state member
    rcases List.mem_append.mp member with earlier | now
    · exact fresh.sources deliveryId messageId state earlier
    · exact fresh.classified delivers moved now
  · rw [eachEvent_append]
    refine ⟨fresh.taken, eachEvent_of_mono (takenFirst_mono origin) ?_⟩
    intro event member
    cases event with
    | classified deliveryId messageId state =>
        cases state with
        | canIgnore =>
            have sent := fresh.classified delivers moved member
            have least := positive deliveryId
              (List.mem_of_getElem? sent)
            exact fresh.takenFirst distinct sent
              (fresh.ignored moved least member)
        | _ => trivial
    | _ => trivial

theorem start_fresh (ids : List Int) (origin : Int → Nat) (senderId : Int)
    {redis : Option Int} (settled : SettledBelow trace (redis.getD 1))
    (sources : ∀ deliveryId messageId state,
      .classified deliveryId messageId state ∈ trace →
      ids[origin messageId]? = some deliveryId)
    (taken : EachEvent (TakenFirst origin) [] trace) :
    Fresh ids origin trace (.start senderId redis) := by
  refine ⟨?_, ?_, ?_, settled, ?_, ?_, sources, taken⟩
  · intro deliveryId member
    cases member
  · intro deliveryId member
    cases member
  · intro deliveryId lower upper
    have below : deliveryId < 0 := upper
    omega
  · intro value member
    cases member
  · intro captured deliveryId messageId member
    cases member

/-- The pacer is fresh, and the stores of former workers are as good as the
present ones. -/
structure FreshLife (ids : List Int) (origin : Int → Nat)
    (trace : List PacerEvent) (life : Life) : Prop where
  pacer : Fresh ids origin trace life.pacer
  late : ∀ value ∈ life.late, SettledBelow trace value

theorem Fresh.inFlight (fresh : Fresh ids origin trace pacer) :
    ∀ value ∈ inFlight pacer.info, SettledBelow trace value := by
  intro value member
  unfold Life.inFlight at member
  split at member
  · rename_i stored held
    rw [List.mem_singleton.mp member]
    exact fresh.stores stored (AsyncLock.mem_tasks_of_held held)
  · cases member

theorem FreshLife.step {life final : Life} {action : LifeAction}
    (fresh : FreshLife ids origin trace life)
    (distinct : ids.Nodup) (positive : ∀ deliveryId ∈ ids, 1 ≤ deliveryId)
    (delivers : Delivers ids origin life action)
    (stepped : step life action = some (final, events)) :
    FreshLife ids origin (trace ++ events) final := by
  cases action with
  | pacer action =>
      simp only [Life.step] at stepped
      split at stepped
      · rename_i next happened moves
        simp only [Option.some.injEq, Prod.mk.injEq] at stepped
        obtain ⟨rfl, rfl⟩ := stepped
        refine ⟨fresh.pacer.moved distinct positive delivers
          (Pacer.step_moved moves), ?_⟩
        intro value member
        exact (fresh.late value member).append happened
      · cases stepped
  | restart =>
      simp only [Life.step, Option.some.injEq, Prod.mk.injEq] at stepped
      obtain ⟨rfl, rfl⟩ := stepped
      rw [List.append_nil]
      refine ⟨start_fresh ids origin _ fresh.pacer.redis fresh.pacer.sources
        fresh.pacer.taken, ?_⟩
      intro value member
      rcases List.mem_append.mp member with earlier | now
      · exact fresh.late value earlier
      · exact fresh.pacer.inFlight value now
  | lands value =>
      simp only [Life.step] at stepped
      split at stepped
      · rename_i pending
        simp only [Option.some.injEq, Prod.mk.injEq] at stepped
        obtain ⟨rfl, rfl⟩ := stepped
        rw [List.append_nil]
        refine ⟨?_, ?_⟩
        · have former := fresh.pacer
          exact ⟨former.keys, former.unfinished, former.next,
            fresh.late value pending, former.stores, former.filters,
            former.sources, former.taken⟩
        · intro other member
          exact fresh.late other (List.mem_of_mem_erase member)
      · cases stepped

/-- With distinct positive ids, no message is ignored before a copy of it was
taken. -/
theorem taken_first {senderId : Int} {life : Life}
    (distinct : ids.Nodup) (positive : ∀ deliveryId ∈ ids, 1 ≤ deliveryId)
    (run : Run step (Delivers ids origin) (start senderId) trace life) :
    EachEvent (TakenFirst origin) [] trace := by
  have fresh : FreshLife ids origin trace life := by
    apply run.invariant
    · refine ⟨start_fresh ids origin senderId ?_ ?_ trivial, ?_⟩
      · intro deliveryId lower upper
        simp only [Option.getD_none] at upper
        omega
      · intro deliveryId messageId state member
        cases member
      · intro value member
        cases member
    · intro trace events life final action holds delivers stepped
      exact holds.step distinct positive delivers stepped
  exact fresh.pacer.taken

theorem step_pacer {late : List Int}
    (stepped : Pacer.step pacer action = some (next, events)) :
    step { pacer := pacer, late := late } (.pacer action) =
      some ({ pacer := next, late := late }, events) := by
  simp only [step, stepped]

theorem zero_ignored (senderId : Int) {index : Nat}
    (sent : ids[index]? = some 0) :
    ∃ trace life, Run step (Delivers ids fun _ => index) (start senderId)
        trace life ∧
      ¬ EachEvent (TakenFirst fun _ => index) [] trace := by
  have delivered : Delivers ids (fun _ => index) (start senderId)
      (.pacer (.filterOrNot 0 0)) := sent
  have answered : Delivers ids (fun _ => index)
      { pacer := .loadingFirst senderId none 0 0 }
      (.pacer (.getReply true)) := trivial
  have begun := Run.refl.snoc delivered
    (step_pacer (Pacer.step_first senderId none 0 0))
  have ended := begun.snoc answered
    (step_pacer (Pacer.step_first_ignored (by decide)))
  refine ⟨_, _, ended, ?_⟩
  intro good
  obtain ⟨_, ⟨earlier, state, member, _, _⟩, _⟩ := good
  simp at member

/-- Of two messages with one id, the second is ignored although no copy of it
was taken. -/
theorem second_ignored (senderId : Int) {first second : Nat}
    {deliveryId : Int} (different : first ≠ second)
    (positive : 1 ≤ deliveryId) (sentFirst : ids[first]? = some deliveryId)
    (sentSecond : ids[second]? = some deliveryId) :
    ∃ origin trace life, Run step (Delivers ids origin) (start senderId)
        trace life ∧
      ¬ EachEvent (TakenFirst origin) [] trace := by
  let origin : Int → Nat := fun messageId =>
    if messageId = 0 then first else second
  have delivered : Delivers ids origin (start senderId)
      (.pacer (.filterOrNot deliveryId 0)) := sentFirst
  have answered : Delivers ids origin
      { pacer := .loadingFirst senderId none deliveryId 0 }
      (.pacer (.getReply true)) := trivial
  have again : Delivers ids origin
      { pacer := ((Pacer.loadedFirst senderId none).accept deliveryId 0).1 }
      (.pacer (.filterOrNot deliveryId 1)) := sentSecond
  have begun := Run.refl.snoc delivered
    (step_pacer (Pacer.step_first senderId none deliveryId 0))
  have accepted := begun.snoc answered
    (step_pacer (Pacer.step_first_accepted positive))
  have ended := accepted.snoc again
    (step_pacer (Pacer.step_known 1 Int.zero_lt_one List.mem_cons_self))
  refine ⟨origin, _, _, ended, ?_⟩
  intro good
  obtain ⟨_, _, ⟨earlier, state, member, _, same⟩, _⟩ := good
  simp only [List.nil_append, List.cons_append, List.mem_cons, reduceCtorEq,
    PacerEvent.classified.injEq, List.not_mem_nil, or_false,
    false_or] at member
  rw [member.2.1] at same
  exact different same

end

/-- No fresh message of a sender is ignored by the worker. -/
def PacerKeeps (senderId : Int) (ids : List Int) (origin : Int → Nat) :
    Prop :=
  ∀ trace life, Run step (Delivers ids origin) (start senderId) trace life →
    EachEvent (TakenFirst origin) [] trace

/-- Of every message of a sender that has a row, a copy is returned. -/
def InboxKeeps (senderId : Int) (ids : List Int) (origin : Int → Nat) :
    Prop :=
  ∀ rows : List Storage.InboxRow,
    (∀ row ∈ rows, row.senderId = senderId →
      ids[origin row.messageId]? = some row.senderSeq) →
    ∀ row ∈ rows, row.senderId = senderId →
      ∃ message ∈ (Storage.readInbox (some rows)).messages,
        message.data.senderId = senderId ∧
        origin message.messageId = origin row.messageId

theorem inboxKeeps {ids : List Int} (senderId : Int) (distinct : ids.Nodup)
    (origin : Int → Nat) : InboxKeeps senderId ids origin := by
  intro rows sent row member sender
  obtain ⟨kept, listed, sameSender, sameSeq, returned⟩ :=
    Storage.readInbox_represents member
  have keptSender : kept.senderId = senderId := sameSender.trans sender
  refine ⟨kept.toMessage, returned, keptSender, ?_⟩
  have keptSent := sent kept listed keptSender
  have rowSent := sent row member sender
  rw [sameSeq] at keptSent
  obtain ⟨bound, _⟩ := List.getElem?_eq_some_iff.mp keptSent
  exact (List.getElem?_inj bound distinct).mp (keptSent.trans rowSent.symm)

/-- Fresh messages pass both filters exactly if over the whole history of a
user no two messages were sent with one id and none with the id `0`. -/
theorem fresh_kept_iff_distinct (userSeq : Int)
    (history : List Front.ClientsEvent) :
    (∀ origin,
      PacerKeeps userSeq (Front.Clients.sentIds userSeq history) origin ∧
      InboxKeeps userSeq (Front.Clients.sentIds userSeq history) origin) ↔
      (Front.Clients.sentIds userSeq history).Nodup ∧
        0 ∉ Front.Clients.sentIds userSeq history := by
  have positive : 0 ∉ Front.Clients.sentIds userSeq history →
      ∀ deliveryId ∈ Front.Clients.sentIds userSeq history,
        1 ≤ deliveryId := by
    intro nonzero deliveryId member
    have different : deliveryId ≠ 0 := by
      intro zero
      rw [zero] at member
      exact nonzero member
    obtain ⟨message, _, rfl⟩ := List.mem_map.mp member
    omega
  constructor
  · intro keeps
    have nonzero : 0 ∉ Front.Clients.sentIds userSeq history := by
      intro member
      obtain ⟨index, sent⟩ := List.mem_iff_getElem?.mp member
      obtain ⟨trace, life, run, dropped⟩ := zero_ignored userSeq sent
      exact dropped ((keeps _).1 trace life run)
    refine ⟨?_, nonzero⟩
    rw [List.nodup_iff_getElem?_ne_getElem?]
    intro first second before bound same
    obtain ⟨deliveryId, sentSecond⟩ : ∃ deliveryId,
        (Front.Clients.sentIds userSeq history)[second]? =
          some deliveryId :=
      ⟨_, List.getElem?_eq_getElem bound⟩
    have least := positive nonzero deliveryId
      (List.mem_of_getElem? sentSecond)
    obtain ⟨origin, trace, life, run, dropped⟩ :=
      second_ignored userSeq (Nat.ne_of_lt before) least
        (same.trans sentSecond) sentSecond
    exact dropped ((keeps origin).1 trace life run)
  · intro condition origin
    obtain ⟨distinct, nonzero⟩ := condition
    refine ⟨?_, inboxKeeps userSeq distinct origin⟩
    intro trace life run
    exact taken_first distinct (positive nonzero) run

/-- A user sends one message, closes the session, opens another one and sends
one message.  The worker handles the first message, restarts and ignores the
second one; `ReadInbox` returns the first one only. -/
theorem fresh_dropped_in_second_session :
    ∃ (history : List Front.ClientsEvent) (origin : Int → Nat),
      ¬ PacerKeeps 7 (Front.Clients.sentIds 7 history) origin ∧
      ¬ InboxKeeps 7 (Front.Clients.sentIds 7 history) origin := by
  have ids : Front.Clients.sentIds 7
      [.openSession [8], .act 0 (.send "a" 8 1),
        .openSession [8], .act 1 (.send "b" 8 1)] = [1, 1] := by
    decide
  refine ⟨[.openSession [8], .act 0 (.send "a" 8 1),
    .openSession [8], .act 1 (.send "b" 8 1)],
    fun messageId => if messageId = 100 then 0 else 1, ?_, ?_⟩
  · intro keeps
    rw [ids] at keeps
    have executed : (exec step
        (Delivers [1, 1] fun messageId => if messageId = 100 then 0 else 1)
        (start 7)
        [.pacer (.filterOrNot 1 100), .pacer (.getReply true),
          .pacer (.onHandledNewItem 1), .pacer (.setReply true), .restart,
          .pacer (.filterOrNot 1 200), .pacer (.getReply true)]).map
        Prod.snd =
        some [.loaded 1, .classified 1 100 .newItem, .handled 1,
          .redisSet 2, .loaded 2, .classified 1 200 .canIgnore] := by
      decide
    obtain ⟨life, run⟩ := Run.exists_of_exec executed
    obtain ⟨_, _, _, _, _, ⟨earlier, state, member, _, same⟩, _⟩ :=
      keeps _ life run
    simp only [List.nil_append, List.cons_append, List.mem_cons,
      reduceCtorEq, PacerEvent.classified.injEq, List.not_mem_nil, or_false,
      false_or] at member
    rw [member.2.1] at same
    exact absurd same (by decide)
  · intro keeps
    rw [ids] at keeps
    obtain ⟨message, member, _, same⟩ := keeps
      [{ channelId := 1, messageId := 100, senderSeq := 1, senderId := 7,
         content := "a" },
       { channelId := 1, messageId := 200, senderSeq := 1, senderId := 7,
         content := "b" }]
      (by decide)
      { channelId := 1, messageId := 200, senderSeq := 1, senderId := 7,
        content := "b" }
      (by simp) rfl
    simp [Storage.readInbox, Storage.filterRows, Storage.InboxRow.toMessage]
      at member
    rw [member] at same
    exact absurd same (by decide)

end Life

end Worker

end TinyChat
