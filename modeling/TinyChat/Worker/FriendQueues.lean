import TinyChat.Lib.AsyncQueue

/-!
# The queues of a friend worker

`FriendWorker.handler` of `friend_to_psql_worker` and of
`friend_to_push_worker` passes friend requests and confirms on through two
queues.  What is queued when the consumer is cancelled goes back to the broker,
with one `nack` up to the message that `on_completed` returns.
-/

namespace TinyChat

namespace Worker

structure IncomingMessage (Body : Type) where
  deliveryTag : Nat
  appId : Option (List Char)
  body : Body

/-- `ConsumerMessage`, around the message that `_message` is. -/
structure ConsumerMessage (Body : Type) where
  message : IncomingMessage Body

structure FriendEvent (Request Confirm : Type) where
  evtTp : Int
  request : Request
  confirm : Confirm

/-- `FRIEND_REQUEST` of `FriendEventType`. -/
def friendRequest : Int := 0

/-- `FRIEND_CONFIRM` of `FriendEventType`. -/
def friendConfirm : Int := 1

inductive FriendKind where
  | request
  | confirm
  deriving DecidableEq

structure FriendQueues (maxsize : Nat) (Body Request Confirm : Type) where
  requestEventQueue :
    AsyncQueue maxsize (Request × ConsumerMessage Body) := .empty
  confirmEventQueue :
    AsyncQueue maxsize (Confirm × ConsumerMessage Body) := .empty
  totalCount : Nat := 0

/-- What `on_consume` does with a message: it leaves it to `discard_message`,
raises because there is no application id, because the body is not an event or
because a queue is full, queues the event, or leaves an event of another type
alone. -/
inductive Consumed where
  | attributeError
  | discarded
  | undecodable
  | enqueued (kind : FriendKind)
  | queueFull (kind : FriendKind)
  | ignored
  deriving DecidableEq

/-- The error of a variable that is read before it is bound. -/
inductive CompletionError where
  | unboundLocal
  deriving DecidableEq

section

variable {maxsize : Nat} {Body Request Confirm Data : Type}

/-- `RMQWorker.validate_source`, which raises if there is no application
id. -/
def validateSource (appIdPrefix : List Char)
    (message : IncomingMessage Body) : Option Bool :=
  message.appId.map (fun appId => appIdPrefix.isPrefixOf appId)

/-- The `if` of `on_completed` over one queue: a queue object counts as true
whatever is in it, and the loop that takes its items ends with `QueueEmpty`. -/
def lastMessage (queue : AsyncQueue maxsize (Data × ConsumerMessage Body)) :
    Except CompletionError (Option (IncomingMessage Body)) ×
      AsyncQueue maxsize (Data × ConsumerMessage Body) :=
  match queue.drainNowait none with
  | (some item, drained) => (.ok (some item.2.message), drained)
  | (none, drained) => (.error .unboundLocal, drained)

/-- The end of `on_completed`. -/
def laterMessage :
    Option (IncomingMessage Body) → Option (IncomingMessage Body) →
      Option (IncomingMessage Body)
  | some request, some confirm =>
      if confirm.deliveryTag < request.deliveryTag then some request
      else some confirm
  | requestMessage, confirmMessage => requestMessage.or confirmMessage

end

namespace FriendQueues

variable {maxsize : Nat} {Body Request Confirm : Type}

def onConsume (appIdPrefix : List Char)
    (fromString : Body → Option (FriendEvent Request Confirm))
    (queues : FriendQueues maxsize Body Request Confirm)
    (pikaMessage : IncomingMessage Body) :
    FriendQueues maxsize Body Request Confirm × Consumed :=
  let message : ConsumerMessage Body := ⟨pikaMessage⟩
  match validateSource appIdPrefix pikaMessage with
  | none => (queues, .attributeError)
  | some false => (queues, .discarded)
  | some true =>
      match fromString pikaMessage.body with
      | none => (queues, .undecodable)
      | some event =>
          let totalCount := queues.totalCount + 1
          if event.evtTp = friendRequest then
            match queues.requestEventQueue.putNowait
                (event.request, message) with
            | none => (queues, .queueFull .request)
            | some queue =>
                ({ queues with requestEventQueue := queue, totalCount },
                  .enqueued .request)
          else if event.evtTp = friendConfirm then
            match queues.confirmEventQueue.putNowait
                (event.confirm, message) with
            | none => (queues, .queueFull .confirm)
            | some queue =>
                ({ queues with confirmEventQueue := queue, totalCount },
                  .enqueued .confirm)
          else ({ queues with totalCount }, .ignored)

def onCompleted (queues : FriendQueues maxsize Body Request Confirm) :
    Except CompletionError (Option (IncomingMessage Body)) ×
      FriendQueues maxsize Body Request Confirm :=
  match lastMessage queues.requestEventQueue with
  | (.error raised, requestEventQueue) =>
      (.error raised, { queues with requestEventQueue })
  | (.ok requestMessage, requestEventQueue) =>
      match lastMessage queues.confirmEventQueue with
      | (.error raised, confirmEventQueue) =>
          (.error raised,
            { queues with requestEventQueue, confirmEventQueue })
      | (.ok confirmMessage, confirmEventQueue) =>
          (.ok (laterMessage requestMessage confirmMessage),
            { queues with requestEventQueue, confirmEventQueue })

/-- The messages of the queued requests. -/
def requests (queues : FriendQueues maxsize Body Request Confirm) :
    List (IncomingMessage Body) :=
  queues.requestEventQueue.items.map (fun item => item.2.message)

/-- The messages of the queued confirms. -/
def confirms (queues : FriendQueues maxsize Body Request Confirm) :
    List (IncomingMessage Body) :=
  queues.confirmEventQueue.items.map (fun item => item.2.message)

end FriendQueues

/-! ## The two modules -/

namespace FriendToPsql

def initialQos : Nat := 128

def maxsize : Nat := 64

/-- `on_consume` of `friend_to_psql_worker`. -/
def onConsume {Body Request Confirm : Type} (appIdPrefix : List Char)
    (fromString : Body → Option (FriendEvent Request Confirm)) :
    FriendQueues maxsize Body Request Confirm → IncomingMessage Body →
      FriendQueues maxsize Body Request Confirm × Consumed :=
  FriendQueues.onConsume appIdPrefix fromString

/-- `on_completed` of `friend_to_psql_worker`. -/
def onCompleted {maxsize : Nat} {Body Request Confirm : Type}
    (queues : FriendQueues maxsize Body Request Confirm) :
    Except CompletionError (Option (IncomingMessage Body)) ×
      FriendQueues maxsize Body Request Confirm :=
  queues.onCompleted

end FriendToPsql

namespace FriendToPush

def initialQos : Nat := 1024

def maxsize : Nat := 512

/-- `on_consume` of `friend_to_push_worker`. -/
def onConsume {Body Request Confirm : Type} (appIdPrefix : List Char)
    (fromString : Body → Option (FriendEvent Request Confirm)) :
    FriendQueues maxsize Body Request Confirm → IncomingMessage Body →
      FriendQueues maxsize Body Request Confirm × Consumed :=
  FriendQueues.onConsume appIdPrefix fromString

/-- `on_completed` of `friend_to_push_worker`. -/
def onCompleted {maxsize : Nat} {Body Request Confirm : Type}
    (queues : FriendQueues maxsize Body Request Confirm) :
    Except CompletionError (Option (IncomingMessage Body)) ×
      FriendQueues maxsize Body Request Confirm :=
  queues.onCompleted

end FriendToPush

/-! ## The message that is returned -/

section

variable {Body : Type}

/-- In the order of the delivery tags. -/
def Increasing (messages : List (IncomingMessage Body)) : Prop :=
  messages.Pairwise (fun earlier later =>
    earlier.deliveryTag < later.deliveryTag)

/-- The message with the greatest delivery tag, or `none` if there is no
message; a `nack` up to it covers all of them. -/
structure Greatest (messages : List (IncomingMessage Body))
    (returned : Option (IncomingMessage Body)) : Prop where
  none_iff : returned = none ↔ messages = []
  mem : ∀ message, returned = some message → message ∈ messages
  covers : ∀ message, returned = some message →
    ∀ other ∈ messages, other.deliveryTag ≤ message.deliveryTag

variable {messages earlier later : List (IncomingMessage Body)}
  {request confirm : IncomingMessage Body}

theorem Increasing.greatest_getLast (increasing : Increasing messages) :
    Greatest messages messages.getLast? := by
  refine ⟨List.getLast?_eq_none_iff, ?_, ?_⟩
  · intro message last
    exact List.mem_of_getLast? last
  · intro message last other member
    obtain ⟨before, rfl⟩ := List.getLast?_eq_some_iff.mp last
    rcases List.mem_append.mp member with earlier | same
    · have less := (List.pairwise_append.mp increasing).2.2
      exact Nat.le_of_lt (less other earlier message List.mem_cons_self)
    · have equal := List.mem_singleton.mp same
      exact Nat.le_of_eq (congrArg IncomingMessage.deliveryTag equal)

theorem Greatest.laterMessage (first : Greatest earlier (some request))
    (second : Greatest later (some confirm)) :
    Greatest (earlier ++ later)
      (laterMessage (some request) (some confirm)) := by
  have requestMember := first.mem request rfl
  have confirmMember := second.mem confirm rfl
  have some_greatest : ∀ chosen : IncomingMessage Body,
      chosen ∈ earlier ++ later →
      request.deliveryTag ≤ chosen.deliveryTag →
      confirm.deliveryTag ≤ chosen.deliveryTag →
      Greatest (earlier ++ later) (some chosen) := by
    intro chosen member overRequest overConfirm
    refine ⟨?_, ?_, ?_⟩
    · constructor
      · intro absent
        cases absent
      · intro empty
        rw [empty] at member
        cases member
    · rintro message ⟨⟩
      exact member
    · rintro message ⟨⟩ other listed
      rcases List.mem_append.mp listed with listed | listed
      · exact Nat.le_trans (first.covers request rfl other listed)
          overRequest
      · exact Nat.le_trans (second.covers confirm rfl other listed)
          overConfirm
  by_cases less : confirm.deliveryTag < request.deliveryTag
  · rw [Worker.laterMessage, if_pos less]
    exact some_greatest request
      (List.mem_append_left later requestMember)
      (Nat.le_refl _) (Nat.le_of_lt less)
  · rw [Worker.laterMessage, if_neg less]
    exact some_greatest confirm
      (List.mem_append_right earlier confirmMember)
      (Nat.le_of_not_lt less) (Nat.le_refl _)

end

section

variable {maxsize : Nat} {Body Data : Type}
  {queue : AsyncQueue maxsize (Data × ConsumerMessage Body)}

theorem lastMessage_of_empty (empty : queue.items = []) :
    (lastMessage queue).1 = .error .unboundLocal := by
  have bound := queue.drainNowait_fst none
  rw [empty] at bound
  unfold lastMessage
  split
  · rename_i drained
    rw [drained] at bound
    cases bound
  · rfl

theorem lastMessage_of_nonempty (nonempty : queue.items ≠ []) :
    ∃ item, queue.items.getLast? = some item ∧
      (lastMessage queue).1 = .ok (some item.2.message) := by
  have bound := queue.drainNowait_fst none
  rw [List.getLast?_eq_some_getLast nonempty] at bound
  refine ⟨_, List.getLast?_eq_some_getLast nonempty, ?_⟩
  unfold lastMessage
  split
  · rename_i item rest drained
    rw [drained] at bound
    cases bound
    rfl
  · rename_i rest drained
    rw [drained] at bound
    cases bound

end

namespace FriendQueues

variable {maxsize : Nat} {Body Request Confirm : Type}
  {queues : FriendQueues maxsize Body Request Confirm}
  {returned : Option (IncomingMessage Body)}

theorem onCompleted_of_nonempty (requests : queues.requests ≠ [])
    (confirms : queues.confirms ≠ []) :
    ∃ request confirm,
      queues.requests.getLast? = some request ∧
      queues.confirms.getLast? = some confirm ∧
      queues.onCompleted.1 =
        .ok (laterMessage (some request) (some confirm)) := by
  have requestItems : queues.requestEventQueue.items ≠ [] := by
    intro empty
    exact requests (congrArg (List.map _) empty)
  have confirmItems : queues.confirmEventQueue.items ≠ [] := by
    intro empty
    exact confirms (congrArg (List.map _) empty)
  obtain ⟨request, lastRequest, requestMessage⟩ :=
    lastMessage_of_nonempty requestItems
  obtain ⟨confirm, lastConfirm, confirmMessage⟩ :=
    lastMessage_of_nonempty confirmItems
  refine ⟨request.2.message, confirm.2.message, ?_, ?_, ?_⟩
  · rw [FriendQueues.requests, List.getLast?_map, lastRequest]
    rfl
  · rw [FriendQueues.confirms, List.getLast?_map, lastConfirm]
    rfl
  · unfold onCompleted
    split
    · rename_i taken
      rw [taken] at requestMessage
      cases requestMessage
    · rename_i taken
      rw [taken] at requestMessage
      cases requestMessage
      split
      · rename_i taken
        rw [taken] at confirmMessage
        cases confirmMessage
      · rename_i taken
        rw [taken] at confirmMessage
        cases confirmMessage
        rfl

/-- It raises if there is nothing in one of the queues. -/
theorem nonempty_of_onCompleted (result : queues.onCompleted.1 = .ok returned) :
    queues.requests ≠ [] ∧ queues.confirms ≠ [] := by
  constructor
  · intro empty
    have raised := lastMessage_of_empty (List.map_eq_nil_iff.mp empty)
    unfold onCompleted at result
    split at result
    · cases result
    · rename_i taken
      rw [taken] at raised
      cases raised
  · intro empty
    have raised := lastMessage_of_empty (List.map_eq_nil_iff.mp empty)
    unfold onCompleted at result
    split at result
    · cases result
    · split at result
      · cases result
      · rename_i taken
        rw [taken] at raised
        cases raised

/-- It returns the message that covers all that is queued. -/
def ReturnsGreatest (queues : FriendQueues maxsize Body Request Confirm)
    (result : Except CompletionError (Option (IncomingMessage Body))) :
    Prop :=
  ∃ returned, result = .ok returned ∧
    Greatest (queues.requests ++ queues.confirms) returned

theorem returnsGreatest_iff (requests : Increasing queues.requests)
    (confirms : Increasing queues.confirms) :
    queues.ReturnsGreatest queues.onCompleted.1 ↔
      queues.requests ≠ [] ∧ queues.confirms ≠ [] := by
  constructor
  · rintro ⟨returned, result, _⟩
    exact nonempty_of_onCompleted result
  · rintro ⟨someRequest, someConfirm⟩
    obtain ⟨request, confirm, lastRequest, lastConfirm, result⟩ :=
      onCompleted_of_nonempty someRequest someConfirm
    have greatestRequest := requests.greatest_getLast
    have greatestConfirm := confirms.greatest_getLast
    rw [lastRequest] at greatestRequest
    rw [lastConfirm] at greatestConfirm
    exact ⟨_, result, greatestRequest.laterMessage greatestConfirm⟩

end FriendQueues

section

variable {maxsize : Nat} {Body Request Confirm : Type}
  {queues : FriendQueues maxsize Body Request Confirm}

/-- In both modules `on_completed` returns the message that covers all that is
queued if, and only if, no queue is empty. -/
theorem onCompleted_returnsGreatest_iff
    (requests : Increasing queues.requests)
    (confirms : Increasing queues.confirms) :
    (queues.ReturnsGreatest (FriendToPsql.onCompleted queues).1 ↔
      queues.requests ≠ [] ∧ queues.confirms ≠ []) ∧
    (queues.ReturnsGreatest (FriendToPush.onCompleted queues).1 ↔
      queues.requests ≠ [] ∧ queues.confirms ≠ []) := by
  constructor
  · exact FriendQueues.returnsGreatest_iff requests confirms
  · exact FriendQueues.returnsGreatest_iff requests confirms

end

/-- Two requests and, between them, a confirm. -/
def interleavedQueues : FriendQueues 64 Unit Unit Unit where
  requestEventQueue :=
    ⟨[((), ⟨⟨1, some [], ()⟩⟩), ((), ⟨⟨3, some [], ()⟩⟩)], fun _ => by decide⟩
  confirmEventQueue := ⟨[((), ⟨⟨2, some [], ()⟩⟩)], fun _ => by decide⟩

theorem interleavedQueues_returnsGreatest :
    interleavedQueues.ReturnsGreatest
        (FriendToPsql.onCompleted interleavedQueues).1 ∧
      interleavedQueues.ReturnsGreatest
        (FriendToPush.onCompleted interleavedQueues).1 := by
  have requests : Increasing interleavedQueues.requests := by
    unfold Increasing
    decide
  have confirms : Increasing interleavedQueues.confirms :=
    List.pairwise_singleton _ _
  have both := onCompleted_returnsGreatest_iff requests confirms
  have nonempty : interleavedQueues.requests ≠ [] ∧
      interleavedQueues.confirms ≠ [] :=
    ⟨List.cons_ne_nil _ _, List.cons_ne_nil _ _⟩
  exact ⟨both.1.mpr nonempty, both.2.mpr nonempty⟩

/-- With nothing in the queues `on_completed` raises. -/
theorem empty_queues_unbound :
    ¬ ∀ queues : FriendQueues 64 Unit Unit Unit,
      Increasing queues.requests → Increasing queues.confirms →
        queues.ReturnsGreatest (FriendToPsql.onCompleted queues).1 := by
  intro always
  obtain ⟨returned, result, _⟩ := always {} .nil .nil
  exact (FriendQueues.nonempty_of_onCompleted result).1 rfl

end Worker

end TinyChat
