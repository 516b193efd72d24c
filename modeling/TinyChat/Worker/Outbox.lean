import TinyChat.Lib.Transition
import TinyChat.Message.Sender
import TinyChat.Worker.Pacer

/-!
# The outbox worker

`on_message` stores a message of the stream in its session and notifies the
read model, with the dead-letter queue as the fallback of both.  It is a
function of how the calls end that it makes.  The helpers of `PushMixin`
turn every exception of a queue into a return value; an exception of a
service ends the task.
-/

namespace TinyChat

namespace Worker

open Transition

inductive DLQMsgAction where
  | all
  | sessionOnly
  | inboxOnly
  deriving DecidableEq

structure DLQMsgData where
  action : DLQMsgAction
  data : RStreamMsgData
  deriving DecidableEq

inductive ReadModelEventType where
  | singleChat
  | groupChat
  deriving DecidableEq

structure ReadModelEvent where
  evtTp : ReadModelEventType
  deliveryId : Int
  message : ServerMsgData
  deriving DecidableEq

/-- How a call to a service ends. -/
inductive CallEnd where
  | returned (success : Bool)
  | raised
  deriving DecidableEq

/-- What `on_message` finds around it: whether its record is frozen, how
`filter_or_not` ends (`none` if it raises), the services, of which each may
be unavailable, and whether the queues accept what is sent to them. -/
structure Surroundings where
  frozen : Bool
  filterOrNot : Int → Int → Int → Option FilterState
  cassMessageServiceGetter : String → Option (CassMsgRequest → CallEnd)
  downstreamServiceGetter : Option (ReadModelEvent → CallEnd)
  sendToReadModel : ReadModelEvent → String → Bool
  sendToDlq : DLQMsgData → String → Bool

inductive Effect where
  | sessionWritten (request : CassMsgRequest)
  | readModelDelivered (event : ReadModelEvent)
  | readModelQueued (event : ReadModelEvent)
  | dlqAccepted (entry : DLQMsgData)
  | acked
  | handledNewItem (senderId deliveryId messageId : Int)
  deriving DecidableEq

def sessionRequest (message : RStreamMsgData) : CassMsgRequest :=
  { messageData := message.data
    messageId := message.messageId
    deliveryId := message.deliveryId }

def readModelEvent (message : RStreamMsgData) : ReadModelEvent :=
  { evtTp := .singleChat
    deliveryId := message.deliveryId
    message :=
      { data := message.data
        messageId := message.messageId } }

def hashKey (message : RStreamMsgData) : String :=
  toString message.data.sessionId

namespace Surroundings

variable (around : Surroundings)

def pushToDlq (message : RStreamMsgData) (action : DLQMsgAction)
    (key : String) : Bool × List Effect :=
  let entry : DLQMsgData := { action := action, data := message }
  if around.sendToDlq entry key then (true, [.dlqAccepted entry])
  else (false, [])

def pushToReadModel (event : ReadModelEvent) (key : String) :
    Bool × List Effect :=
  if around.sendToReadModel event key then (true, [.readModelQueued event])
  else (false, [])

def notifyReadModel (event : ReadModelEvent) (key : String) :
    CallEnd × List Effect :=
  match around.downstreamServiceGetter with
  | none => (.returned false, [])
  | some deliverReadEvent =>
      match deliverReadEvent event with
      | .raised => (.raised, [])
      | .returned true => (.returned true, [.readModelDelivered event])
      | .returned false =>
          let queued := around.pushToReadModel event key
          (.returned queued.1, queued.2)

def writeToSession (request : CassMsgRequest) (key : String) :
    CallEnd × List Effect :=
  match around.cassMessageServiceGetter key with
  | none => (.returned false, [])
  | some write =>
      match write request with
      | .raised => (.raised, [])
      | .returned true => (.returned true, [.sessionWritten request])
      | .returned false => (.returned false, [])

/-- The fallback of a call that returned. -/
def fallback (message : RStreamMsgData) (action : DLQMsgAction)
    (success : Bool) : List Effect :=
  if success then []
  else (around.pushToDlq message action (hashKey message)).2

/-- The end of `on_message` for a message that it has handled. -/
def release (message : RStreamMsgData) : List Effect :=
  [.acked,
    .handledNewItem message.data.senderId message.deliveryId
      message.messageId]

/-- The effects of `on_message` in their order.  The write to the session
runs as a task of its own and has ended when it is awaited; it goes on if
`on_message` is ended by an exception. -/
def onMessage (message : RStreamMsgData) : List Effect :=
  if around.frozen then []
  else
    match around.filterOrNot message.data.senderId message.deliveryId
        message.messageId with
    | some .newItem =>
        let written :=
          around.writeToSession (sessionRequest message) (hashKey message)
        let notified :=
          around.notifyReadModel (readModelEvent message) (hashKey message)
        match notified.1, written.1 with
        | .raised, _ => written.2 ++ notified.2
        | .returned success, .raised =>
            written.2 ++ notified.2 ++
              around.fallback message .inboxOnly success
        | .returned success, .returned stored =>
            written.2 ++ notified.2 ++
              around.fallback message .inboxOnly success ++
              around.fallback message .sessionOnly stored ++
              release message
    | some .canIgnore => [.acked]
    | some .retryRequired =>
        around.fallback message .all false ++ release message
    | some .newVersion => []
    | none => []

/-- The service of the read model raises an exception. -/
def NotificationRaises (message : RStreamMsgData) : Prop :=
  ∃ deliverReadEvent ∈ around.downstreamServiceGetter,
    deliverReadEvent (readModelEvent message) = .raised

/-- The read model is not available, or neither its service nor its queue
takes the event. -/
def NotificationFails (message : RStreamMsgData) : Prop :=
  ∀ deliverReadEvent ∈ around.downstreamServiceGetter,
    deliverReadEvent (readModelEvent message) = .returned false ∧
      around.sendToReadModel (readModelEvent message) (hashKey message) =
        false

/-- The service of the storage raises an exception. -/
def WriteRaises (message : RStreamMsgData) : Prop :=
  ∃ write ∈ around.cassMessageServiceGetter (hashKey message),
    write (sessionRequest message) = .raised

/-- The storage is not available or reports a failure. -/
def WriteFails (message : RStreamMsgData) : Prop :=
  ∀ write ∈ around.cassMessageServiceGetter (hashKey message),
    write (sessionRequest message) = .returned false

def DlqTakes (message : RStreamMsgData) (action : DLQMsgAction) : Prop :=
  around.sendToDlq { action := action, data := message } (hashKey message) =
    true

/-- The dead-letter queue takes the message wherever it is the fallback,
unless an exception of a service ends the task before. -/
def FallbacksTaken (message : RStreamMsgData) : Prop :=
  around.frozen = false →
    match around.filterOrNot message.data.senderId message.deliveryId
        message.messageId with
    | some .newItem =>
        around.NotificationRaises message ∨ around.WriteRaises message ∨
          (around.NotificationFails message →
            around.DlqTakes message .inboxOnly) ∧
          (around.WriteFails message →
            around.DlqTakes message .sessionOnly)
    | some .retryRequired => around.DlqTakes message .all
    | _ => True

/-- `filter_or_not` says that the message was handled before. -/
def Ignored (message : RStreamMsgData) : Prop :=
  around.filterOrNot message.data.senderId message.deliveryId
    message.messageId = some .canIgnore

end Surroundings

/-- The session has the message, or the dead-letter queue has it for the
session. -/
def SessionKept (message : RStreamMsgData) (effects : List Effect) : Prop :=
  .sessionWritten (sessionRequest message) ∈ effects ∨
    .dlqAccepted { action := .sessionOnly, data := message } ∈ effects ∨
    .dlqAccepted { action := .all, data := message } ∈ effects

/-- The read model has the message, or a queue has it for the read model. -/
def ReadModelKept (message : RStreamMsgData) (effects : List Effect) :
    Prop :=
  .readModelDelivered (readModelEvent message) ∈ effects ∨
    .readModelQueued (readModelEvent message) ∈ effects ∨
    .dlqAccepted { action := .inboxOnly, data := message } ∈ effects ∨
    .dlqAccepted { action := .all, data := message } ∈ effects

/-- Whenever the offset is acknowledged, the message was ignored or is kept
in both places. -/
def ReleasesKept (around : Surroundings) (message : RStreamMsgData) :
    List Effect → Prop :=
  EachEvent (fun before effect =>
    effect = .acked → around.Ignored message ∨
      SessionKept message before ∧ ReadModelKept message before) []

namespace Surroundings

variable {around : Surroundings} {message : RStreamMsgData}

theorem notifyReadModel_cases (around : Surroundings)
    (message : RStreamMsgData) :
    let notified :=
      around.notifyReadModel (readModelEvent message) (hashKey message)
    (around.NotificationRaises message ∧ notified = (.raised, [])) ∨
    (¬ around.NotificationRaises message ∧
      around.NotificationFails message ∧ notified = (.returned false, [])) ∨
    (¬ around.NotificationRaises message ∧
      ¬ around.NotificationFails message ∧
      ∃ effect, notified = (.returned true, [effect]) ∧
        (effect = .readModelDelivered (readModelEvent message) ∨
          effect = .readModelQueued (readModelEvent message))) := by
  unfold notifyReadModel NotificationRaises NotificationFails
  cases around.downstreamServiceGetter with
  | none => simp
  | some deliverReadEvent =>
      cases ended : deliverReadEvent (readModelEvent message) with
      | raised => simp [ended]
      | returned success =>
          cases success with
          | true => simp [ended]
          | false =>
              cases queued : around.sendToReadModel (readModelEvent message)
                  (hashKey message) with
              | true => simp [ended, pushToReadModel, queued]
              | false => simp [ended, pushToReadModel, queued]

theorem writeToSession_cases (around : Surroundings)
    (message : RStreamMsgData) :
    let written :=
      around.writeToSession (sessionRequest message) (hashKey message)
    (around.WriteRaises message ∧ written = (.raised, [])) ∨
    (¬ around.WriteRaises message ∧ around.WriteFails message ∧
      written = (.returned false, [])) ∨
    (¬ around.WriteRaises message ∧ ¬ around.WriteFails message ∧
      written = (.returned true,
        [.sessionWritten (sessionRequest message)])) := by
  unfold writeToSession WriteRaises WriteFails
  cases around.cassMessageServiceGetter (hashKey message) with
  | none => simp
  | some write =>
      cases ended : write (sessionRequest message) with
      | raised => simp [ended]
      | returned success =>
          cases success with
          | true => simp [ended]
          | false => simp [ended]

theorem mem_fallback {action : DLQMsgAction} {success : Bool}
    {effect : Effect} :
    effect ∈ around.fallback message action success ↔
      success = false ∧ around.DlqTakes message action ∧
        effect = .dlqAccepted { action := action, data := message } := by
  unfold fallback pushToDlq DlqTakes
  cases success with
  | true => simp
  | false =>
      cases taken : around.sendToDlq { action := action, data := message }
          (hashKey message) with
      | true => simp [taken]
      | false => simp [taken]

/-- What a notification that returns leaves behind together with its
fallback. -/
theorem notification_effects (ends : ¬ around.NotificationRaises message) :
    ∃ success effects,
      around.notifyReadModel (readModelEvent message) (hashKey message) =
        (.returned success, effects) ∧
      let inbox := effects ++ around.fallback message .inboxOnly success
      .acked ∉ inbox ∧ ¬ SessionKept message inbox ∧
        (ReadModelKept message inbox ↔
          (around.NotificationFails message →
            around.DlqTakes message .inboxOnly)) := by
  rcases notifyReadModel_cases around message with
    ⟨raises, _⟩ | ⟨_, fails, notified⟩ | ⟨_, holds, effect, notified, kind⟩
  · exact absurd raises ends
  · refine ⟨false, [], notified, ?_, ?_, ?_⟩
    · simp [mem_fallback]
    · simp [SessionKept, mem_fallback]
    · simp [ReadModelKept, mem_fallback, fails]
  · refine ⟨true, [effect], notified, ?_⟩
    rcases kind with rfl | rfl
    · simp [SessionKept, ReadModelKept, mem_fallback, holds]
    · simp [SessionKept, ReadModelKept, mem_fallback, holds]

/-- What a write to the session that returns leaves behind together with its
fallback. -/
theorem write_effects (ends : ¬ around.WriteRaises message) :
    ∃ stored effects,
      around.writeToSession (sessionRequest message) (hashKey message) =
        (.returned stored, effects) ∧
      let session := effects ++ around.fallback message .sessionOnly stored
      .acked ∉ session ∧ ¬ ReadModelKept message session ∧
        (SessionKept message session ↔
          (around.WriteFails message →
            around.DlqTakes message .sessionOnly)) := by
  rcases writeToSession_cases around message with
    ⟨raises, _⟩ | ⟨_, fails, written⟩ | ⟨_, holds, written⟩
  · exact absurd raises ends
  · refine ⟨false, [], written, ?_, ?_, ?_⟩
    · simp [mem_fallback]
    · simp [ReadModelKept, mem_fallback]
    · simp [SessionKept, mem_fallback, fails]
  · refine ⟨true, _, written, ?_⟩
    simp [SessionKept, ReadModelKept, mem_fallback, holds]

end Surroundings

theorem sessionKept_append {message : RStreamMsgData}
    {first second : List Effect} :
    SessionKept message (first ++ second) ↔
      SessionKept message first ∨ SessionKept message second := by
  simp only [SessionKept, List.mem_append]
  tauto

theorem readModelKept_append {message : RStreamMsgData}
    {first second : List Effect} :
    ReadModelKept message (first ++ second) ↔
      ReadModelKept message first ∨ ReadModelKept message second := by
  simp only [ReadModelKept, List.mem_append]
  tauto

namespace Surroundings

variable {around : Surroundings} {message : RStreamMsgData}

theorem releasesKept_of_unacked {effects : List Effect}
    (unacked : .acked ∉ effects) : ReleasesKept around message effects := by
  apply eachEvent_of_forall
  intro before effect member acked
  subst acked
  exact absurd member unacked

theorem releasesKept_release {effects : List Effect}
    (unacked : .acked ∉ effects) :
    ReleasesKept around message (effects ++ release message) ↔
      around.Ignored message ∨
        SessionKept message effects ∧ ReadModelKept message effects := by
  have earlier : ReleasesKept around message effects :=
    releasesKept_of_unacked unacked
  unfold ReleasesKept at earlier ⊢
  rw [eachEvent_append]
  simp [earlier, release]

theorem onMessage_newItem (unfrozen : around.frozen = false)
    (filtered : around.filterOrNot message.data.senderId message.deliveryId
      message.messageId = some .newItem) :
    ReleasesKept around message (around.onMessage message) ↔
      around.NotificationRaises message ∨ around.WriteRaises message ∨
        (around.NotificationFails message →
          around.DlqTakes message .inboxOnly) ∧
        (around.WriteFails message →
          around.DlqTakes message .sessionOnly) := by
  have unignored : ¬ around.Ignored message := by simp [Ignored, filtered]
  simp only [onMessage, unfrozen, filtered, Bool.false_eq_true, if_false]
  by_cases noNotice : around.NotificationRaises message
  · rcases notifyReadModel_cases around message with
      ⟨_, notified⟩ | ⟨ends, _⟩ | ⟨ends, _⟩
    · simp only [notified, noNotice, true_or, iff_true]
      apply releasesKept_of_unacked
      rcases writeToSession_cases around message with
        ⟨_, written⟩ | ⟨_, _, written⟩ | ⟨_, _, written⟩ <;>
      simp [written]
    · exact absurd noNotice ends
    · exact absurd noNotice ends
  obtain ⟨success, noticed, notified, unacked, notSession, kept⟩ :=
    notification_effects noNotice
  by_cases noWrite : around.WriteRaises message
  · rcases writeToSession_cases around message with
      ⟨_, written⟩ | ⟨ends, _⟩ | ⟨ends, _⟩
    · simp only [notified, written, noWrite, true_or, or_true, iff_true]
      apply releasesKept_of_unacked
      simpa using unacked
    · exact absurd noWrite ends
    · exact absurd noWrite ends
  obtain ⟨stored, wrote, written, unreleased, notNotice, saved⟩ :=
    write_effects noWrite
  simp only [notified, written, noNotice, noWrite, false_or]
  have released : .acked ∉ wrote ++ noticed ++
      around.fallback message .inboxOnly success ++
      around.fallback message .sessionOnly stored := by
    simp only [List.mem_append, not_or] at unacked unreleased ⊢
    exact ⟨⟨⟨unreleased.1, unacked.1⟩, unacked.2⟩, unreleased.2⟩
  rw [releasesKept_release released, or_iff_right unignored, ← kept,
    ← saved]
  simp only [sessionKept_append, readModelKept_append, not_or]
    at notSession notNotice ⊢
  simp only [notSession, notNotice, or_false, false_or]
  exact and_comm

/-- The offset of a message is acknowledged only when the message is kept,
exactly if the dead-letter queue takes every message that falls back to
it. -/
theorem onMessage_releasesKept_iff (around : Surroundings)
    (message : RStreamMsgData) :
    ReleasesKept around message (around.onMessage message) ↔
      around.FallbacksTaken message := by
  cases unfrozen : around.frozen with
  | true =>
      have nothing : around.onMessage message = [] := by
        simp [onMessage, unfrozen]
      simp [nothing, ReleasesKept, FallbacksTaken, unfrozen]
  | false =>
      cases filtered : around.filterOrNot message.data.senderId
          message.deliveryId message.messageId with
      | none =>
          simp [onMessage, FallbacksTaken, unfrozen, filtered, ReleasesKept]
      | some status =>
          cases status with
          | newItem =>
              rw [onMessage_newItem unfrozen filtered]
              simp [FallbacksTaken, unfrozen, filtered]
          | newVersion =>
              simp [onMessage, FallbacksTaken, unfrozen, filtered,
                ReleasesKept]
          | canIgnore =>
              simp [onMessage, FallbacksTaken, unfrozen, filtered,
                ReleasesKept, Ignored]
          | retryRequired =>
              have unignored : ¬ around.Ignored message := by
                simp [Ignored, filtered]
              have unacked :
                  .acked ∉ around.fallback message .all false := by
                simp [mem_fallback]
              simp only [onMessage, unfrozen, filtered, Bool.false_eq_true,
                if_false, FallbacksTaken, forall_const]
              rw [releasesKept_release unacked, or_iff_right unignored]
              simp [SessionKept, ReadModelKept, mem_fallback]

/-- The queues are down and no service is available. -/
def down : Surroundings :=
  { frozen := false
    filterOrNot := fun _ _ _ => some .newItem
    cassMessageServiceGetter := fun _ => none
    downstreamServiceGetter := none
    sendToReadModel := fun _ _ => false
    sendToDlq := fun _ _ => false }

/-- A new message that nothing took is acknowledged. -/
theorem down_releases_lost :
    let message : RStreamMsgData :=
      { data := { sessionId := 7, senderId := 1, text := "hi" }
        deliveryId := 1
        messageId := 9 }
    down.onMessage message = [.acked, .handledNewItem 1 1 9] ∧
      ¬ ReleasesKept down message (down.onMessage message) := by
  refine ⟨by decide, ?_⟩
  intro kept
  have acked := kept.1 rfl
  simp [Ignored, down, SessionKept] at acked

end Surroundings

end Worker

end TinyChat
