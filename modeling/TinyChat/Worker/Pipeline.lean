import TinyChat.Downstream.ReadModel
import TinyChat.Lib.Backlog

/-!
# The pipeline of messages

The stream, the outbox worker, the dead-letter queue with its worker, the
queue of the read model with the downstream service, and the queue of the
push service.  Every handler is a task that performs its effects one after
the other; the tasks interleave, may be lost at any point, and may be started
again for the same message as long as that is not settled.
-/

namespace TinyChat

namespace Worker

open Transition

/-- A message of one of the three queues. -/
inductive Parcel where
  | deadLetter (entry : DLQMsgData)
  | readEvent (event : ReadModelEvent)
  | push (addressId : Int) (message : ServerMsgData)
  deriving DecidableEq

/-- What has to be done for a message of the stream. -/
inductive Duty where
  | session (request : CassMsgRequest)
  | inbox (request : CassMsgRequest)
  | notify (addressId : Int) (message : ServerMsgData)
  deriving DecidableEq

def eventDuties (event : ReadModelEvent) : List Duty :=
  [.inbox (Downstream.inboxRequest event),
    .notify event.message.data.receiverId event.message]

def messageDuties (message : RStreamMsgData) : List Duty :=
  .session (sessionRequest message) :: eventDuties (readModelEvent message)

/-- What the consumer of a queue does before it settles a message. -/
def promises : Parcel → List Duty
  | .deadLetter entry =>
      match entry.action with
      | .all => messageDuties entry.data
      | .sessionOnly => [.session (sessionRequest entry.data)]
      | .inboxOnly => eventDuties (readModelEvent entry.data)
  | .readEvent event => eventDuties event
  | .push addressId message => [.notify addressId message]

/-- A step of a handler: one of its effects, the successful reply to a call
of `DeliverReadEvent`, or the acknowledgment of a message of a queue. -/
inductive Work where
  | worker (effect : Effect)
  | downstream (effect : Downstream.Effect)
  | replied (event : ReadModelEvent)
  | ack
  deriving DecidableEq

/-- What a task works on: a record of the stream, which it may ignore, a
message of a queue, or a call that a task has made. -/
inductive Job where
  | record (message : RStreamMsgData) (ignored : Bool)
  | parcel (parcel : Parcel)
  | call (event : ReadModelEvent)
  deriving DecidableEq

/-- A task has the number of its message, or of the message whose task has
called it. -/
structure Task where
  number : Nat
  job : Job
  performed : List Work := []
  remaining : List Work
  deriving DecidableEq

/-- The stream, the queues with what was done so far, the calls of
`DeliverReadEvent` and their successes, the records that were acknowledged
after they were handled or because they were ignored, and the tasks. -/
structure Pipeline where
  log : List (Nat × RStreamMsgData) := []
  backlog : Backlog Duty Parcel := {}
  calls : List (Nat × ReadModelEvent) := []
  replies : List (Nat × ReadModelEvent) := []
  released : List (Nat × RStreamMsgData) := []
  ignored : List (Nat × RStreamMsgData) := []
  tasks : List Task := []
  deriving DecidableEq

inductive PipelineAction where
  | publish (message : RStreamMsgData)
  | onMessage (index : Nat) (around : Surroundings)
  | eventHandler (index : Nat) (around : Surroundings)
  | consumeEvent (index : Nat) (around : Downstream.Surroundings)
  | consumePush (index : Nat) (status : Push.PubStatus)
  | deliverReadEvent (index : Nat) (around : Downstream.Surroundings)
  | perform (index : Nat)
  | loseAck (index : Nat)
  | crash (index : Nat)

/-- The end of a handler of a queue. -/
def settlementWork : Downstream.Settlement → List Work
  | .acked => [.ack]
  | .rejected | .unsettled => []

/-- The end of `DeliverReadEvent`. -/
def replyWork (event : ReadModelEvent) : CallEnd → List Work
  | .returned true => [.replied event]
  | .returned false | .raised => []

/-- The outbox worker asks the read model only for a new message. -/
def Surroundings.notifies (around : Surroundings)
    (message : RStreamMsgData) : Bool :=
  around.frozen = false ∧ around.filterOrNot message.data.senderId
    message.deliveryId message.messageId = some .newItem

def Surroundings.ignores (around : Surroundings)
    (message : RStreamMsgData) : Bool :=
  around.filterOrNot message.data.senderId message.deliveryId
    message.messageId = some .canIgnore

namespace Task

/-- A task of the outbox worker. -/
def ofRecord (number : Nat) (message : RStreamMsgData)
    (around : Surroundings) : Task where
  number := number
  job := .record message (around.ignores message)
  remaining := (around.onMessage message).map .worker

/-- A task of the worker of the dead-letter queue. -/
def ofDeadLetter (number : Nat) (entry : DLQMsgData)
    (around : Surroundings) : Task :=
  let handled := around.eventHandler entry
  { number
    job := .parcel (.deadLetter entry)
    remaining := handled.1.map .worker ++ settlementWork handled.2 }

/-- A task of the downstream service for its queue. -/
def ofReadEvent (number : Nat) (event : ReadModelEvent)
    (around : Downstream.Surroundings) : Task :=
  let handled := around.consumeEvent event
  { number
    job := .parcel (.readEvent event)
    remaining := handled.1.map .downstream ++ settlementWork handled.2 }

/-- A task of the push service for its queue. -/
def ofPush (number : Nat) (addressId : Int) (message : ServerMsgData)
    (status : Push.PubStatus) : Task :=
  let handled := Downstream.consumePush addressId message status
  { number
    job := .parcel (.push addressId message)
    remaining := handled.1.map .downstream ++ settlementWork handled.2 }

/-- A task of the downstream service for a call. -/
def ofCall (number : Nat) (event : ReadModelEvent)
    (around : Downstream.Surroundings) : Task :=
  let handled := around.deliverReadEvent event
  { number
    job := .call event
    remaining := handled.2.map .downstream ++ replyWork event handled.1 }

end Task

namespace Pipeline

/-- What the effect of a task does; a call that succeeds has been answered
before. -/
def apply (pipeline : Pipeline) (task : Task) : Work → Option Pipeline
  | .worker (.sessionWritten request) =>
      some { pipeline with
        backlog := pipeline.backlog.discharge [.session request] }
  | .worker (.readModelDelivered event) =>
      if (task.number, event) ∈ pipeline.replies then some pipeline else none
  | .worker (.readModelQueued event) =>
      some { pipeline with
        backlog := pipeline.backlog.publish (.readEvent event) }
  | .worker (.dlqAccepted entry) =>
      some { pipeline with
        backlog := pipeline.backlog.publish (.deadLetter entry) }
  | .worker .acked =>
      match task.job with
      | .record message true =>
          some { pipeline with
            ignored := pipeline.ignored ++ [(task.number, message)] }
      | .record message false =>
          some { pipeline with
            released := pipeline.released ++ [(task.number, message)] }
      | .parcel _ | .call _ => some pipeline
  | .worker (.handledNewItem _ _ _) => some pipeline
  | .downstream (.inboxWritten request) =>
      some { pipeline with
        backlog := pipeline.backlog.discharge [.inbox request] }
  | .downstream (.pushed addressId message)
  | .downstream (.offline addressId message) =>
      some { pipeline with
        backlog := pipeline.backlog.discharge
          [.notify addressId message] }
  | .downstream (.pushQueued addressId message) =>
      some { pipeline with
        backlog := pipeline.backlog.publish (.push addressId message) }
  | .replied event =>
      some { pipeline with
        replies := pipeline.replies ++ [(task.number, event)] }
  | .ack =>
      match task.job with
      | .parcel _ =>
          some { pipeline with
            backlog := pipeline.backlog.settle task.number }
      | .record _ _ | .call _ => some pipeline

/-- A task is started, and may call the read model. -/
def start (pipeline : Pipeline) (task : Task)
    (calls : List ReadModelEvent) : Pipeline :=
  { pipeline with
    tasks := pipeline.tasks ++ [task]
    calls := pipeline.calls ++
      calls.map (fun event => (task.number, event)) }

/-- A task goes on with the rest of its work. -/
def advance (pipeline : Pipeline) (index : Nat) (task : Task) (work : Work)
    (rest : List Work) : Pipeline :=
  { pipeline with
    tasks := pipeline.tasks.set index { task with
      performed := task.performed ++ [work]
      remaining := rest } }

def step : Transition.Step Pipeline PipelineAction Empty
  | pipeline, .publish message =>
      some ({ pipeline with
        log := pipeline.log ++ [(pipeline.backlog.next, message)]
        backlog := pipeline.backlog.skip }, [])
  | pipeline, .onMessage index around =>
      match pipeline.log[index]? with
      | none => none
      | some (number, message) =>
          some (pipeline.start (.ofRecord number message around)
            (if around.notifies message then [readModelEvent message]
              else []), [])
  | pipeline, .eventHandler index around =>
      match pipeline.backlog.messages[index]? with
      | some (number, .deadLetter entry) =>
          some (pipeline.start (.ofDeadLetter number entry around)
            (if entry.action = .sessionOnly then []
              else [readModelEvent entry.data]), [])
      | _ => none
  | pipeline, .consumeEvent index around =>
      match pipeline.backlog.messages[index]? with
      | some (number, .readEvent event) =>
          some (pipeline.start (.ofReadEvent number event around) [], [])
      | _ => none
  | pipeline, .consumePush index status =>
      match pipeline.backlog.messages[index]? with
      | some (number, .push addressId message) =>
          some (pipeline.start (.ofPush number addressId message status) [],
            [])
      | _ => none
  | pipeline, .deliverReadEvent index around =>
      match pipeline.calls[index]? with
      | none => none
      | some (number, event) =>
          some (pipeline.start (.ofCall number event around) [], [])
  | pipeline, .perform index =>
      match pipeline.tasks[index]? with
      | none => none
      | some task =>
          match task.remaining with
          | [] => none
          | work :: rest =>
              (pipeline.apply task work).map (fun next =>
                (next.advance index task work rest, []))
  | pipeline, .loseAck index =>
      match pipeline.tasks[index]? with
      | some task =>
          match task.remaining with
          | .ack :: rest =>
              some (pipeline.advance index task .ack rest, [])
          | _ => none
      | none => none
  | pipeline, .crash index =>
      some ({ pipeline with tasks := pipeline.tasks.eraseIdx index }, [])

/-- The dead-letter queue takes what falls back to it. -/
def Sound : Pipeline → PipelineAction → Prop
  | pipeline, .onMessage index around =>
      ∀ entry ∈ pipeline.log[index]?, around.FallbacksTaken entry.2
  | _, _ => True

instance (around : Surroundings) (message : RStreamMsgData) :
    Decidable (around.FallbacksTaken message) := by
  unfold Surroundings.FallbacksTaken Surroundings.NotificationRaises
    Surroundings.WriteRaises Surroundings.NotificationFails
    Surroundings.WriteFails Surroundings.DlqTakes
  cases around.filterOrNot message.data.senderId message.deliveryId
      message.messageId with
  | none => infer_instance
  | some state =>
      cases state with
      | _ => infer_instance

instance (pipeline : Pipeline) (action : PipelineAction) :
    Decidable (Sound pipeline action) := by
  unfold Sound
  cases action with
  | _ => infer_instance

/-- The read model is not available to the outbox worker. -/
def troubled : Surroundings where
  frozen := false
  filterOrNot := fun _ _ _ => some .newItem
  cassMessageServiceGetter := fun _ => some (fun _ => .returned true)
  downstreamServiceGetter := none
  sendToReadModel := fun _ _ => false
  sendToDlq := fun _ _ => true

def sampleMessage : RStreamMsgData where
  data := { sessionId := 7, senderId := 1, receiverId := 2, text := "hi" }
  deliveryId := 1
  messageId := 9

/-- The session is written, and the dead-letter queue stands for the rest. -/
def sampleActions : List PipelineAction :=
  [.publish sampleMessage, .onMessage 0 troubled, .perform 0, .perform 0,
    .perform 0]

end Pipeline

end Worker

end TinyChat
