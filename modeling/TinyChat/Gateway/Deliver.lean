import TinyChat.Lib.Transition
import TinyChat.Message.Sender
import TinyChat.Push.Manager
import TinyChat.Upstream.TracerSteps

/-!
# From the websocket to the stream

`read_messages` parses the frames of a session.  The messages among them
wait in a queue for the task `on_user_push_message`, which hands each to
the upstream service and acknowledges it to the client.  The parsers of the
message formats are those of the protocol buffer library.
-/

namespace TinyChat

namespace Gateway

open Transition

/-- The values of `PubEventType`; a frame may have a number without a
name. -/
inductive PubEventType where
  | pushFriendRequest
  | pushFriendConfirm
  | pushFriendSession
  | pushUserKickedOff
  | pushUserMessage
  | pushUserEvent
  | ackAction
  | ackFriendRequest
  | ackFriendConfirm
  | ackFriendSession
  | ackUserMessage
  | ackUserEvent
  | unknown (number : Int)
  deriving DecidableEq

abbrev Bytes := List UInt8

structure PubEventFromUser where
  evtTp : PubEventType
  payload : Bytes
  deriving DecidableEq

/-- `ClientMsgData` as it is parsed, with any `int64` as its id. -/
structure UserMsgData where
  data : MsgData
  deliveryId : Int
  deriving DecidableEq

/-- The `FromString` of the formats that a client may send; `none` is a
`DecodeError`. -/
structure Formats where
  pubEventFromUser : Bytes → Option PubEventFromUser
  clientMsgData : Bytes → Option UserMsgData
  pubEventAckFromUser : Bytes → Option (List Push.MessageLog)

/-- An acknowledgement for the client, with the `message_id` in its data. -/
structure UserMessageAck where
  evtTp : PubEventType
  channelNumber : Int
  deliveryId : Nat
  messageId : Nat
  deriving DecidableEq

/-- The event that `on_user_push_message` builds; the fields of the log and
the eight bytes of the data refuse other values. -/
def userMessageAck (deliveryId messageId : Int) : Option UserMessageAck :=
  if (0 ≤ deliveryId ∧ deliveryId < Push.uint32Bound) ∧
      (0 ≤ messageId ∧ messageId < (maxInt64 : Int)) then
    some
      { evtTp := .ackUserMessage
        channelNumber := 0
        deliveryId := deliveryId.toNat
        messageId := messageId.toNat }
  else none

/-- Where `on_user_push_message` is. -/
inductive DeliverTask where
  | waiting
  | calling (item : UserMsgData)
  | ended

/-- `cancelled` says that the task was cancelled inside of the call that it
waits for. -/
structure MessageReader where
  reading : Bool := true
  pendingDeliver : List UserMsgData := []
  deliverTask : DeliverTask := .waiting
  cancelled : Bool := false
  inflightId : Int := 0
  maxSentId : Int := 0
  writeQueue : List UserMessageAck := []

/-- A frame arrives or the connection ends; the task takes a message, for
which a service is available or not; the call returns the id of the message
or `0`, or raises; the writer takes an event. -/
inductive ReaderAction where
  | receive (bytes : Bytes)
  | disconnect
  | deliver (service : Bool)
  | delivered (messageId : Int)
  | deliverRaises
  | write

inductive ReaderEvent where
  | received (bytes : Bytes)
  | handedOver (item : UserMsgData)
  | acknowledged (item : UserMsgData) (ack : UserMessageAck)
  | channelAck (logs : List Push.MessageLog)
  deriving DecidableEq

namespace MessageReader

def queueMaxsize : Nat := 1024

/-- The `finally` of `read_messages` cancels the task.  The wrapper of the
call swallows the `CancelledError`, so that only a task that waits for a
message ends. -/
def stop (reader : MessageReader) : MessageReader :=
  match reader.deliverTask with
  | .calling _ => { reader with reading := false, cancelled := true }
  | _ => { reader with reading := false, deliverTask := .ended }

/-- A frame is handled; an exception ends the reader. -/
def onFrame (formats : Formats) (reader : MessageReader)
    (frame : PubEventFromUser) : MessageReader × List ReaderEvent :=
  match frame.evtTp with
  | .pushUserMessage =>
      match formats.clientMsgData frame.payload with
      | none => (reader.stop, [])
      | some item =>
          ({ reader with
              pendingDeliver := reader.pendingDeliver ++ [item] }, [])
  | .ackAction =>
      match formats.pubEventAckFromUser frame.payload with
      | none => (reader.stop, [])
      | some logs => (reader, [.channelAck logs])
  | _ => (reader, [])

/-- The end of the loop of `on_user_push_message` for one message. -/
def onDelivered (reader : MessageReader) (item : UserMsgData)
    (messageId : Int) : MessageReader × List ReaderEvent :=
  let next :=
    { reader with
      deliverTask := .waiting
      cancelled := false
      inflightId := 0 }
  if messageId = 0 then (next, [])
  else
    let sent :=
      { next with maxSentId := max reader.maxSentId item.deliveryId }
    match userMessageAck item.deliveryId messageId with
    | none => ({ sent with deliverTask := .ended }, [])
    | some ack =>
        if reader.writeQueue.length < queueMaxsize then
          ({ sent with writeQueue := reader.writeQueue ++ [ack] },
            [.acknowledged item ack])
        else ({ sent with deliverTask := .ended }, [])

def step (formats : Formats) :
    Step MessageReader ReaderAction ReaderEvent
  | reader, .receive bytes =>
      if reader.reading then
        match formats.pubEventFromUser bytes with
        | none => some (reader.stop, [.received bytes])
        | some frame =>
            let next := reader.onFrame formats frame
            some (next.1, .received bytes :: next.2)
      else none
  | reader, .disconnect =>
      if reader.reading then some (reader.stop, []) else none
  | reader, .deliver service =>
      match reader.deliverTask, reader.pendingDeliver with
      | .waiting, item :: items =>
          let taken := { reader with pendingDeliver := items }
          if service then
            some ({ taken with
                deliverTask := .calling item
                inflightId := item.deliveryId }, [.handedOver item])
          else
            some ({ taken with
              deliverTask := .ended
              inflightId := item.deliveryId }, [])
      | _, _ => none
  | reader, .delivered messageId =>
      match reader.deliverTask with
      | .calling item =>
          some (reader.onDelivered item
            (if reader.cancelled then 0 else messageId))
      | _ => none
  | reader, .deliverRaises =>
      match reader.deliverTask with
      | .calling _ => some ({ reader with deliverTask := .ended }, [])
      | _ => none
  | reader, .write =>
      match reader.writeQueue with
      | [] => none
      | _ :: events => some ({ reader with writeQueue := events }, [])

/-- The message of a frame, if the frame has one. -/
def messageOf (formats : Formats) (bytes : Bytes) : Option UserMsgData :=
  match formats.pubEventFromUser bytes with
  | none => none
  | some frame =>
      if frame.evtTp = .pushUserMessage then
        formats.clientMsgData frame.payload
      else none

/-- The messages that were received, in their order. -/
def receivedMessages (formats : Formats) (trace : List ReaderEvent) :
    List UserMsgData :=
  trace.filterMap (fun event =>
    match event with
    | .received bytes => messageOf formats bytes
    | _ => none)

/-- The messages that were handed to the upstream service, in their
order. -/
def handedOver (trace : List ReaderEvent) : List UserMsgData :=
  trace.filterMap (fun event =>
    match event with
    | .handedOver item => some item
    | _ => none)

section

variable {formats : Formats} {reader next : MessageReader}
  {action : ReaderAction} {trace events : List ReaderEvent}

theorem receivedMessages_append (first second : List ReaderEvent) :
    receivedMessages formats (first ++ second) =
      receivedMessages formats first ++ receivedMessages formats second :=
  List.filterMap_append

theorem handedOver_append (first second : List ReaderEvent) :
    handedOver (first ++ second) = handedOver first ++ handedOver second :=
  List.filterMap_append

/-- The messages are handed over in the order in which they were received,
until the task ends. -/
structure InOrder (formats : Formats) (trace : List ReaderEvent)
    (reader : MessageReader) : Prop where
  handed : handedOver trace <+: receivedMessages formats trace
  pending : reader.deliverTask ≠ .ended →
    receivedMessages formats trace =
      handedOver trace ++ reader.pendingDeliver

theorem stop_reading : reader.stop.reading = false := by
  unfold stop
  split <;> rfl

theorem stop_ended (ended : reader.deliverTask = .ended) :
    reader.stop.deliverTask = .ended := by
  unfold stop
  rw [ended]

/-- A step that hands nothing over, and adds what it receives to the
queue. -/
theorem InOrder.keep (inOrder : InOrder formats trace reader)
    (nothing : handedOver events = [])
    (ended : next.deliverTask ≠ .ended → reader.deliverTask ≠ .ended)
    (queued : next.deliverTask ≠ .ended →
      next.pendingDeliver =
        reader.pendingDeliver ++ receivedMessages formats events) :
    InOrder formats (trace ++ events) next := by
  refine ⟨?_, ?_⟩
  · rw [handedOver_append, nothing, List.append_nil,
      receivedMessages_append]
    exact inOrder.handed.trans (List.prefix_append _ _)
  · intro running
    rw [handedOver_append, nothing, List.append_nil,
      receivedMessages_append, inOrder.pending (ended running),
      queued running, List.append_assoc]

theorem InOrder.stop (inOrder : InOrder formats trace reader)
    (nothing : handedOver events = [])
    (unreceived : receivedMessages formats events = []) :
    InOrder formats (trace ++ events) reader.stop := by
  unfold MessageReader.stop
  split
  · refine inOrder.keep nothing id ?_
    intro _
    rw [unreceived, List.append_nil]
  · exact inOrder.keep nothing (fun running => absurd rfl running)
      (fun running => absurd rfl running)

theorem InOrder.receive (inOrder : InOrder formats trace reader)
    {bytes : Bytes}
    (stepped : step formats reader (.receive bytes) =
      some (next, events)) :
    InOrder formats (trace ++ events) next := by
  simp only [step] at stepped
  split at stepped
  · split at stepped
    · rename_i unparsed
      cases stepped
      exact inOrder.stop rfl (by simp [receivedMessages, messageOf, unparsed])
    · rename_i frame parsed
      simp only [onFrame] at stepped
      split at stepped
      · rename_i message
        split at stepped
        · rename_i undecoded
          cases stepped
          exact inOrder.stop rfl (by
            simp [receivedMessages, messageOf, parsed, message, undecoded])
        · rename_i item decoded
          cases stepped
          refine inOrder.keep rfl id ?_
          intro _
          simp [receivedMessages, messageOf, parsed, message, decoded]
      · rename_i ack
        split at stepped
        · cases stepped
          exact inOrder.stop rfl (by
            simp [receivedMessages, messageOf, parsed, ack])
        · cases stepped
          refine inOrder.keep rfl id ?_
          intro _
          simp [receivedMessages, messageOf, parsed, ack]
      · rename_i other _
        have different : frame.evtTp ≠ .pushUserMessage := other
        cases stepped
        refine inOrder.keep rfl id ?_
        intro _
        simp [receivedMessages, messageOf, parsed, different]
  · cases stepped

theorem onDelivered_frame (formats : Formats) (reader : MessageReader)
    (item : UserMsgData) (messageId : Int) :
    handedOver (reader.onDelivered item messageId).2 = [] ∧
      receivedMessages formats (reader.onDelivered item messageId).2 = [] ∧
      (reader.onDelivered item messageId).1.pendingDeliver =
        reader.pendingDeliver := by
  simp only [onDelivered]
  split
  · exact ⟨rfl, rfl, rfl⟩
  · split
    · exact ⟨rfl, rfl, rfl⟩
    · split
      · exact ⟨rfl, rfl, rfl⟩
      · exact ⟨rfl, rfl, rfl⟩

theorem InOrder.step (inOrder : InOrder formats trace reader)
    (stepped : MessageReader.step formats reader action =
      some (next, events)) :
    InOrder formats (trace ++ events) next := by
  cases action with
  | receive bytes => exact inOrder.receive stepped
  | disconnect =>
      simp only [MessageReader.step] at stepped
      split at stepped
      · cases stepped
        exact inOrder.stop rfl rfl
      · cases stepped
  | deliver service =>
      simp only [MessageReader.step] at stepped
      split at stepped
      · rename_i item items waiting queued
        have running : reader.deliverTask ≠ .ended := by
          rw [waiting]
          exact DeliverTask.noConfusion
        have shape := inOrder.pending running
        rw [queued] at shape
        split at stepped
        · cases stepped
          have received : receivedMessages formats
              (trace ++ [ReaderEvent.handedOver item]) =
              handedOver (trace ++ [ReaderEvent.handedOver item]) ++ items := by
            rw [receivedMessages_append, handedOver_append, shape]
            simp [receivedMessages, handedOver]
          refine ⟨?_, fun _ => received⟩
          rw [received]
          exact List.prefix_append _ _
        · cases stepped
          exact inOrder.keep rfl (fun running => absurd rfl running)
            (fun running => absurd rfl running)
      · cases stepped
  | delivered messageId =>
      simp only [MessageReader.step] at stepped
      split at stepped
      · rename_i item calling
        have running : reader.deliverTask ≠ .ended := by
          rw [calling]
          exact DeliverTask.noConfusion
        obtain ⟨unhanded, unreceived, same⟩ :=
          onDelivered_frame formats reader item
            (if reader.cancelled then 0 else messageId)
        rw [Option.some.inj stepped] at unhanded unreceived same
        refine inOrder.keep unhanded (fun _ => running) ?_
        intro _
        rw [unreceived, List.append_nil]
        exact same
      · cases stepped
  | deliverRaises =>
      simp only [MessageReader.step] at stepped
      split at stepped
      · cases stepped
        exact inOrder.keep rfl (fun running => absurd rfl running)
          (fun running => absurd rfl running)
      · cases stepped
  | write =>
      simp only [MessageReader.step] at stepped
      split at stepped
      · cases stepped
      · cases stepped
        refine inOrder.keep rfl id ?_
        intro _
        exact (List.append_nil _).symm

/-- The messages that are handed over are the first ones that were
received. -/
theorem handedOver_received
    (run : AnyRun (MessageReader.step formats) {} trace reader) :
    handedOver trace <+: receivedMessages formats trace := by
  have inOrder : InOrder formats trace reader := by
    refine run.invariant ⟨List.prefix_refl _, fun _ => rfl⟩ ?_
    intro trace events state next action inOrder _ stepped
    exact inOrder.step stepped
  exact inOrder.handed

end

/-- The client writes this user as the sender of every message. -/
def WritesSender (formats : Formats) (user : Int) (_ : MessageReader) :
    ReaderAction → Prop
  | .receive bytes => ∀ item, messageOf formats bytes = some item →
      item.data.senderId = user
  | _ => True

section

variable {formats : Formats} {reader next : MessageReader} {user : Int}
  {action : ReaderAction} {trace events : List ReaderEvent}

/-- Only a frame that arrives is received. -/
theorem received_step {bytes : Bytes}
    (stepped : step formats reader action = some (next, events))
    (received : .received bytes ∈ events) : action = .receive bytes := by
  cases action with
  | receive arrived =>
      simp only [step] at stepped
      split at stepped
      · split at stepped
        · cases stepped
          cases List.mem_singleton.mp received
          rfl
        · rename_i frame _
          cases stepped
          rcases List.mem_cons.mp received with same | later
          · cases same
            rfl
          · have unreceived : .received bytes ∉
                (reader.onFrame formats frame).2 := by
              unfold onFrame
              split
              · split <;> simp
              · split <;> simp
              · simp
            exact absurd later unreceived
      · cases stepped
  | disconnect =>
      simp only [step] at stepped
      split at stepped
      · cases stepped
        cases received
      · cases stepped
  | deliver service =>
      simp only [step] at stepped
      split at stepped
      · split at stepped
        · cases stepped
          cases List.mem_singleton.mp received
        · cases stepped
          cases received
      · cases stepped
  | delivered messageId =>
      simp only [step] at stepped
      split at stepped
      · rename_i item _
        have unreceived : ∀ messageId, .received bytes ∉
            (reader.onDelivered item messageId).2 := by
          intro messageId
          simp only [onDelivered]
          split
          · simp
          · split
            · simp
            · split <;> simp
        have absent :=
          unreceived (if reader.cancelled then 0 else messageId)
        rw [Option.some.inj stepped] at absent
        exact absurd received absent
      · cases stepped
  | deliverRaises =>
      simp only [step] at stepped
      split at stepped
      · cases stepped
        cases received
      · cases stepped
  | write =>
      simp only [step] at stepped
      split at stepped
      · cases stepped
      · cases stepped
        cases received

theorem receivedMessages_sender
    (run : Run (step formats) (WritesSender formats user) {} trace reader) :
    ∀ item ∈ receivedMessages formats trace, item.data.senderId = user := by
  induction run with
  | refl =>
      intro item member
      cases member
  | snoc _ writes stepped senders =>
      intro item member
      rw [receivedMessages_append] at member
      rcases List.mem_append.mp member with earlier | new
      · exact senders item earlier
      · obtain ⟨event, reported, found⟩ := List.mem_filterMap.mp new
        cases event with
        | received bytes =>
            cases received_step stepped reported
            exact writes item found
        | handedOver item => cases found
        | acknowledged item ack => cases found
        | channelAck logs => cases found

end

/-- The calls of this session are made with the messages that it hands over;
the other calls are arbitrary. -/
def CallsWith (own : Nat → Prop) (items : List UserMsgData) (call : Nat)
    (data : MsgData) (deliveryId : Int) : Prop :=
  own call → { data := data, deliveryId := deliveryId } ∈ items

/-- If the client of a session writes its user as the sender of every
message, this is the sender of all messages that the session hands over and
of all that the upstream service publishes for it. -/
theorem written_sender_published (formats : Formats) (user : Int)
    {reader : MessageReader} {trace : List ReaderEvent}
    (run : Run (step formats) (WritesSender formats user) {} trace reader)
    (own : Nat → Prop) {servicer : Upstream.UpstreamTransferServicer}
    {events : List Upstream.UpstreamEvent}
    (served : Run Upstream.UpstreamTransferServicer.step
      (Upstream.UpstreamTransferServicer.Requests
        (CallsWith own (handedOver trace)))
      Upstream.UpstreamTransferServicer.start events servicer) :
    (∀ item ∈ handedOver trace, item.data.senderId = user) ∧
    ∀ call rsqData now, own call →
      .publishStarted call rsqData now ∈ events →
      rsqData.data.senderId = user := by
  have handed : ∀ item ∈ handedOver trace, item.data.senderId = user := by
    intro item member
    exact receivedMessages_sender run item
      ((handedOver_received run.any).subset member)
  refine ⟨handed, ?_⟩
  intro call rsqData now mine published
  have member :=
    Upstream.UpstreamTransferServicer.published_requested served published
  exact handed _ (member mine)

/-- A message of user `9`, and the bytes of the frame that has it. -/
def helloItem : UserMsgData :=
  { data :=
      { sessionId := 7
        senderId := 9
        receiverId := 2
        text := "hi" }
    deliveryId := 1 }

def helloPayload : Bytes :=
  [10, 10, 8, 7, 16, 9, 24, 2, 34, 2, 104, 105, 16, 1]

def helloFrame : Bytes := [8, 8, 18, 14] ++ helloPayload

/-- The parsers at these bytes. -/
def helloFormats : Formats :=
  { pubEventFromUser := fun bytes =>
      if bytes = helloFrame then
        some { evtTp := .pushUserMessage, payload := helloPayload }
      else none
    clientMsgData := fun bytes =>
      if bytes = helloPayload then some helloItem else none
    pubEventAckFromUser := fun _ => none }

def helloTrace : List ReaderEvent :=
  [.received helloFrame, .handedOver helloItem]

def helloPublished : RStreamMsgData :=
  { data := helloItem.data, deliveryId := 1, messageId := 100 }

theorem hello_handedOver {allowed : MessageReader → ReaderAction → Prop}
    (arrives : allowed {} (.receive helloFrame))
    (delivers : allowed { pendingDeliver := [helloItem] } (.deliver true)) :
    ∃ reader, Run (step helloFormats) allowed {} helloTrace reader := by
  have received := (Run.refl : Run (step helloFormats) allowed {} _ _).act
    (.receive helloFrame) arrives rfl
  exact ⟨_, received.act (.deliver true) delivers rfl⟩

theorem hello_served :
    ∃ servicer, Run Upstream.UpstreamTransferServicer.step
      (Upstream.UpstreamTransferServicer.Requests
        (CallsWith (fun _ => True) (handedOver helloTrace)))
      Upstream.UpstreamTransferServicer.start
      [.checked 0 (9, 1) 0, .publishStarted 0 helloPublished 0]
      servicer := by
  have called := (Run.refl : Run Upstream.UpstreamTransferServicer.step
    (Upstream.UpstreamTransferServicer.Requests
      (CallsWith (fun _ => True) (handedOver helloTrace)))
    Upstream.UpstreamTransferServicer.start _ _).act
    (.deliverMessage 0 helloItem.data 1 true)
    (fun _ => List.mem_singleton.mpr rfl) rfl
  exact ⟨_, called.act (.flicked 0 (.success 100)) trivial rfl⟩

/-- The session of user `9` and its message. -/
theorem written_sender_published_hello :
    (∀ item ∈ handedOver helloTrace, item.data.senderId = 9) ∧
      helloPublished.data.senderId = 9 := by
  have writes : ∀ item, messageOf helloFormats helloFrame = some item →
      item.data.senderId = 9 := by
    intro item found
    cases found
    rfl
  obtain ⟨reader, run⟩ := @hello_handedOver (WritesSender helloFormats 9)
    writes trivial
  obtain ⟨servicer, served⟩ := hello_served
  have senders := written_sender_published helloFormats 9 run
    (fun _ => True) served
  exact ⟨senders.1, senders.2 0 helloPublished 0 trivial (by decide)⟩

/-- In the session of user `5` the same frame is handed over and published
as a message of user `9`. -/
theorem forged_sender_published :
    (∃ reader, AnyRun (step helloFormats) {} helloTrace reader) ∧
    (∃ servicer, Run Upstream.UpstreamTransferServicer.step
      (Upstream.UpstreamTransferServicer.Requests
        (CallsWith (fun _ => True) (handedOver helloTrace)))
      Upstream.UpstreamTransferServicer.start
      [.checked 0 (9, 1) 0, .publishStarted 0 helloPublished 0] servicer) ∧
    ¬ (∀ item ∈ handedOver helloTrace, item.data.senderId = 5) ∧
    helloPublished.data.senderId ≠ 5 := by
  refine ⟨hello_handedOver trivial trivial, hello_served, ?_, by decide⟩
  intro senders
  have own := senders helloItem (by decide)
  cases own

end MessageReader

end Gateway

end TinyChat
