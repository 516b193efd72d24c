import TinyChat.Front.Reader
import TinyChat.Front.UserSession
import TinyChat.Lib.Table

/-!
# The way of a delivery id

The id of a message goes from the counter of the `MessageSender` into the
`int64` field of `ClientMsgData`, from there into the `uint32` field of the
`MessageLog` of its acknowledgement, and back to the client, where the
waiter of the message is removed under it.
-/

namespace TinyChat

/-- `on_acked`. -/
def MessageSender.onAcked (sender : MessageSender) (deliveryId : Nat) :
    MessageSender :=
  { sender with waiters := Table.pop sender.waiters deliveryId }

namespace Front

open Gateway

/-- The message as the gateway parses it. -/
def parsed (message : ClientMsgData) : UserMsgData :=
  { data := message.data, deliveryId := message.deliveryId }

/-- The acknowledgement as the client receives it. -/
def arrivalOf (ack : UserMessageAck) : Arrival :=
  { origin := .own, evtTp := ack.evtTp, deliveryId := ack.deliveryId }

namespace UserSession

/-- What `_on_ack_user_message` does to the waiters. -/
def onAckUserMessage (session : UserSession) (ack : UserMessageAck) :
    UserSession :=
  { session with sender := session.sender.onAcked ack.deliveryId }

/-- The id that the next message gets. -/
def nextDeliveryId (session : UserSession) : Nat :=
  (session.sender.deliveryId + 1) % maxInt64

/-- A message is sent under an id, the gateway that has delivered it
acknowledges it, and the acknowledgement reaches its handler with the same
id and removes the waiter of the message and no other. -/
def ReturnsId (session : UserSession) (logs : OperationLog)
    (reader : MessageReader) (text : String)
    (receiverId sessionId messageId : Int) : Prop :=
  let sent := session.sendMessage text receiverId sessionId
  ∃ message ack, sent.2 = some message ∧
    (reader.onDelivered (parsed message) messageId).2 =
      [.acknowledged (parsed message) ack] ∧
    ((arrivalOf ack).receive logs).2.1 = .handled ∧
    ack.deliveryId = session.nextDeliveryId ∧
    ∀ other, (sent.1.onAckUserMessage ack).sender.waiters.lookup other =
      if other = session.nextDeliveryId then none
      else sent.1.sender.waiters.lookup other

theorem sendMessage_sent (session : UserSession) (text : String)
    {receiverId : Int} (sessionId : Int)
    (known : receiverId ∈ session.chatSessions) :
    (session.sendMessage text receiverId sessionId).2 =
      if session.nextDeliveryId < int64Bound then
        some
          { data :=
              { sessionId := sessionId
                senderId := session.userSeq
                receiverId := receiverId
                text := text }
            deliveryId := session.nextDeliveryId }
      else none := by
  simp only [sendMessage, if_pos known]
  split
  · rename_i small
    have drawn : session.nextDeliveryId < int64Bound := small
    rw [if_pos drawn]
    rfl
  · rename_i large
    have drawn : ¬ session.nextDeliveryId < int64Bound := large
    rw [if_neg drawn]

theorem onDelivered_acknowledged (reader : MessageReader)
    (item : UserMsgData) {messageId : Int} (positive : 0 < messageId)
    (fits : messageId < (maxInt64 : Int)) (ack : UserMessageAck) :
    (reader.onDelivered item messageId).2 = [.acknowledged item ack] ↔
      (0 ≤ item.deliveryId ∧ item.deliveryId < Push.uint32Bound) ∧
      reader.writeQueue.length < MessageReader.queueMaxsize ∧
      ack =
        { evtTp := .ackUserMessage
          channelNumber := 0
          deliveryId := item.deliveryId.toNat
          messageId := messageId.toNat } := by
  have nonzero : messageId ≠ 0 := Int.ne_of_gt positive
  have range : 0 ≤ messageId ∧ messageId < (maxInt64 : Int) :=
    ⟨Int.le_of_lt positive, fits⟩
  simp only [MessageReader.onDelivered, if_neg nonzero, userMessageAck,
    range, and_true]
  by_cases encodable :
      0 ≤ item.deliveryId ∧ item.deliveryId < Push.uint32Bound
  · simp only [encodable, and_self, if_true, true_and]
    split
    · rename_i room
      simp [room, eq_comm]
    · rename_i full
      simp [full]
  · simp [encodable]

theorem arrivalOf_handled (logs : OperationLog) {ack : UserMessageAck}
    (evtTp : ack.evtTp = .ackUserMessage) :
    ((arrivalOf ack).receive logs).2.1 = .handled ↔
      (logs 0).contains ack.deliveryId = false := by
  have known : handlers (arrivalOf ack).evtTp = some none := by
    rw [arrivalOf, evtTp]
    rfl
  simp only [Arrival.receive, known]
  change ((if (logs 0).contains ack.deliveryId = true then _ else _ :
    OperationLog × Reception × Option AckLog)).2.1 = _ ↔ _
  cases (logs 0).contains ack.deliveryId with
  | true => simp
  | false => simp [arrivalOf]

/-- The id of a message that was delivered comes back to its waiter exactly
if it fits a `uint32` field, the write queue of the gateway has room, and the
client has not logged the same id for the channel number `0`. -/
theorem returnsId_iff (session : UserSession) (logs : OperationLog)
    (reader : MessageReader) (text : String) (receiverId sessionId : Int)
    (known : receiverId ∈ session.chatSessions) (messageId : Int)
    (positive : 0 < messageId) (fits : messageId < (int64Bound : Int)) :
    session.ReturnsId logs reader text receiverId sessionId messageId ↔
      (session.nextDeliveryId : Int) < Push.uint32Bound ∧
      reader.writeQueue.length < MessageReader.queueMaxsize ∧
      (logs 0).contains session.nextDeliveryId = false := by
  have wide : messageId < (maxInt64 : Int) := by
    refine Int.lt_trans fits ?_
    decide
  simp only [ReturnsId, sendMessage_sent session text sessionId known]
  constructor
  · rintro ⟨message, ack, sent, acknowledged, handled, same, _⟩
    split at sent
    · cases sent
      rw [onDelivered_acknowledged reader _ positive wide] at acknowledged
      obtain ⟨encodable, room, rfl⟩ := acknowledged
      have fresh := (arrivalOf_handled logs rfl).mp handled
      rw [same] at fresh
      exact ⟨encodable.2, room, fresh⟩
    · cases sent
  · rintro ⟨small, room, fresh⟩
    have narrow : session.nextDeliveryId < int64Bound := by
      have bound : (Push.uint32Bound : Int) ≤ (int64Bound : Int) := by
        decide
      exact Int.ofNat_lt.mp (Int.lt_of_lt_of_le small bound)
    refine ⟨_, _, if_pos narrow,
      (onDelivered_acknowledged reader _ positive wide _).mpr
        ⟨⟨Int.natCast_nonneg _, small⟩, room, rfl⟩, ?_, rfl, ?_⟩
    · exact (arrivalOf_handled logs rfl).mpr fresh
    · intro other
      exact Table.lookup_pop _ _ _

/-- The first message of a session. -/
theorem returnsId_first :
    let session : UserSession := { userSeq := 1, chatSessions := [2] }
    session.nextDeliveryId = 1 ∧
      session.ReturnsId .new {} "hi" 2 7 100 := by
  refine ⟨rfl, ?_⟩
  exact (returnsId_iff _ .new {} "hi" 2 7 (by decide) 100 (by decide)
    (by decide)).mpr ⟨by decide, by decide, rfl⟩

/-- The message after `2 ^ 32 - 1` ids is sent and delivered, but the gateway
cannot write its id into an acknowledgement. -/
theorem id_lost_beyond_uint32 :
    let session : UserSession :=
      { userSeq := 1
        sender := { deliveryId := 4294967295 }
        chatSessions := [2] }
    session.nextDeliveryId = 4294967296 ∧
      (session.sendMessage "hi" 2 7).2.isSome = true ∧
      (({} : MessageReader).onDelivered
        { data := { sessionId := 7, senderId := 1, receiverId := 2,
                    text := "hi" }
          deliveryId := 4294967296 } 100).2 = [] ∧
      ¬ session.ReturnsId .new {} "hi" 2 7 100 := by
  refine ⟨by decide, by decide, by decide, ?_⟩
  rintro ⟨message, ack, sent, acknowledged, _⟩
  rw [sendMessage_sent _ _ _ (by decide), if_pos (by decide)] at sent
  cases sent
  rw [onDelivered_acknowledged _ _ (by decide) (by decide)] at acknowledged
  exact absurd acknowledged.1.2 (by decide)

end UserSession

end Front

end TinyChat
