import Mathlib.Data.Nat.Notation

/-!
# Messages and their sender

A client numbers the messages that it sends with a counter of its own.  The
numbers live as long as the sender does: a new sender starts at `0` again.
-/

namespace TinyChat

structure MsgData where
  sessionId : Int
  senderId : Int
  receiverId : Int := 0
  text : String
  deriving DecidableEq

/-- What a client submits; the id is an `int64` on the wire. -/
structure ClientMsgData where
  data : MsgData
  deliveryId : Nat

/-- What a client receives. -/
structure ServerMsgData where
  data : MsgData
  messageId : Int
  deriving DecidableEq

/-- What the upstream service publishes to the stream. -/
structure RStreamMsgData where
  data : MsgData
  deliveryId : Int
  messageId : Int := 0
  deriving DecidableEq

/-- What the storage service is asked to write. -/
structure CassMsgRequest where
  messageData : MsgData
  messageId : Int
  deliveryId : Int
  deriving DecidableEq

def int64Bound : Nat := Nat.pow 2 63

/-- `MAX_INT64`, which the source writes as `2 << 63`. -/
def maxInt64 : Nat := 2 <<< 63

structure OutboundMessageLog where
  senderId : Int
  receiverId : Int
  sessionId : Int
  deliveryId : Option Nat := none

structure MessageSender where
  deliveryId : Nat := 0
  waiters : List (Nat × OutboundMessageLog) := []

namespace MessageSender

/-- Draw an id for a message of somebody else. -/
def borrowVirtualLocalId (sender : MessageSender) : Nat × MessageSender :=
  let deliveryId := (sender.deliveryId + 1) % maxInt64
  (deliveryId, { sender with deliveryId := deliveryId })

def write (sender : MessageSender) (message : OutboundMessageLog) :
    Nat × MessageSender :=
  let deliveryId := (sender.deliveryId + 1) % maxInt64
  let message := { message with deliveryId := some deliveryId }
  (deliveryId,
    { sender with
      deliveryId := deliveryId
      waiters := (deliveryId, message) :: sender.waiters })

end MessageSender

end TinyChat
