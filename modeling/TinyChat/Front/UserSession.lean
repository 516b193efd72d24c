import Mathlib.Data.List.Basic
import TinyChat.Message.Sender

/-!
# The clients of a user

A `UserSession` draws the delivery ids of the messages that it sends and the
local ids of the messages that are pushed to it from one `MessageSender`.
The sessions of a user, one after another or on several devices, do not know
each other's ids.
-/

namespace TinyChat

namespace Front

structure UserSession where
  userSeq : Int
  sender : MessageSender := {}
  chatSessions : List Int
  localIdToSession : List (Nat × Int) := []
  maxLocalId : Nat := 1
  lastMaxMsgId : Int := 0

inductive ClientEvent where
  | send (text : String) (receiverId sessionId : Int)
  | push (senderId messageId : Int)

namespace UserSession

/-- `send_message`; nothing is sent if the chat session is unknown or the id
does not fit its field, but the id has been drawn. -/
def sendMessage (session : UserSession) (text : String)
    (receiverId sessionId : Int) : UserSession × Option ClientMsgData :=
  let log : OutboundMessageLog :=
    { senderId := session.userSeq
      receiverId := receiverId
      sessionId := sessionId }
  let written := session.sender.write log
  let deliveryId := written.1
  let drawn :=
    { session with
      sender := written.2
      maxLocalId := max session.maxLocalId deliveryId }
  if receiverId ∈ session.chatSessions then
    let entered :=
      { drawn with
        localIdToSession := (deliveryId, receiverId) ::
          session.localIdToSession }
    if deliveryId < int64Bound then
      let data : MsgData :=
        { sessionId := sessionId
          senderId := session.userSeq
          receiverId := receiverId
          text := text }
      (entered, some { data := data, deliveryId := deliveryId })
    else (entered, none)
  else (drawn, none)

/-- `on_push_user_message`, which fails before it draws an id if the chat
session is unknown. -/
def onPushUserMessage (session : UserSession) (senderId messageId : Int) :
    UserSession :=
  if senderId ∈ session.chatSessions then
    let borrowed := session.sender.borrowVirtualLocalId
    { session with
      sender := borrowed.2
      maxLocalId := max session.maxLocalId borrowed.1
      lastMaxMsgId := messageId }
  else session

def act (session : UserSession) : ClientEvent →
    UserSession × Option ClientMsgData
  | .send text receiverId sessionId =>
      session.sendMessage text receiverId sessionId
  | .push senderId messageId =>
      (session.onPushUserMessage senderId messageId, none)

/-- The messages that a session submits over its life. -/
def sent (session : UserSession) : List ClientEvent → List ClientMsgData
  | [] => []
  | event :: events =>
      (session.act event).2.toList ++ (session.act event).1.sent events

def sentIds (session : UserSession) (events : List ClientEvent) : List Int :=
  (session.sent events).map (fun message => (message.deliveryId : Int))

end UserSession

/-- The sessions that a user has opened so far and what they submitted. -/
structure Clients where
  sessions : List UserSession := []
  sent : List ClientMsgData := []

/-- A new session is opened, on a device of its own or after another one was
closed, or something happens in a session. -/
inductive ClientsEvent where
  | openSession (chatSessions : List Int)
  | act (index : Nat) (event : ClientEvent)

namespace Clients

def act (clients : Clients) (userSeq : Int) : ClientsEvent → Clients
  | .openSession chatSessions =>
      { clients with
        sessions := clients.sessions ++
          [{ userSeq := userSeq, chatSessions := chatSessions }] }
  | .act index event =>
      match clients.sessions[index]? with
      | none => clients
      | some session =>
          { sessions := clients.sessions.set index (session.act event).1
            sent := clients.sent ++ (session.act event).2.toList }

def run (userSeq : Int) (history : List ClientsEvent) : Clients :=
  history.foldl (fun clients event => clients.act userSeq event) {}

/-- The delivery ids of the submitted messages, in their order. -/
def sentIds (userSeq : Int) (history : List ClientsEvent) : List Int :=
  (run userSeq history).sent.map (fun message => (message.deliveryId : Int))

end Clients

end Front

end TinyChat
