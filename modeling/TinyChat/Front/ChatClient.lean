import TinyChat.Front.UserSession
import TinyChat.Lib.Table
import TinyChat.Message.Stream

/-!
# The chat sessions of a client

Every message that a client sends or gets has a local id, under which it is in
the timeline of its chat session.  For the messages that it has sent the client
also remembers which session they belong to, and forgets the small ids when
the acknowledgement of a large one arrives.
-/

namespace TinyChat

namespace Front

structure TextMessage where
  localSeq : Nat
  localId : Nat
  text : String
  messageId : Int := -1
  isOutbound : Bool := true
  deriving DecidableEq

structure ChatSession where
  sessionId : Option Int
  messagesTimeline : Table Nat TextMessage := []
  deriving DecidableEq

/-- A `UserSession` with its chat sessions by the id of the friend. -/
structure ChatClient where
  userSeq : Int
  chatSessions : Table Int ChatSession := []
  stream : MessageStream := {}
  timeoutLogs : Table Nat OutboundMessageLog := []
  localIdToSession : Table Nat Int := []
  minLocalId : Nat := 1
  maxLocalId : Nat := 1
  lastMaxMsgId : Int := 0

/-- A message of a pulled session. -/
structure SessionMessage where
  messageId : Int
  senderId : Int
  text : String
  deriving DecidableEq

/-- A message of the pulled inbox. -/
structure InboxMessage where
  messageId : Int
  senderId : Int
  sessionId : Option Int
  text : String
  deriving DecidableEq

inductive ClientError where
  | keyError
  | unboundLocalError
  | attributeError
  | assertionError
  | valueError
  | notUnique
  deriving DecidableEq

/-- A message that was handed to the writer, the acknowledgement of a message
of a friend, and an exception. -/
inductive ClientReport where
  | submitted (deliveryId : Nat) (friendId : Int)
  | acked (deliveryId : Nat) (friendId : Int)
  | ackFailed (deliveryId : Nat) (error : ClientError)
  | raised (error : ClientError)
  deriving DecidableEq

namespace ChatClient

def timeline (client : ChatClient) (friendId : Int) :
    Table Nat TextMessage :=
  match client.chatSessions.lookup friendId with
  | none => []
  | some chat => chat.messagesTimeline

/-- Write into the timeline of a chat session. -/
def enter (client : ChatClient) (friendId : Int) (localId : Nat)
    (message : TextMessage) : ChatClient :=
  match client.chatSessions.lookup friendId with
  | none => client
  | some chat =>
      { client with
        chatSessions := client.chatSessions.assign friendId
          { chat with
            messagesTimeline := chat.messagesTimeline.assign localId
              message } }

def outboundLog (client : ChatClient) (receiverId : Int)
    (sessionId : Option Int) : OutboundMessageLog where
  senderId := client.userSeq
  receiverId := receiverId
  sessionId := sessionId.getD 0

/-- `UserSession.send_message`, which draws an id and remembers the session
before the message is serialized. -/
def submit (client : ChatClient) (receiverId : Int) (sessionId : Option Int) :
    ChatClient × Option Nat :=
  let log := client.outboundLog receiverId sessionId
  let deliveryId := (client.stream.sender.write log).1
  let entered :=
    { client with
      stream := (client.stream.write log).1
      maxLocalId := max client.maxLocalId deliveryId
      localIdToSession :=
        client.localIdToSession.assign deliveryId receiverId }
  if deliveryId < int64Bound then (entered, some deliveryId)
  else (entered, none)

/-- `ChatSession.send_message` of the session of a friend. -/
def sendMessage (client : ChatClient) (friendId : Int)
    (sessionId : Option Int) (text : String) :
    ChatClient × List ClientReport :=
  match client.submit friendId sessionId with
  | (next, none) => (next, [.raised .valueError])
  | (next, some localId) =>
      (next.enter friendId localId
        { localSeq := (next.timeline friendId).length + 1
          localId := localId
          text := text },
        [.submitted localId friendId])

/-- `UserSession.resend_message`. -/
def resendMessage (client : ChatClient) (deliveryId : Nat) :
    ChatClient × List ClientReport :=
  match client.timeoutLogs.lookup deliveryId with
  | none => (client, [.raised .keyError])
  | some log =>
      match client.stream.write log with
      | (stream, [.written _ written _]) =>
          let next := { client with stream := stream }
          if written ≠ deliveryId then (next, [.raised .assertionError])
          else
            let known := (next.localIdToSession.lookup deliveryId).isSome
            let chat := next.chatSessions.lookup log.receiverId
            if ¬ known ∧ chat = none then (next, [.raised .keyError])
            else
              let next :=
                if known then next
                else
                  { next with
                    localIdToSession := next.localIdToSession.assign
                      deliveryId log.receiverId }
              if deliveryId < int64Bound then
                (next, [.submitted deliveryId log.receiverId])
              else (next, [.raised .valueError])
      | (stream, _) =>
          ({ client with stream := stream }, [.raised .notUnique])

/-- `ack_timeout`, which keeps the first log of a message; a message that
waited has an id. -/
def ackTimeout (client : ChatClient) :
    Option OutboundMessageLog → ChatClient × Option ClientError
  | none => (client, none)
  | some message =>
      match message.deliveryId with
      | none => (client, none)
      | some localId =>
          if (client.timeoutLogs.lookup localId).isSome then (client, none)
          else
            ({ client with
                timeoutLogs := client.timeoutLogs.assign localId message },
              if (client.chatSessions.lookup message.receiverId).isSome then
                none
              else some .attributeError)

/-- The timer of a message, as a callback that the event loop runs: an
exception of the handler leaves the timer in its table. -/
def fire (client : ChatClient) (handle deliveryId : Nat) :
    ChatClient × List ClientReport :=
  let message := client.stream.sender.waiters.lookup deliveryId
  match client.ackTimeout message with
  | (next, none) =>
      ({ next with stream := (next.stream.fire handle deliveryId).1 }, [])
  | (next, some error) =>
      let popped := next.stream.popWaiter deliveryId
      ({ next with
          stream :=
            { popped with
              expiry :=
                { popped.expiry with
                  scheduled := popped.expiry.scheduled.pop handle } } },
        [.raised error])

/-- Draw a local id for a message of somebody else and show the message. -/
def recvMessage (client : ChatClient) (friendId : Int) (text : String)
    (messageId : Int) (isOutbound : Bool) : ChatClient :=
  let borrowed := client.stream.sender.borrowVirtualLocalId
  { client with
    stream := { client.stream with sender := borrowed.2 } }.enter friendId
    borrowed.1
    { localSeq := (client.timeline friendId).length + 1
      localId := borrowed.1
      text := text
      messageId := messageId
      isOutbound := isOutbound }

def onPushUserMessage (client : ChatClient) (senderId : Int) (text : String)
    (messageId : Int) : ChatClient × List ClientReport :=
  match client.chatSessions.lookup senderId with
  | none => (client, [.raised .keyError])
  | some _ =>
      let localId := client.stream.sender.borrowVirtualLocalId.1
      ({ client with
          maxLocalId := max client.maxLocalId localId
          lastMaxMsgId := messageId }.recvMessage senderId text messageId
        false, [])

/-- The quotient of two integers, rounded to a double, is greater than the
double `5854679515581645 / 2 ^ 53` that is written `0.65`: it reaches the
middle between this double and the next one, which is even. -/
def exceedsRatio (difference : Int) (maxLocalId : Nat) : Bool :=
  11709359031163291 * (maxLocalId : Int) ≤ difference * 18014398509481984

/-- The test of `maybe_decay_local_ids`. -/
def decays (client : ChatClient) (lastLocalId : Nat) : Bool :=
  exceedsRatio ((lastLocalId : Int) - client.minLocalId) client.maxLocalId

def maybeDecayLocalIds (client : ChatClient) (lastLocalId : Nat) :
    ChatClient :=
  if client.decays lastLocalId then
    { client with
      localIdToSession := client.localIdToSession.popKeys
        (List.range' client.minLocalId (lastLocalId - client.minLocalId))
      minLocalId := lastLocalId }
  else client

/-- `_on_ack_user_message`. -/
def onAckUserMessage (client : ChatClient) (deliveryId : Nat)
    (messageId : Int) : ChatClient × List ClientReport :=
  let client :=
    { client with stream := client.stream.onAcked deliveryId }
  match client.localIdToSession.lookup deliveryId with
  | none => (client, [.ackFailed deliveryId .keyError])
  | some friendId =>
      let decayed := client.maybeDecayLocalIds deliveryId
      let next :=
        { decayed with
          timeoutLogs := decayed.timeoutLogs.pop deliveryId }
      match (next.timeline friendId).lookup deliveryId with
      | none => (next, [.ackFailed deliveryId .keyError])
      | some message =>
          ({ next with lastMaxMsgId := messageId }.enter friendId deliveryId
            { message with messageId := messageId },
            [.acked deliveryId friendId])

/-- The loop of `collect_lastest_session`, with the last id it has seen. -/
def showSession (friendId : Int) : ChatClient → Option Int →
    List SessionMessage → ChatClient × Option Int
  | client, last, [] => (client, last)
  | client, _, message :: rest =>
      showSession friendId
        (client.recvMessage friendId message.text message.messageId
          (message.senderId = client.userSeq))
        (some message.messageId) rest

def collectLastestSession (client : ChatClient) (friendId : Int)
    (data : List SessionMessage) : ChatClient × List ClientReport :=
  match client.chatSessions.lookup friendId with
  | none => (client, [.raised .keyError])
  | some _ =>
      match showSession friendId client none data.reverse with
      | (next, none) => (next, [.raised .unboundLocalError])
      | (next, some messageId) =>
          ({ next with lastMaxMsgId := messageId }, [])

/-- A message of the inbox is shown if it is of the session of a friend. -/
def accepts (client : ChatClient) (message : InboxMessage) : Bool :=
  match client.chatSessions.lookup message.senderId with
  | none => false
  | some chat => chat.sessionId = message.sessionId

/-- The loop of `collect_lastest_inbox`. -/
def showInbox : ChatClient → Option Int → List InboxMessage →
    ChatClient × Option Int
  | client, last, [] => (client, last)
  | client, last, message :: rest =>
      if client.accepts message then
        showInbox
          (client.recvMessage message.senderId message.text
            message.messageId false)
          (some message.messageId) rest
      else showInbox client last rest

def collectLastestInbox (client : ChatClient) (data : List InboxMessage) :
    ChatClient × List ClientReport :=
  match showInbox client none data.reverse with
  | (next, none) => (next, [.raised .unboundLocalError])
  | (next, some messageId) =>
      ({ next with lastMaxMsgId := messageId }, [])

/-- The session that only counts ids agrees with the client. -/
structure Views (client : ChatClient) (session : UserSession) : Prop where
  userSeq : session.userSeq = client.userSeq
  sender : session.sender = client.stream.sender
  chats : ∀ friendId, friendId ∈ session.chatSessions ↔
    (client.chatSessions.lookup friendId).isSome = true
  sessions : ∀ deliveryId, session.localIdToSession.lookup deliveryId =
    client.localIdToSession.lookup deliveryId
  maxLocalId : session.maxLocalId = client.maxLocalId
  lastMaxMsgId : session.lastMaxMsgId = client.lastMaxMsgId

variable {client : ChatClient} {session : UserSession} {friendId : Int}

theorem sessionId_enter (client : ChatClient) (friendId other : Int)
    (localId : Nat) (message : TextMessage) :
    ((client.enter friendId localId message).chatSessions.lookup other).map
        ChatSession.sessionId =
      (client.chatSessions.lookup other).map ChatSession.sessionId := by
  unfold enter
  split
  · rfl
  · rename_i chat found
    rw [Table.lookup_assign]
    by_cases same : other = friendId
    · rw [if_pos same, same, found]
      rfl
    · rw [if_neg same]

theorem isSome_lookup_enter (client : ChatClient) (friendId other : Int)
    (localId : Nat) (message : TextMessage) :
    ((client.enter friendId localId message).chatSessions.lookup
        other).isSome =
      (client.chatSessions.lookup other).isSome := by
  rw [← Option.isSome_map (f := ChatSession.sessionId), sessionId_enter,
    Option.isSome_map]

theorem Views.enter (views : client.Views session) (friendId : Int)
    (localId : Nat) (message : TextMessage) :
    (client.enter friendId localId message).Views session := by
  have chats : ∀ other, other ∈ session.chatSessions ↔
      ((client.enter friendId localId message).chatSessions.lookup
        other).isSome = true := by
    intro other
    rw [views.chats, isSome_lookup_enter]
  unfold ChatClient.enter at chats ⊢
  split
  · exact views
  · rename_i chat found
    rw [found] at chats
    exact ⟨views.userSeq, views.sender, chats, views.sessions,
      views.maxLocalId, views.lastMaxMsgId⟩

theorem Views.submit (views : client.Views session)
    (known : friendId ∈ session.chatSessions) (sessionId : Option Int)
    (text : String) :
    (client.submit friendId sessionId).1.Views
        (session.sendMessage text friendId (sessionId.getD 0)).1 ∧
      (client.submit friendId sessionId).2 =
        (session.sendMessage text friendId (sessionId.getD 0)).2.map
          ClientMsgData.deliveryId := by
  have sessions : ∀ deliveryId other,
      List.lookup other ((deliveryId, friendId) :: session.localIdToSession) =
        (client.localIdToSession.assign deliveryId friendId).lookup
          other := by
    intro deliveryId other
    rw [Table.lookup_assign, List.lookup_cons, views.sessions]
    by_cases same : other = deliveryId
    · simp [same]
    · rw [if_neg same, beq_eq_false_iff_ne.mpr same]
  have submitted : ({ client with
      stream :=
        (client.stream.write (client.outboundLog friendId sessionId)).1
      maxLocalId := max client.maxLocalId
        (client.stream.sender.write
          (client.outboundLog friendId sessionId)).1
      localIdToSession := client.localIdToSession.assign
        (client.stream.sender.write
          (client.outboundLog friendId sessionId)).1 friendId } :
      ChatClient).Views
      { session with
        sender := (session.sender.write
          (client.outboundLog friendId sessionId)).2
        maxLocalId := max session.maxLocalId
          (session.sender.write (client.outboundLog friendId sessionId)).1
        localIdToSession := ((session.sender.write
          (client.outboundLog friendId sessionId)).1, friendId) ::
            session.localIdToSession } := by
    rw [views.sender, views.maxLocalId]
    exact ⟨views.userSeq, rfl, views.chats, sessions _, rfl,
      views.lastMaxMsgId⟩
  have log : client.outboundLog friendId sessionId =
      { senderId := session.userSeq
        receiverId := friendId
        sessionId := sessionId.getD 0 } := by
    rw [views.userSeq]
    rfl
  rw [log] at submitted
  by_cases small : (session.sender.write
    { senderId := session.userSeq
      receiverId := friendId
      sessionId := sessionId.getD 0 }).1 < int64Bound
  · have less := small
    rw [views.sender] at less
    simp only [ChatClient.submit, log, if_pos less,
      UserSession.sendMessage, if_pos known, if_pos small]
    refine ⟨submitted, ?_⟩
    rw [views.sender]
    rfl
  · have less := small
    rw [views.sender] at less
    simp only [ChatClient.submit, log, if_neg less,
      UserSession.sendMessage, if_pos known, if_neg small]
    exact ⟨submitted, rfl⟩

theorem Views.onPushUserMessage (views : client.Views session)
    (senderId : Int) (text : String) (messageId : Int) :
    (client.onPushUserMessage senderId text messageId).1.Views
      (session.onPushUserMessage senderId messageId) := by
  unfold ChatClient.onPushUserMessage UserSession.onPushUserMessage
  split
  · rename_i missing
    rw [if_neg]
    · exact views
    · rw [views.chats, missing]
      exact Bool.false_ne_true
  · rename_i chat found
    rw [if_pos]
    · apply Views.enter
      rw [views.sender, views.maxLocalId]
      exact ⟨views.userSeq, rfl, views.chats, views.sessions, rfl, rfl⟩
    · rw [views.chats, found]
      rfl

end ChatClient

end Front

end TinyChat
