import TinyChat.Front.AckLookup

/-!
# What moves the cursor

A pushed message, the acknowledgement of an own message and the first message
that is shown of a list write their ids over the last id of the client.
-/

namespace TinyChat

namespace Front

namespace ChatClient

variable {client : ChatClient} {friendId : Int} {deliveryId : Nat}

@[simp] theorem enter_lastMaxMsgId (client : ChatClient) (friendId : Int)
    (localId : Nat) (message : TextMessage) :
    (client.enter friendId localId message).lastMaxMsgId =
      client.lastMaxMsgId := by
  unfold enter
  split <;> rfl

/-- Nothing that is shown changes which messages of the inbox are shown. -/
theorem accepts_enter (client : ChatClient) (friendId : Int) (localId : Nat)
    (shown : TextMessage) (message : InboxMessage) :
    (client.enter friendId localId shown).accepts message =
      client.accepts message := by
  have same := sessionId_enter client friendId message.senderId localId shown
  unfold accepts
  split
  · rename_i missing
    rw [missing, Option.map_none, eq_comm, Option.map_eq_none_iff] at same
    rw [same]
  · rename_i chat found
    rw [found, Option.map_some, eq_comm, Option.map_eq_some_iff] at same
    obtain ⟨before, known, equal⟩ := same
    rw [known]
    dsimp only
    rw [equal]

theorem accepts_recvMessage (client : ChatClient) (friendId : Int)
    (text : String) (messageId : Int) (isOutbound : Bool)
    (message : InboxMessage) :
    (client.recvMessage friendId text messageId isOutbound).accepts message =
      client.accepts message :=
  accepts_enter _ friendId _ _ message

theorem showSession_last (friendId : Int) (client : ChatClient)
    (last : Option Int) (data : List SessionMessage) :
    (showSession friendId client last data).2 =
      (data.getLast?.map SessionMessage.messageId).or last := by
  induction data generalizing client last with
  | nil => rfl
  | cons message rest induction =>
      rw [showSession, induction]
      cases rest with
      | nil => rfl
      | cons next rest =>
          rw [List.getLast?_cons_cons]
          cases shown : (next :: rest).getLast? with
          | none => simp at shown
          | some final => rfl

/-- The loop over the inbox ends with the id of the last message that is
shown. -/
theorem showInbox_last (client : ChatClient) (last : Option Int)
    (data : List InboxMessage) :
    (showInbox client last data).2 =
      ((data.filter client.accepts).getLast?.map
        InboxMessage.messageId).or last := by
  induction data generalizing client last with
  | nil => rfl
  | cons message rest induction =>
      rw [showInbox]
      split
      · rename_i accepted
        rw [induction, List.filter_cons_of_pos accepted]
        have same : (client.recvMessage message.senderId message.text
            message.messageId false).accepts = client.accepts := by
          funext other
          exact accepts_recvMessage _ _ _ _ _ other
        rw [same]
        cases shown : rest.filter client.accepts with
        | nil => rfl
        | cons next others =>
            rw [List.getLast?_cons_cons]
            cases final : (next :: others).getLast? with
            | none => simp at final
            | some message => rfl
      · rename_i rejected
        rw [induction, List.filter_cons_of_neg rejected]

theorem showInbox_lastMaxMsgId (client : ChatClient) (last : Option Int)
    (data : List InboxMessage) :
    (showInbox client last data).1.lastMaxMsgId = client.lastMaxMsgId := by
  induction data generalizing client last with
  | nil => rfl
  | cons message rest induction =>
      rw [showInbox]
      split
      · rw [induction]
        exact enter_lastMaxMsgId _ _ _ _
      · exact induction _ _

/-- The acknowledgement of a message that the client still knows. -/
def acknowledges (client : ChatClient) (deliveryId : Nat) : Bool :=
  match client.localIdToSession.lookup deliveryId with
  | none => false
  | some friendId =>
      ((client.timeline friendId).lookup deliveryId).isSome

theorem collectLastestSession_cons (known :
    (client.chatSessions.lookup friendId).isSome = true)
    (message : SessionMessage) (rest : List SessionMessage) :
    (client.collectLastestSession friendId (message :: rest)).2 = [] ∧
    (client.collectLastestSession friendId
      (message :: rest)).1.lastMaxMsgId = message.messageId := by
  have last := showSession_last friendId client none (message :: rest).reverse
  rw [List.getLast?_reverse] at last
  obtain ⟨chat, found⟩ := Option.isSome_iff_exists.mp known
  simp only [collectLastestSession, found]
  split
  · rename_i shown
    rw [shown] at last
    cases last
  · rename_i shown
    rw [shown] at last
    cases last
    exact ⟨rfl, rfl⟩

theorem collectLastestSession_nil (known :
    (client.chatSessions.lookup friendId).isSome = true) :
    client.collectLastestSession friendId [] =
      (client, [.raised .unboundLocalError]) := by
  obtain ⟨chat, found⟩ := Option.isSome_iff_exists.mp known
  simp only [collectLastestSession, found]
  rfl

theorem collectLastestInbox_of_some {message : InboxMessage}
    {data : List InboxMessage}
    (found : data.find? client.accepts = some message) :
    (client.collectLastestInbox data).2 = [] ∧
    (client.collectLastestInbox data).1.lastMaxMsgId = message.messageId := by
  have last := showInbox_last client none data.reverse
  rw [List.filter_reverse, List.getLast?_reverse, List.head?_filter,
    found] at last
  unfold collectLastestInbox
  split
  · rename_i shown
    rw [shown] at last
    cases last
  · rename_i shown
    rw [shown] at last
    cases last
    exact ⟨rfl, rfl⟩

theorem collectLastestInbox_of_none {data : List InboxMessage}
    (missing : data.find? client.accepts = none) :
    (client.collectLastestInbox data).2 = [.raised .unboundLocalError] ∧
    (client.collectLastestInbox data).1.lastMaxMsgId =
      client.lastMaxMsgId := by
  have last := showInbox_last client none data.reverse
  rw [List.filter_reverse, List.getLast?_reverse, List.head?_filter,
    missing] at last
  have same := showInbox_lastMaxMsgId client none data.reverse
  unfold collectLastestInbox
  split
  · rename_i shown
    rw [shown] at same
    exact ⟨rfl, same⟩
  · rename_i shown
    rw [shown] at last
    cases last

theorem maybeDecayLocalIds_lastMaxMsgId (client : ChatClient)
    (deliveryId : Nat) :
    (client.maybeDecayLocalIds deliveryId).lastMaxMsgId =
      client.lastMaxMsgId := by
  unfold maybeDecayLocalIds
  split <;> rfl

theorem onAckUserMessage_lastMaxMsgId (client : ChatClient)
    (deliveryId : Nat) (messageId : Int) :
    (client.onAckUserMessage deliveryId messageId).1.lastMaxMsgId =
      if client.acknowledges deliveryId = true then messageId
      else client.lastMaxMsgId := by
  unfold acknowledges
  split
  · rename_i missing
    simp only [onAckUserMessage, missing]
    rfl
  · rename_i friendId found
    by_cases shown :
      ((client.timeline friendId).lookup deliveryId).isSome = true
    · obtain ⟨message, held⟩ := Option.isSome_iff_exists.mp shown
      rw [if_pos shown, onAckUserMessage_of_found messageId found held]
      exact enter_lastMaxMsgId _ _ _ _
    · have hidden : ((client.acknowledged deliveryId).timeline
          friendId).lookup deliveryId = none := by
        rw [timeline_acknowledged]
        exact Option.not_isSome_iff_eq_none.mp shown
      unfold acknowledged at hidden
      rw [if_neg shown]
      simp only [onAckUserMessage, found, hidden]
      exact maybeDecayLocalIds_lastMaxMsgId _ deliveryId

theorem sendMessage_lastMaxMsgId (client : ChatClient) (friendId : Int)
    (sessionId : Option Int) (text : String) :
    (client.sendMessage friendId sessionId text).1.lastMaxMsgId =
      client.lastMaxMsgId := by
  by_cases small : (client.stream.sender.write
    (client.outboundLog friendId sessionId)).1 < int64Bound
  · simp only [sendMessage, submit, if_pos small]
    exact enter_lastMaxMsgId _ _ _ _
  · simp only [sendMessage, submit, if_neg small]

theorem resendMessage_lastMaxMsgId (client : ChatClient) (deliveryId : Nat) :
    (client.resendMessage deliveryId).1.lastMaxMsgId =
      client.lastMaxMsgId := by
  unfold resendMessage
  split
  · rfl
  · split
    · dsimp only
      split
      · rfl
      · split
        · rfl
        · split
          · split <;> rfl
          · split <;> rfl
    · rfl

theorem fire_lastMaxMsgId (client : ChatClient) (handle deliveryId : Nat) :
    (client.fire handle deliveryId).1.lastMaxMsgId =
      client.lastMaxMsgId := by
  have same : ∀ message, (client.ackTimeout message).1.lastMaxMsgId =
      client.lastMaxMsgId := by
    intro message
    unfold ackTimeout
    split
    · rfl
    · split
      · rfl
      · split <;> rfl
  have handled := same (client.stream.sender.waiters.lookup deliveryId)
  unfold fire
  dsimp only
  split
  · rename_i timedOut
    rw [timedOut] at handled
    exact handled
  · rename_i timedOut
    rw [timedOut] at handled
    exact handled

theorem onPushUserMessage_lastMaxMsgId (client : ChatClient)
    (senderId : Int) (text : String) (messageId : Int) :
    (client.onPushUserMessage senderId text messageId).1.lastMaxMsgId =
      if (client.chatSessions.lookup senderId).isSome = true then messageId
      else client.lastMaxMsgId := by
  unfold onPushUserMessage
  split
  · rename_i missing
    rw [missing]
    rfl
  · rename_i chat found
    have known : (client.chatSessions.lookup senderId).isSome = true := by
      rw [found]
      rfl
    rw [if_pos known]
    exact enter_lastMaxMsgId _ _ _ _

end ChatClient

namespace ChatSystem

/-- The id that arrives with a push of a friend, or with the acknowledgement
of a message that the client still knows. -/
def arrival (system : ChatSystem) : ChatCall → Option Int
  | .push senderId _ messageId =>
      if (system.client.chatSessions.lookup senderId).isSome = true then
        some messageId
      else none
  | .ack deliveryId messageId =>
      if system.client.acknowledges deliveryId = true then some messageId
      else none
  | .send _ _ => none
  | .resend _ => none
  | .fire _ => none

theorem step_arrival {system next : ChatSystem} {call : ChatCall}
    {events : List ClientReport}
    (stepped : step system call = some (next, events)) :
    next.client.lastMaxMsgId =
      (system.arrival call).getD system.client.lastMaxMsgId := by
  cases call with
  | send friendId text =>
      simp only [step] at stepped
      split at stepped
      · cases stepped
      · cases stepped
        exact ChatClient.sendMessage_lastMaxMsgId _ _ _ _
  | resend deliveryId =>
      cases stepped
      exact ChatClient.resendMessage_lastMaxMsgId _ _
  | fire handle =>
      simp only [step] at stepped
      split at stepped
      · cases stepped
      · cases stepped
        exact ChatClient.fire_lastMaxMsgId _ _ _
  | push senderId text messageId =>
      cases stepped
      unfold arrival
      rw [apply_ite (fun value => Option.getD value _)]
      exact ChatClient.onPushUserMessage_lastMaxMsgId _ _ _ _
  | ack deliveryId messageId =>
      simp only [step] at stepped
      split at stepped
      · cases stepped
        unfold arrival
        rw [apply_ite (fun value => Option.getD value _)]
        exact ChatClient.onAckUserMessage_lastMaxMsgId _ _ _
      · cases stepped

end ChatSystem

end Front

end TinyChat
