import TinyChat.Front.ChatClient

/-!
# The tables of a client

Every entry of the tables is about a message that was submitted and is shown
in the timeline of its session, unless its id was too large for the wire.
-/

namespace TinyChat

namespace Front

namespace ChatClient

variable {client next : ChatClient} {friendId other : Int}
  {message : TextMessage} {trace events : List ClientReport}
  {deliveryId localId shownId : Nat}

@[simp] theorem enter_stream :
    (client.enter friendId shownId message).stream = client.stream := by
  unfold enter
  split <;> rfl

@[simp] theorem enter_timeoutLogs :
    (client.enter friendId shownId message).timeoutLogs =
      client.timeoutLogs := by
  unfold enter
  split <;> rfl

@[simp] theorem enter_localIdToSession :
    (client.enter friendId shownId message).localIdToSession =
      client.localIdToSession := by
  unfold enter
  split <;> rfl

theorem timeline_enter :
    ((client.enter friendId shownId message).timeline other).lookup localId =
      if other = friendId ∧ localId = shownId ∧
          (client.chatSessions.lookup friendId).isSome then some message
      else (client.timeline other).lookup localId := by
  unfold enter
  split
  · rename_i missing
    simp [missing]
  · rename_i chat found
    rw [timeline, Table.lookup_assign]
    by_cases same : other = friendId
    · subst same
      simp only [if_pos, found, timeline, Option.isSome_some, true_and,
        and_true]
      exact Table.lookup_assign _ _ _ _
    · simp only [same, false_and, if_false]
      rfl

theorem timeline_enter_isSome
    (shown : ((client.timeline other).lookup localId).isSome = true) :
    (((client.enter friendId shownId message).timeline other).lookup
      localId).isSome = true := by
  rw [timeline_enter]
  split
  · rfl
  · exact shown

/-- A message was sent under an id and is in the timeline of its session. -/
def Sent (trace : List ClientReport) (client : ChatClient)
    (deliveryId : Nat) (friendId : Int) : Prop :=
  .submitted deliveryId friendId ∈ trace ∧
    ((client.timeline friendId).lookup deliveryId).isSome = true

/-- What the tables of the client say about the messages that could be
serialized. -/
structure Remembers (trace : List ClientReport) (client : ChatClient) :
    Prop where
  sessions : ∀ deliveryId friendId,
    client.localIdToSession.lookup deliveryId = some friendId →
      deliveryId < int64Bound → Sent trace client deliveryId friendId
  waiters : ∀ deliveryId log,
    client.stream.sender.waiters.lookup deliveryId = some log →
      log.deliveryId = some deliveryId ∧
        (deliveryId < int64Bound →
          Sent trace client deliveryId log.receiverId)
  timeouts : ∀ deliveryId log,
    client.timeoutLogs.lookup deliveryId = some log →
      log.deliveryId = some deliveryId ∧
        (deliveryId < int64Bound →
          Sent trace client deliveryId log.receiverId)

variable {log : OutboundMessageLog}

/-- What is shown in the timelines stays there. -/
def Shows (client next : ChatClient) : Prop :=
  ∀ friendId localId,
    ((client.timeline friendId).lookup localId).isSome = true →
      ((next.timeline friendId).lookup localId).isSome = true

theorem Sent.later (sent : Sent trace client deliveryId friendId)
    (shows : client.Shows next) (events : List ClientReport) :
    Sent (trace ++ events) next deliveryId friendId :=
  ⟨List.mem_append_left _ sent.1, shows _ _ sent.2⟩

theorem Remembers.later (remembers : Remembers trace client)
    (shows : client.Shows next)
    (sessions : ∀ deliveryId friendId,
      next.localIdToSession.lookup deliveryId = some friendId →
        client.localIdToSession.lookup deliveryId = some friendId ∨
          (deliveryId < int64Bound →
            Sent (trace ++ events) next deliveryId friendId))
    (waiters : ∀ deliveryId log,
      next.stream.sender.waiters.lookup deliveryId = some log →
        client.stream.sender.waiters.lookup deliveryId = some log ∨
          log.deliveryId = some deliveryId ∧
            (deliveryId < int64Bound →
              Sent (trace ++ events) next deliveryId log.receiverId))
    (timeouts : ∀ deliveryId log,
      next.timeoutLogs.lookup deliveryId = some log →
        client.timeoutLogs.lookup deliveryId = some log ∨
          client.stream.sender.waiters.lookup deliveryId = some log) :
    Remembers (trace ++ events) next := by
  constructor
  · intro deliveryId friendId found small
    obtain old | new := sessions deliveryId friendId found
    · exact (remembers.sessions _ _ old small).later shows events
    · exact new small
  · intro deliveryId log found
    obtain old | new := waiters deliveryId log found
    · obtain ⟨named, sent⟩ := remembers.waiters _ _ old
      exact ⟨named, fun small => (sent small).later shows events⟩
    · exact new
  · intro deliveryId log found
    obtain old | waits := timeouts deliveryId log found
    · obtain ⟨named, sent⟩ := remembers.timeouts _ _ old
      exact ⟨named, fun small => (sent small).later shows events⟩
    · obtain ⟨named, sent⟩ := remembers.waiters _ _ waits
      exact ⟨named, fun small => (sent small).later shows events⟩

theorem shows_refl (client : ChatClient) : client.Shows client :=
  fun _ _ shown => shown

theorem Remembers.submit (remembers : Remembers trace client)
    (sessionId : Option Int) {drawn : Nat}
    (written : client.stream.sender.write
      (client.outboundLog friendId sessionId) = (drawn, next.stream.sender))
    (shows : client.Shows next)
    (sent : drawn < int64Bound → Sent (trace ++ events) next drawn friendId)
    (sessions : next.localIdToSession =
      client.localIdToSession.assign drawn friendId)
    (timeouts : next.timeoutLogs = client.timeoutLogs) :
    Remembers (trace ++ events) next := by
  refine remembers.later shows ?_ ?_ ?_
  · intro deliveryId session found
    rw [sessions] at found
    rcases Table.lookup_of_assign found with before | ⟨rfl, rfl⟩
    · exact .inl before
    · exact .inr sent
  · intro deliveryId log found
    have waiters := MessageStream.lookup_write client.stream.sender
      (client.outboundLog friendId sessionId) deliveryId
    rw [written] at waiters
    rw [waiters] at found
    split at found
    · rename_i same
      cases found
      rw [same]
      exact .inr ⟨rfl, sent⟩
    · exact .inl found
  · intro deliveryId log found
    rw [timeouts] at found
    exact .inl found

theorem Remembers.sendMessage (remembers : Remembers trace client)
    {chat : ChatSession}
    (found : client.chatSessions.lookup friendId = some chat)
    (sessionId : Option Int) (text : String) :
    Remembers (trace ++ (client.sendMessage friendId sessionId text).2)
      (client.sendMessage friendId sessionId text).1 := by
  by_cases small : (client.stream.sender.write
    (client.outboundLog friendId sessionId)).1 < int64Bound
  · simp only [ChatClient.sendMessage, ChatClient.submit, if_pos small]
    apply remembers.submit sessionId
    · rw [enter_stream]
      rfl
    · exact fun _ _ shown => timeline_enter_isSome shown
    · intro _
      refine ⟨List.mem_append_right _ (List.mem_singleton_self _), ?_⟩
      have known : (client.chatSessions.lookup friendId).isSome = true := by
        rw [found]
        rfl
      rw [timeline_enter, if_pos ⟨rfl, rfl, known⟩]
      rfl
    · rw [enter_localIdToSession]
      rfl
    · rw [enter_timeoutLogs]
  · simp only [ChatClient.sendMessage, ChatClient.submit, if_neg small]
    apply remembers.submit sessionId rfl
    · exact fun _ _ shown => shown
    · exact fun less => absurd less small
    · rfl
    · rfl

theorem Remembers.enter (remembers : Remembers trace client)
    (friendId : Int) (localId : Nat) (message : TextMessage) :
    Remembers trace (client.enter friendId localId message) := by
  rw [← List.append_nil trace]
  apply remembers.later
  · exact fun _ _ shown => timeline_enter_isSome shown
  · intro deliveryId session found
    rw [enter_localIdToSession] at found
    exact .inl found
  · intro deliveryId log found
    rw [enter_stream] at found
    exact .inl found
  · intro deliveryId log found
    rw [enter_timeoutLogs] at found
    exact .inl found

theorem Remembers.append (remembers : Remembers trace client)
    (events : List ClientReport) : Remembers (trace ++ events) client :=
  remembers.later client.shows_refl (fun _ _ => .inl) (fun _ _ => .inl)
    (fun _ _ => .inl)

theorem Remembers.resend (remembers : Remembers trace client)
    (found : client.timeoutLogs.lookup deliveryId = some log)
    (shows : client.Shows next)
    (sessions : ∀ other friendId,
      next.localIdToSession.lookup other = some friendId →
        client.localIdToSession.lookup other = some friendId ∨
          other = deliveryId ∧ friendId = log.receiverId)
    (waiters : ∀ other waiting,
      next.stream.sender.waiters.lookup other = some waiting →
        client.stream.sender.waiters.lookup other = some waiting ∨
          other = deliveryId ∧ waiting = log)
    (timeouts : next.timeoutLogs = client.timeoutLogs) :
    Remembers (trace ++ events) next := by
  obtain ⟨named, sent⟩ := remembers.timeouts deliveryId log found
  refine remembers.later shows ?_ ?_ ?_
  · intro other friendId held
    obtain old | ⟨rfl, rfl⟩ := sessions other friendId held
    · exact .inl old
    · exact .inr (fun small => (sent small).later shows events)
  · intro other waiting held
    obtain old | ⟨rfl, rfl⟩ := waiters other waiting held
    · exact .inl old
    · exact .inr ⟨named, fun small => (sent small).later shows events⟩
  · intro other waiting held
    rw [timeouts] at held
    exact .inl held

theorem Remembers.resendMessage (remembers : Remembers trace client)
    (deliveryId : Nat) :
    Remembers (trace ++ (client.resendMessage deliveryId).2)
      (client.resendMessage deliveryId).1 := by
  unfold ChatClient.resendMessage
  split
  · exact remembers.append _
  · rename_i log found
    obtain ⟨named, _⟩ := remembers.timeouts deliveryId log found
    by_cases waits :
      (client.stream.sender.waiters.lookup deliveryId).isSome = true
    · rw [MessageStream.write_of_waiting named waits]
      exact remembers.append _
    · rw [MessageStream.write_of_free named waits]
      have waiters : ∀ other waiting,
          (Table.assign client.stream.sender.waiters deliveryId log).lookup
              other = some waiting →
            client.stream.sender.waiters.lookup other = some waiting ∨
              other = deliveryId ∧ waiting = log :=
        fun _ _ => Table.lookup_of_assign
      dsimp only
      rw [if_neg (not_not_intro rfl)]
      split
      · exact remembers.resend found client.shows_refl (fun _ _ => .inl)
          waiters rfl
      · by_cases known :
          (client.localIdToSession.lookup deliveryId).isSome = true
        · rw [if_pos known]
          split
          · exact remembers.resend found client.shows_refl
              (fun _ _ => .inl) waiters rfl
          · exact remembers.resend found client.shows_refl
              (fun _ _ => .inl) waiters rfl
        · rw [if_neg known]
          have sessions : ∀ other friendId,
              (client.localIdToSession.assign deliveryId
                log.receiverId).lookup other = some friendId →
                client.localIdToSession.lookup other = some friendId ∨
                  other = deliveryId ∧ friendId = log.receiverId :=
            fun _ _ => Table.lookup_of_assign
          split
          · exact remembers.resend found client.shows_refl sessions waiters
              rfl
          · exact remembers.resend found client.shows_refl sessions waiters
              rfl

theorem ackTimeout_stream (client : ChatClient)
    (message : Option OutboundMessageLog) :
    (client.ackTimeout message).1.stream = client.stream ∧
    (client.ackTimeout message).1.chatSessions = client.chatSessions ∧
    (client.ackTimeout message).1.localIdToSession =
      client.localIdToSession := by
  unfold ackTimeout
  split
  · exact ⟨rfl, rfl, rfl⟩
  · split
    · exact ⟨rfl, rfl, rfl⟩
    · split <;> exact ⟨rfl, rfl, rfl⟩

/-- Only the log of the message that timed out is new. -/
theorem ackTimeout_timeoutLogs {message : Option OutboundMessageLog}
    (found : (client.ackTimeout message).1.timeoutLogs.lookup localId =
      some log) :
    client.timeoutLogs.lookup localId = some log ∨
      message = some log ∧ log.deliveryId = some localId := by
  unfold ackTimeout at found
  split at found
  · exact .inl found
  · rename_i message
    split at found
    · exact .inl found
    · rename_i drawn named
      split at found
      · exact .inl found
      · rcases Table.lookup_of_assign found with before | ⟨rfl, rfl⟩
        · exact .inl before
        · exact .inr ⟨rfl, named⟩

theorem Remembers.fire (remembers : Remembers trace client)
    (handle deliveryId : Nat) :
    Remembers (trace ++ (client.fire handle deliveryId).2)
      (client.fire handle deliveryId).1 := by
  have same := ackTimeout_stream client
    (client.stream.sender.waiters.lookup deliveryId)
  have waiters : (client.fire handle deliveryId).1.stream.sender.waiters =
      Table.pop client.stream.sender.waiters deliveryId := by
    unfold ChatClient.fire
    dsimp only
    split
    · rename_i timedOut
      rw [timedOut] at same
      dsimp only
      rw [MessageStream.fire_waiters, same.1]
    · rename_i timedOut
      rw [timedOut] at same
      dsimp only
      rw [← same.1]
      rfl
  have others : (client.fire handle deliveryId).1.chatSessions =
      client.chatSessions ∧
    (client.fire handle deliveryId).1.localIdToSession =
      client.localIdToSession ∧
    (client.fire handle deliveryId).1.timeoutLogs =
      (client.ackTimeout
        (client.stream.sender.waiters.lookup deliveryId)).1.timeoutLogs := by
    unfold ChatClient.fire
    dsimp only
    split <;>
      · rename_i timedOut
        rw [timedOut] at same
        exact ⟨same.2.1, same.2.2, by rw [timedOut]⟩
  refine remembers.later ?_ ?_ ?_ ?_
  · intro friendId localId shown
    rw [timeline, others.1]
    exact shown
  · intro other friendId found
    rw [others.2.1] at found
    exact .inl found
  · intro other log found
    rw [waiters, Table.lookup_pop] at found
    split at found
    · cases found
    · exact .inl found
  · intro other log found
    rw [others.2.2] at found
    obtain old | ⟨waiting, named⟩ := ackTimeout_timeoutLogs found
    · exact .inl old
    · have own := (remembers.waiters deliveryId log waiting).1
      rw [named] at own
      cases own
      exact .inr waiting

theorem Remembers.onPushUserMessage (remembers : Remembers trace client)
    (senderId : Int) (text : String) (messageId : Int) :
    Remembers (trace ++ (client.onPushUserMessage senderId text messageId).2)
      (client.onPushUserMessage senderId text messageId).1 := by
  unfold ChatClient.onPushUserMessage
  split
  · exact remembers.append _
  · rw [List.append_nil]
    apply Remembers.enter
    exact ⟨remembers.sessions, remembers.waiters, remembers.timeouts⟩

theorem lookup_maybeDecayLocalIds (client : ChatClient)
    (deliveryId other : Nat) :
    (client.maybeDecayLocalIds deliveryId).localIdToSession.lookup other =
      if client.decays deliveryId = true ∧ client.minLocalId ≤ other ∧
          other < deliveryId then none
      else client.localIdToSession.lookup other := by
  unfold maybeDecayLocalIds
  by_cases decays : client.decays deliveryId = true
  · rw [if_pos decays, Table.lookup_popKeys]
    apply if_congr _ rfl rfl
    rw [List.mem_range'_1]
    constructor
    · rintro ⟨low, high⟩
      exact ⟨decays, low, by omega⟩
    · rintro ⟨_, low, high⟩
      exact ⟨low, by omega⟩
  · rw [if_neg decays, if_neg (fun inside => decays inside.1)]

theorem maybeDecayLocalIds_same (client : ChatClient) (deliveryId : Nat) :
    (client.maybeDecayLocalIds deliveryId).chatSessions =
      client.chatSessions ∧
    (client.maybeDecayLocalIds deliveryId).stream = client.stream ∧
    (client.maybeDecayLocalIds deliveryId).timeoutLogs =
      client.timeoutLogs := by
  unfold maybeDecayLocalIds
  split <;> exact ⟨rfl, rfl, rfl⟩

/-- The client after the tables were cleaned up for an acknowledgement. -/
def acknowledged (client : ChatClient) (deliveryId : Nat) : ChatClient :=
  let decayed :=
    { client with
      stream := client.stream.onAcked deliveryId }.maybeDecayLocalIds
        deliveryId
  { decayed with timeoutLogs := decayed.timeoutLogs.pop deliveryId }

theorem timeline_congr {first second : ChatClient} (friendId : Int)
    (same : first.chatSessions = second.chatSessions) :
    first.timeline friendId = second.timeline friendId := by
  unfold timeline
  rw [same]

theorem timeline_acknowledged (client : ChatClient) (deliveryId : Nat)
    (friendId : Int) :
    (client.acknowledged deliveryId).timeline friendId =
      client.timeline friendId := by
  have same := maybeDecayLocalIds_same
    { client with stream := client.stream.onAcked deliveryId } deliveryId
  exact timeline_congr friendId same.1

theorem onAckUserMessage_of_found {message : TextMessage} (messageId : Int)
    (found : client.localIdToSession.lookup deliveryId = some friendId)
    (shown : (client.timeline friendId).lookup deliveryId = some message) :
    client.onAckUserMessage deliveryId messageId =
      ({ client.acknowledged deliveryId with
          lastMaxMsgId := messageId }.enter friendId deliveryId
          { message with messageId := messageId },
        [.acked deliveryId friendId]) := by
  have held : ((client.acknowledged deliveryId).timeline friendId).lookup
      deliveryId = some message := by
    rw [timeline_acknowledged]
    exact shown
  unfold acknowledged at held
  simp only [onAckUserMessage, found, held]
  rfl

theorem Remembers.acknowledged (remembers : Remembers trace client)
    (deliveryId : Nat) : Remembers trace (client.acknowledged deliveryId) := by
  have same := maybeDecayLocalIds_same
    { client with stream := client.stream.onAcked deliveryId } deliveryId
  rw [← List.append_nil trace]
  apply remembers.later
  · intro friendId localId shown
    rw [timeline_acknowledged]
    exact shown
  · intro other friendId found
    have kept := lookup_maybeDecayLocalIds
      { client with stream := client.stream.onAcked deliveryId } deliveryId
      other
    change (maybeDecayLocalIds _ deliveryId).localIdToSession.lookup other =
      some friendId at found
    rw [kept] at found
    split at found
    · cases found
    · exact .inl found
  · intro other log found
    change (maybeDecayLocalIds _ deliveryId).stream.sender.waiters.lookup
      other = some log at found
    rw [same.2.1] at found
    change (Table.pop client.stream.sender.waiters deliveryId).lookup other =
      some log at found
    rw [Table.lookup_pop] at found
    split at found
    · cases found
    · exact .inl found
  · intro other log found
    change (Table.pop (maybeDecayLocalIds _ deliveryId).timeoutLogs
      deliveryId).lookup other = some log at found
    rw [same.2.2, Table.lookup_pop] at found
    split at found
    · cases found
    · exact .inl found

end ChatClient

end Front

end TinyChat
