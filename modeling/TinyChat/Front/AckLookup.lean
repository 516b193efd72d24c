import TinyChat.Front.ClientTables
import TinyChat.Lib.Transition

/-!
# Finding the session of an acknowledgement

The id of an acknowledgement is found as long as no acknowledgement makes the
client forget the id of a message that still waits for its own.
-/

namespace TinyChat

namespace Front

/-- A client with the ids of the messages whose acknowledgement may still
arrive. -/
structure ChatSystem where
  client : ChatClient
  unacked : List Nat := []

/-- A message is sent or sent again, a timer runs, a message is pushed, or an
acknowledgement arrives. -/
inductive ChatCall where
  | send (friendId : Int) (text : String)
  | resend (deliveryId : Nat)
  | fire (handle : Nat)
  | push (senderId : Int) (text : String) (messageId : Int)
  | ack (deliveryId : Nat) (messageId : Int)

/-- The ids whose acknowledgement may arrive after a message was submitted. -/
def ClientReport.unacked (waiting : List Nat) : ClientReport → List Nat
  | .submitted deliveryId _ => deliveryId :: waiting
  | _ => waiting

namespace ChatSystem

def report (unacked : List Nat) (result : ChatClient × List ClientReport) :
    ChatSystem × List ClientReport :=
  ({ client := result.1
     unacked := result.2.foldl ClientReport.unacked unacked },
    result.2)

def step : Transition.Step ChatSystem ChatCall ClientReport
  | system, .send friendId text =>
      match system.client.chatSessions.lookup friendId with
      | none => none
      | some chat =>
          some (report system.unacked
            (system.client.sendMessage friendId chat.sessionId text))
  | system, .resend deliveryId =>
      some (report system.unacked (system.client.resendMessage deliveryId))
  | system, .fire handle =>
      match system.client.stream.expiry.scheduled.lookup handle with
      | none => none
      | some deliveryId =>
          some (report system.unacked (system.client.fire handle deliveryId))
  | system, .push senderId text messageId =>
      some (report system.unacked
        (system.client.onPushUserMessage senderId text messageId))
  | system, .ack deliveryId messageId =>
      if deliveryId ∈ system.unacked then
        some (report (system.unacked.filter (· ≠ deliveryId))
          (system.client.onAckUserMessage deliveryId messageId))
      else none

/-- An acknowledgement does not make the client forget a message that waits
for its own. -/
def RemembersUnacked (system : ChatSystem) : ChatCall → Prop
  | .ack deliveryId _ =>
      system.client.decays deliveryId = true →
        ∀ other ∈ system.unacked,
          ¬ (system.client.minLocalId ≤ other ∧ other < deliveryId)
  | _ => True

instance (system : ChatSystem) :
    (call : ChatCall) → Decidable (system.RemembersUnacked call)
  | .ack _ _ => inferInstanceAs (Decidable (_ → _))
  | .send _ _ | .resend _ | .fire _ | .push _ _ _ => .isTrue trivial

/-- A client that has just logged in, with its chat sessions and the ids that
were drawn for the messages in them. -/
def loggedIn (userSeq : Int) (chatSessions : Table Int ChatSession)
    (drawn : Nat) : ChatSystem where
  client :=
    { userSeq := userSeq
      chatSessions := chatSessions
      stream := { sender := { deliveryId := drawn } } }

end ChatSystem

/-- The session of an acknowledgement is found, and it is one to which a
message was sent under the id. -/
def FindsSession (before : List ClientReport) : ClientReport → Prop
  | .acked deliveryId friendId => .submitted deliveryId friendId ∈ before
  | .ackFailed _ _ => False
  | .submitted _ _ => True
  | .raised _ => True

namespace ChatClient

variable {client next : ChatClient} {trace events : List ClientReport}
  {deliveryId : Nat}

/-- What is reported besides acknowledgements. -/
def Registered (client : ChatClient) : ClientReport → Prop
  | .submitted deliveryId _ =>
      deliveryId < int64Bound ∧
        (client.localIdToSession.lookup deliveryId).isSome = true
  | .raised _ => True
  | .acked _ _ => False
  | .ackFailed _ _ => False

/-- No id is forgotten, and the ids that are submitted are known. -/
structure Registers (client next : ChatClient)
    (events : List ClientReport) : Prop where
  kept : ∀ other, (client.localIdToSession.lookup other).isSome = true →
    (next.localIdToSession.lookup other).isSome = true
  registered : ∀ report ∈ events, next.Registered report

theorem lookup_assign_isSome (table : Table Nat Int) (key other : Nat)
    (value : Int) (known : (table.lookup other).isSome = true) :
    ((table.assign key value).lookup other).isSome = true := by
  rw [Table.lookup_assign]
  split
  · rfl
  · exact known

theorem lookup_assign_self (table : Table Nat Int) (key : Nat)
    (value : Int) : ((table.assign key value).lookup key).isSome = true := by
  rw [Table.lookup_assign, if_pos rfl]
  rfl

theorem registers_raised (client : ChatClient) (error : ClientError)
    (same : next.localIdToSession = client.localIdToSession) :
    Registers client next [.raised error] where
  kept := by
    intro other known
    rw [same]
    exact known
  registered := by
    intro report member
    rw [List.mem_singleton.mp member]
    trivial

theorem registers_submitted {receiver : Int} (small : deliveryId < int64Bound)
    (kept : ∀ other, (client.localIdToSession.lookup other).isSome = true →
      (next.localIdToSession.lookup other).isSome = true)
    (known : (next.localIdToSession.lookup deliveryId).isSome = true) :
    Registers client next [.submitted deliveryId receiver] where
  kept := kept
  registered := by
    intro report member
    rw [List.mem_singleton.mp member]
    exact ⟨small, known⟩

theorem registers_sendMessage (client : ChatClient) (friendId : Int)
    (sessionId : Option Int) (text : String) :
    Registers client (client.sendMessage friendId sessionId text).1
      (client.sendMessage friendId sessionId text).2 := by
  by_cases small : (client.stream.sender.write
    (client.outboundLog friendId sessionId)).1 < int64Bound
  · simp only [sendMessage, submit, if_pos small]
    apply registers_submitted small
    · intro other known
      rw [enter_localIdToSession]
      exact lookup_assign_isSome _ _ _ _ known
    · rw [enter_localIdToSession]
      exact lookup_assign_self _ _ _
  · simp only [sendMessage, submit, if_neg small]
    constructor
    · intro other known
      exact lookup_assign_isSome _ _ _ _ known
    · intro report member
      rw [List.mem_singleton.mp member]
      trivial

theorem registers_resendMessage (remembers : Remembers trace client)
    (deliveryId : Nat) :
    Registers client (client.resendMessage deliveryId).1
      (client.resendMessage deliveryId).2 := by
  unfold resendMessage
  split
  · exact registers_raised client _ rfl
  · rename_i log found
    obtain ⟨named, _⟩ := remembers.timeouts deliveryId log found
    by_cases waits :
      (client.stream.sender.waiters.lookup deliveryId).isSome = true
    · rw [MessageStream.write_of_waiting named waits]
      exact registers_raised client _ rfl
    · rw [MessageStream.write_of_free named waits]
      dsimp only
      rw [if_neg (not_not_intro rfl)]
      split
      · exact registers_raised client _ rfl
      · by_cases known :
          (client.localIdToSession.lookup deliveryId).isSome = true
        · rw [if_pos known]
          split
          · rename_i small
            exact registers_submitted small (fun _ => id) known
          · exact registers_raised client _ rfl
        · rw [if_neg known]
          split
          · rename_i small
            exact registers_submitted small
              (fun _ => lookup_assign_isSome _ _ _ _)
              (lookup_assign_self _ _ _)
          · constructor
            · exact fun _ => lookup_assign_isSome _ _ _ _
            · intro report member
              rw [List.mem_singleton.mp member]
              trivial

theorem fire_localIdToSession (client : ChatClient)
    (handle deliveryId : Nat) :
    (client.fire handle deliveryId).1.localIdToSession =
      client.localIdToSession := by
  have same := (ackTimeout_stream client
    (client.stream.sender.waiters.lookup deliveryId)).2.2
  unfold fire
  dsimp only
  split
  · rename_i timedOut
    rw [timedOut] at same
    exact same
  · rename_i timedOut
    rw [timedOut] at same
    exact same

theorem registers_fire (client : ChatClient) (handle deliveryId : Nat) :
    Registers client (client.fire handle deliveryId).1
      (client.fire handle deliveryId).2 := by
  constructor
  · intro other known
    rw [fire_localIdToSession]
    exact known
  · intro report member
    unfold fire at member
    dsimp only at member
    split at member
    · cases member
    · rw [List.mem_singleton.mp member]
      trivial

theorem registers_onPushUserMessage (client : ChatClient) (senderId : Int)
    (text : String) (messageId : Int) :
    Registers client (client.onPushUserMessage senderId text messageId).1
      (client.onPushUserMessage senderId text messageId).2 := by
  unfold onPushUserMessage
  split
  · exact registers_raised client _ rfl
  · constructor
    · intro other known
      unfold recvMessage
      rw [enter_localIdToSession]
      exact known
    · intro report member
      cases member

end ChatClient

namespace ChatSystem

open ChatClient

variable {trace events : List ClientReport} {system next : ChatSystem}

/-- What is known after a run. -/
structure Known (trace : List ClientReport) (system : ChatSystem) :
    Prop where
  remembers : Remembers trace system.client
  waiting : ∀ deliveryId ∈ system.unacked, deliveryId < int64Bound ∧
    (system.client.localIdToSession.lookup deliveryId).isSome = true
  finds : Transition.EachEvent FindsSession [] trace

theorem mem_unacked {waiting : List Nat} {deliveryId : Nat}
    (member : deliveryId ∈ events.foldl ClientReport.unacked waiting) :
    deliveryId ∈ waiting ∨
      ∃ friendId, .submitted deliveryId friendId ∈ events := by
  induction events generalizing waiting with
  | nil => exact .inl member
  | cons report events induction =>
      obtain before | ⟨friendId, later⟩ := induction member
      · cases report with
        | submitted other friendId =>
            obtain same | old := List.mem_cons.mp before
            · rw [same]
              exact .inr ⟨friendId, List.mem_cons_self⟩
            · exact .inl old
        | acked _ _ => exact .inl before
        | ackFailed _ _ => exact .inl before
        | raised _ => exact .inl before
      · exact .inr ⟨friendId, List.mem_cons_of_mem _ later⟩

theorem finds_of_registered {client : ChatClient} {before : List ClientReport}
    (registered : ∀ report ∈ events, client.Registered report) :
    Transition.EachEvent FindsSession before events := by
  apply Transition.eachEvent_of_forall
  intro before report member
  have right := registered report member
  cases report with
  | submitted _ _ => trivial
  | raised _ => trivial
  | acked _ _ => exact absurd right id
  | ackFailed _ _ => exact absurd right id

theorem Known.report (known : Known trace system)
    {result : ChatClient × List ClientReport}
    (remembers : Remembers (trace ++ result.2) result.1)
    (registers : Registers system.client result.1 result.2) :
    Known (trace ++ result.2)
      (ChatSystem.report system.unacked result).1 := by
  refine ⟨remembers, ?_, ?_⟩
  · intro deliveryId member
    obtain old | ⟨friendId, submitted⟩ := mem_unacked member
    · obtain ⟨small, isKnown⟩ := known.waiting deliveryId old
      exact ⟨small, registers.kept deliveryId isKnown⟩
    · exact registers.registered _ submitted
  · rw [Transition.eachEvent_append]
    exact ⟨known.finds, finds_of_registered registers.registered⟩

/-- After an acknowledgement every id that waits is known, exactly if it made
the client forget none of them. -/
theorem Known.remembersUnacked_iff (known : Known trace system)
    {deliveryId : Nat} (messageId : Int)
    (waits : deliveryId ∈ system.unacked) :
    (∀ other ∈ system.unacked,
      ((system.client.onAckUserMessage deliveryId
        messageId).1.localIdToSession.lookup other).isSome = true) ↔
      system.RemembersUnacked (.ack deliveryId messageId) := by
  obtain ⟨small, isKnown⟩ := known.waiting deliveryId waits
  obtain ⟨friendId, found⟩ := Option.isSome_iff_exists.mp isKnown
  obtain ⟨_, shown⟩ := known.remembers.sessions _ _ found small
  obtain ⟨message, shown⟩ := Option.isSome_iff_exists.mp shown
  have kept : ∀ other,
      (system.client.onAckUserMessage deliveryId
        messageId).1.localIdToSession.lookup other =
        if system.client.decays deliveryId = true ∧
            system.client.minLocalId ≤ other ∧ other < deliveryId then none
        else system.client.localIdToSession.lookup other := by
    intro other
    rw [onAckUserMessage_of_found messageId found shown,
      enter_localIdToSession]
    exact lookup_maybeDecayLocalIds _ deliveryId other
  constructor
  · intro all decays other member inside
    have still := all other member
    rw [kept, if_pos ⟨decays, inside⟩] at still
    cases still
  · intro remembersUnacked other member
    rw [kept, if_neg]
    · exact (known.waiting other member).2
    · rintro ⟨decays, inside⟩
      exact remembersUnacked decays other member inside

/-- The session of the acknowledgement is found, and the ids of the others
are still known. -/
theorem Known.ack (known : Known trace system) {deliveryId : Nat}
    (messageId : Int) (waits : deliveryId ∈ system.unacked)
    (remembersUnacked :
      system.RemembersUnacked (.ack deliveryId messageId)) :
    Known
      (trace ++ (system.client.onAckUserMessage deliveryId messageId).2)
      (ChatSystem.report (system.unacked.filter (· ≠ deliveryId))
        (system.client.onAckUserMessage deliveryId messageId)).1 := by
  obtain ⟨small, isKnown⟩ := known.waiting deliveryId waits
  obtain ⟨friendId, found⟩ := Option.isSome_iff_exists.mp isKnown
  obtain ⟨submitted, shown⟩ := known.remembers.sessions _ _ found small
  obtain ⟨message, shown⟩ := Option.isSome_iff_exists.mp shown
  have still := (known.remembersUnacked_iff messageId waits).mpr
    remembersUnacked
  rw [onAckUserMessage_of_found messageId found shown] at still ⊢
  refine ⟨?_, ?_, ?_⟩
  · apply Remembers.append
    apply Remembers.enter
    have cleaned := known.remembers.acknowledged deliveryId
    exact ⟨cleaned.sessions, cleaned.waiters, cleaned.timeouts⟩
  · intro other member
    obtain ⟨old, _⟩ := List.mem_filter.mp member
    exact ⟨(known.waiting other old).1, still other old⟩
  · rw [Transition.eachEvent_append]
    exact ⟨known.finds, submitted, trivial⟩

theorem Known.step (known : Known trace system) {call : ChatCall}
    (allowed : system.RemembersUnacked call)
    (stepped : ChatSystem.step system call = some (next, events)) :
    Known (trace ++ events) next := by
  cases call with
  | send friendId text =>
      simp only [ChatSystem.step] at stepped
      split at stepped
      · cases stepped
      · rename_i chat found
        cases stepped
        exact known.report (known.remembers.sendMessage found _ _)
          (registers_sendMessage _ _ _ _)
  | resend deliveryId =>
      cases stepped
      exact known.report (known.remembers.resendMessage deliveryId)
        (registers_resendMessage known.remembers deliveryId)
  | fire handle =>
      simp only [ChatSystem.step] at stepped
      split at stepped
      · cases stepped
      · rename_i deliveryId _
        cases stepped
        exact known.report (known.remembers.fire handle deliveryId)
          (registers_fire _ handle deliveryId)
  | push senderId text messageId =>
      cases stepped
      exact known.report
        (known.remembers.onPushUserMessage senderId text messageId)
        (registers_onPushUserMessage _ _ _ _)
  | ack deliveryId messageId =>
      simp only [ChatSystem.step] at stepped
      split at stepped
      · rename_i waits
        cases stepped
        exact known.ack messageId waits allowed
      · cases stepped

theorem known_loggedIn (userSeq : Int) (chatSessions : Table Int ChatSession)
    (drawn : Nat) : Known [] (loggedIn userSeq chatSessions drawn) where
  remembers :=
    { sessions := by
        intro deliveryId friendId found
        cases found
      waiters := by
        intro deliveryId log found
        cases found
      timeouts := by
        intro deliveryId log found
        cases found }
  waiting := fun _ member => absurd member List.not_mem_nil
  finds := trivial

/-- As long as no acknowledgement makes the client forget the id of a message
that waits for its own, every acknowledgement finds its session. -/
theorem run_finds_session {userSeq : Int}
    {chatSessions : Table Int ChatSession} {drawn : Nat}
    (run : Transition.Run step RemembersUnacked
      (loggedIn userSeq chatSessions drawn) trace system) :
    Transition.EachEvent FindsSession [] trace := by
  have known : Known trace system := by
    apply run.invariant (known_loggedIn userSeq chatSessions drawn)
    intro trace events system next call known allowed stepped
    exact known.step allowed stepped
  exact known.finds

/-- Three messages are acknowledged in the order in which they were sent; the
third acknowledgement makes the client forget the first two. -/
theorem run_finds_session_in_order :
    ∃ trace system,
      Transition.Run step RemembersUnacked
        (loggedIn 1 [(2, { sessionId := some 7 })] 0) trace system ∧
      system.client.minLocalId = 3 ∧
      Transition.EachEvent FindsSession [] trace := by
  have ran : ∃ trace system,
      Transition.Run step RemembersUnacked
        (loggedIn 1 [(2, { sessionId := some 7 })] 0) trace system ∧
        system.client.minLocalId = 3 := by
    apply Transition.Run.exists_state_of_exec
      [.send 2 "a", .send 2 "b", .send 2 "c", .ack 1 11, .ack 2 12, .ack 3 13]
    decide +kernel
  obtain ⟨trace, system, run, dropped⟩ := ran
  exact ⟨trace, system, run, dropped, run_finds_session run⟩

/-- The acknowledgement of the third message arrives first, and the session of
the first one is not found any longer. -/
theorem third_ack_forgets_first : ¬ ∀ (userSeq : Int)
    (chatSessions : Table Int ChatSession) (drawn : Nat)
    (trace : List ClientReport) (system : ChatSystem),
    Transition.AnyRun step (loggedIn userSeq chatSessions drawn) trace
      system → Transition.EachEvent FindsSession [] trace := by
  intro always
  have ran : ∃ trace system,
      Transition.AnyRun step (loggedIn 1 [(2, { sessionId := some 7 })] 0)
        trace system ∧
      trace = [.submitted 1 2, .submitted 2 2, .submitted 3 2, .acked 3 2,
        .ackFailed 1 .keyError] := by
    apply Transition.Run.exists_both_of_exec
      [.send 2 "a", .send 2 "b", .send 2 "c", .ack 3 13, .ack 1 11]
    decide +kernel
  obtain ⟨trace, system, run, rfl⟩ := ran
  exact (always _ _ _ _ system run).2.2.2.2.1

end ChatSystem

end Front

end TinyChat
