import TinyChat.Front.CursorWrites

/-!
# The cursor of the inbox

A client pulls the messages of its inbox whose ids are greater than the last
id it has written down.  A message is skipped for good if a greater id was
written before it arrived.
-/

namespace TinyChat

namespace Front

/-- A client with the ids of the messages that are in its inbox on the server,
of those that were pushed to it or that it has pulled, and of those by which
its cursor could move, the last one first. -/
structure InboxSystem where
  chat : ChatSystem
  inbox : List Int := []
  received : List Int := []
  arrived : List Int := []

/-- Something happens in the client, a message is stored in the inbox, or a
list that was pulled is collected. -/
inductive InboxCall where
  | chat (call : ChatCall)
  | store (messageId : Int)
  | collectLastestSession (friendId : Int) (data : List SessionMessage)
  | collectLastestInbox (data : List InboxMessage)

/-- The cursor before and after a call, and an exception of one of the two
functions that collect. -/
inductive InboxReport where
  | moved (before after : Int)
  | collectRaised (error : ClientError)
  deriving DecidableEq

/-- A function that collects does not raise, and the cursor does not go
back. -/
def InboxReport.Fine : InboxReport → Prop
  | .moved before after => before ≤ after
  | .collectRaised _ => False

namespace InboxSystem

def cursor (system : InboxSystem) : Int := system.chat.client.lastMaxMsgId

/-- The messages of the inbox that the client gets by a call. -/
def brought (system : InboxSystem) : InboxCall → List Int
  | .chat (.push senderId _ messageId) =>
      if (system.chat.client.chatSessions.lookup senderId).isSome = true then
        [messageId]
      else []
  | .chat _ => []
  | .store _ => []
  | .collectLastestSession _ data => data.map SessionMessage.messageId
  | .collectLastestInbox data => data.map InboxMessage.messageId

/-- The id that arrives with a call: that of a push or of an
acknowledgement, or of the newest message of a list that is shown. -/
def arrival (system : InboxSystem) : InboxCall → Option Int
  | .chat call => system.chat.arrival call
  | .store _ => none
  | .collectLastestSession friendId data =>
      if (system.chat.client.chatSessions.lookup friendId).isSome = true then
        data.head?.map SessionMessage.messageId
      else none
  | .collectLastestInbox data =>
      (data.find? system.chat.client.accepts).map InboxMessage.messageId

def collected (reports : List ClientReport) : List InboxReport :=
  reports.flatMap fun
    | .raised error => [.collectRaised error]
    | _ => []

/-- The client after a call. -/
def become (system : InboxSystem) (chat : ChatSystem) (call : InboxCall) :
    InboxSystem :=
  { system with
    chat := chat
    received := system.brought call ++ system.received
    arrived := (system.arrival call).toList ++ system.arrived }

def step : Transition.Step InboxSystem InboxCall InboxReport
  | system, .chat call =>
      match ChatSystem.step system.chat call with
      | none => none
      | some (chat, _) =>
          let next := system.become chat (.chat call)
          some (next, [.moved system.cursor next.cursor])
  | system, .store messageId =>
      some ({ system with inbox := messageId :: system.inbox },
        [.moved system.cursor system.cursor])
  | system, .collectLastestSession friendId data =>
      let result :=
        system.chat.client.collectLastestSession friendId data
      let next := system.become { system.chat with client := result.1 }
        (.collectLastestSession friendId data)
      some (next,
        .moved system.cursor next.cursor :: collected result.2)
  | system, .collectLastestInbox data =>
      let result := system.chat.client.collectLastestInbox data
      let next := system.become { system.chat with client := result.1 }
        (.collectLastestInbox data)
      some (next,
        .moved system.cursor next.cursor :: collected result.2)

/-- The next pull gets every message that the client does not have. -/
def Safe (system : InboxSystem) : Prop :=
  ∀ messageId ∈ system.inbox, messageId ∉ system.received →
    system.cursor ≤ messageId

/-- An id comes after all that have arrived. -/
def Follows (system : InboxSystem) (messageId : Int) : Prop :=
  0 ≤ messageId ∧ ∀ earlier ∈ system.arrived, earlier ≤ messageId

/-- Ids arrive in their order, and none overtakes a smaller one in the inbox:
that has come before, or comes with the same list. -/
def InOrder (system : InboxSystem) (messageId : Int) (brought : List Int) :
    Prop :=
  system.Follows messageId ∧
    ∀ other ∈ system.inbox, other < messageId →
      other ∈ system.received ∨ other ∈ brought

/-- What arrives is in order, every list that is collected has a message to
show, and a message is stored before a greater id arrives, unless it was
received already. -/
def Ordered (system : InboxSystem) (call : InboxCall) : Prop :=
  match call with
  | .chat _ => ∀ messageId ∈ system.arrival call,
      system.InOrder messageId (system.brought call)
  | .store messageId =>
      messageId ∈ system.received ∨ system.Follows messageId
  | .collectLastestSession _ _ | .collectLastestInbox _ =>
      ∃ messageId ∈ system.arrival call,
        system.InOrder messageId (system.brought call)

instance (system : InboxSystem) (messageId : Int) :
    Decidable (system.Follows messageId) :=
  inferInstanceAs (Decidable (_ ∧ _))

instance (system : InboxSystem) (messageId : Int) (brought : List Int) :
    Decidable (system.InOrder messageId brought) :=
  inferInstanceAs (Decidable (_ ∧ _))

instance (system : InboxSystem) :
    (call : InboxCall) → Decidable (system.Ordered call)
  | .chat _ => inferInstanceAs (Decidable (∀ messageId ∈ _, _))
  | .store _ => inferInstanceAs (Decidable (_ ∨ _))
  | .collectLastestSession _ _ =>
      inferInstanceAs (Decidable (∃ messageId ∈ _, _))
  | .collectLastestInbox _ =>
      inferInstanceAs (Decidable (∃ messageId ∈ _, _))

/-- A client that has just logged in, before a message is in its inbox. -/
def loggedIn (userSeq : Int) (chatSessions : Table Int ChatSession)
    (drawn : Nat) : InboxSystem where
  chat := ChatSystem.loggedIn userSeq chatSessions drawn

variable {system next : InboxSystem} {events : List InboxReport}
  {call : InboxCall} {messageId : Int}

theorem fine_single (report : InboxReport) :
    (∀ other ∈ [report], other.Fine) ↔ report.Fine := by
  simp

/-- The functions that collect return as long as something arrives, and the
cursor is then at what has arrived. -/
theorem step_arrives (stepped : step system call = some (next, events)) :
    next.cursor = (system.arrival call).getD system.cursor ∧
    ((∀ report ∈ events, report.Fine) ↔
      system.cursor ≤ next.cursor ∧
        ((∃ inner, call = .chat inner) ∨ (∃ stored, call = .store stored) ∨
          (system.arrival call).isSome = true)) := by
  cases call with
  | chat inner =>
      simp only [step] at stepped
      split at stepped
      · cases stepped
      · rename_i chat reports moved
        cases stepped
        refine ⟨ChatSystem.step_arrival moved, ?_⟩
        rw [fine_single]
        simp [InboxReport.Fine]
  | store stored =>
      cases stepped
      refine ⟨rfl, ?_⟩
      rw [fine_single]
      simp [InboxReport.Fine, cursor]
  | collectLastestSession friendId data =>
      cases stepped
      by_cases known :
        (system.chat.client.chatSessions.lookup friendId).isSome = true
      · simp only [arrival, if_pos known]
        cases data with
        | nil =>
            rw [ChatClient.collectLastestSession_nil known]
            refine ⟨rfl, ?_⟩
            simp [collected, InboxReport.Fine]
        | cons message rest =>
            obtain ⟨returned, moved⟩ :=
              ChatClient.collectLastestSession_cons known message rest
            rw [returned]
            refine ⟨moved, ?_⟩
            refine (fine_single _).trans ?_
            simp [InboxReport.Fine]
      · have missing := Option.not_isSome_iff_eq_none.mp known
        have raised : system.chat.client.collectLastestSession friendId data =
            (system.chat.client, [.raised .keyError]) := by
          simp only [ChatClient.collectLastestSession, missing]
        simp only [arrival, if_neg known]
        rw [raised]
        refine ⟨rfl, ?_⟩
        simp [collected, InboxReport.Fine]
  | collectLastestInbox data =>
      cases stepped
      simp only [arrival]
      cases found : data.find? system.chat.client.accepts with
      | none =>
          obtain ⟨raised, moved⟩ :=
            ChatClient.collectLastestInbox_of_none found
          rw [raised]
          refine ⟨moved, ?_⟩
          simp [collected, InboxReport.Fine]
      | some message =>
          obtain ⟨returned, moved⟩ :=
            ChatClient.collectLastestInbox_of_some found
          rw [returned]
          refine ⟨moved, ?_⟩
          refine (fine_single _).trans ?_
          simp [InboxReport.Fine]

theorem step_tables (stepped : step system call = some (next, events)) :
    next.received = system.brought call ++ system.received ∧
      next.arrived = (system.arrival call).toList ++ system.arrived ∧
      ∀ other, other ∈ next.inbox ↔
        other ∈ system.inbox ∨ call = .store other := by
  cases call with
  | chat inner =>
      simp only [step] at stepped
      split at stepped
      · cases stepped
      · cases stepped
        simp [become]
  | store stored =>
      cases stepped
      refine ⟨rfl, rfl, ?_⟩
      intro other
      simp only [List.mem_cons, InboxCall.store.injEq]
      rw [or_comm, eq_comm]
  | collectLastestSession friendId data =>
      cases stepped
      simp [become]
  | collectLastestInbox data =>
      cases stepped
      simp [become]

/-- What is known after a run: nothing that has arrived is greater than the
cursor. -/
structure Kept (trace : List InboxReport) (system : InboxSystem) : Prop where
  fine : ∀ report ∈ trace, report.Fine
  safe : system.Safe
  latest : system.cursor = system.arrived.headD 0
  greatest : system.Follows system.cursor

theorem Kept.follows_iff {trace : List InboxReport}
    (kept : Kept trace system) :
    system.Follows messageId ↔ system.cursor ≤ messageId := by
  constructor
  · rintro ⟨positive, after⟩
    rw [kept.latest]
    cases arrived : system.arrived with
    | nil => exact positive
    | cons last earlier =>
        apply after
        rw [arrived]
        exact List.mem_cons_self
  · intro behind
    refine ⟨Int.le_trans kept.greatest.1 behind, ?_⟩
    intro earlier member
    exact Int.le_trans (kept.greatest.2 earlier member) behind

/-- An id that arrives leaves no message of the inbox behind exactly if it
overtakes none. -/
theorem Kept.inOrder_iff {trace : List InboxReport}
    (kept : Kept trace system) {brought : List Int}
    (inbox : ∀ other, other ∈ next.inbox ↔ other ∈ system.inbox)
    (received : next.received = brought ++ system.received)
    (cursor : next.cursor = messageId) :
    (system.cursor ≤ next.cursor ∧ next.Safe) ↔
      system.InOrder messageId brought := by
  unfold InOrder Safe
  rw [cursor, received, kept.follows_iff]
  apply and_congr_right
  intro _
  constructor
  · intro safe other member smaller
    by_contra missing
    apply Int.not_le.mpr smaller
    apply safe other ((inbox other).mpr member)
    intro got
    exact missing (List.mem_append.mp got).symm
  · intro complete other member missing
    by_contra above
    apply missing
    exact List.mem_append.mpr (complete other ((inbox other).mp member)
      (Int.not_le.mp above)).symm

theorem Safe.stay (safe : system.Safe)
    (inbox : ∀ other, other ∈ next.inbox ↔ other ∈ system.inbox)
    (received : ∀ other ∈ system.received, other ∈ next.received)
    (cursor : next.cursor = system.cursor) : next.Safe := by
  intro other member missing
  rw [cursor]
  exact safe other ((inbox other).mp member)
    (fun old => missing (received other old))

theorem Kept.collects_iff {trace : List InboxReport}
    (kept : Kept trace system) (noChat : ∀ inner, call ≠ .chat inner)
    (noStore : ∀ stored, call ≠ .store stored)
    (inbox : ∀ other, other ∈ next.inbox ↔ other ∈ system.inbox)
    (received : next.received = system.brought call ++ system.received)
    (cursor : next.cursor = (system.arrival call).getD system.cursor) :
    (system.cursor ≤ next.cursor ∧
        ((∃ inner, call = .chat inner) ∨ (∃ stored, call = .store stored) ∨
          (system.arrival call).isSome = true)) ∧ next.Safe ↔
      ∃ messageId ∈ system.arrival call,
        system.InOrder messageId (system.brought call) := by
  cases arrived : system.arrival call with
  | none => simp [noChat, noStore]
  | some messageId =>
      rw [arrived] at cursor
      refine Iff.trans ?_
        ((kept.inOrder_iff inbox received cursor).trans ?_)
      · simp
      · simp

/-- A call keeps what the cursor promises exactly if it is in order. -/
theorem step_fine_iff {trace : List InboxReport} (kept : Kept trace system)
    (stepped : step system call = some (next, events)) :
    (∀ report ∈ events, report.Fine) ∧ next.Safe ↔
      system.Ordered call := by
  obtain ⟨cursor, fine⟩ := step_arrives stepped
  obtain ⟨received, -, inbox⟩ := step_tables stepped
  have older : ∀ other ∈ system.received, other ∈ next.received := by
    rw [received]
    exact fun _ old => List.mem_append_right _ old
  rw [fine]
  cases call with
  | chat inner =>
      have same : ∀ other, other ∈ next.inbox ↔ other ∈ system.inbox := by
        simpa using inbox
      cases arrived : system.arrival (.chat inner) with
      | none =>
          rw [arrived] at cursor
          refine iff_of_true ⟨⟨Int.le_of_eq cursor.symm, .inl ⟨_, rfl⟩⟩, ?_⟩
            ?_
          · exact kept.safe.stay same older cursor
          · intro messageId member
            rw [arrived] at member
            cases member
      | some messageId =>
          rw [arrived] at cursor
          simp only [Ordered, arrived, Option.mem_some_iff]
          refine Iff.trans ?_
            ((kept.inOrder_iff same received cursor).trans ?_)
          · simp
          · simp
  | store stored =>
      cases stepped
      simp only [Ordered]
      rw [kept.follows_iff]
      constructor
      · rintro ⟨-, safe⟩
        by_cases got : stored ∈ system.received
        · exact .inl got
        · exact .inr (safe stored List.mem_cons_self got)
      · intro allowed
        refine ⟨⟨Int.le_refl _, .inr (.inl ⟨_, rfl⟩)⟩, ?_⟩
        intro other member missing
        obtain same | old := List.mem_cons.mp member
        · rw [same] at missing ⊢
          obtain got | later := allowed
          · exact absurd got missing
          · exact later
        · exact kept.safe other old missing
  | collectLastestSession friendId data =>
      exact kept.collects_iff (by simp) (by simp) (by simpa using inbox)
        received cursor
  | collectLastestInbox data =>
      exact kept.collects_iff (by simp) (by simp) (by simpa using inbox)
        received cursor

theorem Kept.step {trace : List InboxReport} (kept : Kept trace system)
    (ordered : system.Ordered call)
    (stepped : InboxSystem.step system call = some (next, events)) :
    Kept (trace ++ events) next := by
  obtain ⟨new, still⟩ := (step_fine_iff kept stepped).mpr ordered
  obtain ⟨cursor, fine⟩ := step_arrives stepped
  obtain ⟨-, arrived, -⟩ := step_tables stepped
  have forward := (fine.mp new).1
  refine ⟨?_, still, ?_, ?_, ?_⟩
  · intro report member
    obtain old | later := List.mem_append.mp member
    · exact kept.fine report old
    · exact new report later
  · rw [cursor, arrived]
    cases system.arrival call with
    | none => exact kept.latest
    | some messageId => rfl
  · exact Int.le_trans kept.greatest.1 forward
  · intro earlier member
    rw [arrived] at member
    obtain now | before := List.mem_append.mp member
    · have same := Option.mem_toList.mp now
      rw [cursor, Option.mem_def.mp same]
      exact Int.le_refl _
    · exact Int.le_trans (kept.greatest.2 earlier before) forward

/-- As long as ids arrive in order and the lists have something to show, no
function that collects raises, the cursor does not go back, and it is behind
every message of the inbox that the client does not have. -/
theorem run_cursor_safe {userSeq : Int}
    {chatSessions : Table Int ChatSession} {drawn : Nat}
    {trace : List InboxReport}
    (run : Transition.Run step Ordered
      (loggedIn userSeq chatSessions drawn) trace system) :
    (∀ report ∈ trace, report.Fine) ∧ system.Safe := by
  have kept : Kept trace system := by
    apply run.invariant
    · exact ⟨fun _ member => absurd member List.not_mem_nil,
        fun _ member => absurd member List.not_mem_nil, rfl,
        Int.le_refl _, fun _ member => absurd member List.not_mem_nil⟩
    · intro trace events system next call kept allowed stepped
      exact kept.step allowed stepped
  exact ⟨kept.fine, kept.safe⟩

/-- A session is pulled, a message is pushed, and another one is pulled from
the inbox. -/
theorem run_cursor_safe_pulled :
    ∃ trace system,
      Transition.Run step Ordered
        (loggedIn 1 [(2, { sessionId := some 7 })] 0) trace system ∧
      system.cursor = 6 ∧
      (∀ report ∈ trace, report.Fine) ∧ system.Safe := by
  have ran : ∃ trace system,
      Transition.Run step Ordered
        (loggedIn 1 [(2, { sessionId := some 7 })] 0) trace system ∧
        system.cursor = 6 := by
    apply Transition.Run.exists_state_of_exec
      [.collectLastestSession 2 [⟨4, 1, "b"⟩, ⟨3, 2, "a"⟩],
        .store 5, .store 6, .chat (.push 2 "c" 5),
        .collectLastestInbox [⟨6, 2, some 7, "d"⟩]]
    decide +kernel
  obtain ⟨trace, system, run, moved⟩ := ran
  have safe := run_cursor_safe run
  exact ⟨trace, system, run, moved, safe.1, safe.2⟩

/-- The inbox is empty, and the function that collects it raises. -/
theorem empty_inbox_raises : ¬ ∀ (userSeq : Int)
    (chatSessions : Table Int ChatSession) (drawn : Nat)
    (trace : List InboxReport) (system : InboxSystem),
    Transition.AnyRun step (loggedIn userSeq chatSessions drawn) trace
      system → (∀ report ∈ trace, report.Fine) ∧ system.Safe := by
  intro always
  have ran : ∃ trace system,
      Transition.AnyRun step (loggedIn 1 [(2, { sessionId := some 7 })] 0)
        trace system ∧
      .collectRaised .unboundLocalError ∈ trace := by
    apply Transition.Run.exists_both_of_exec [.collectLastestInbox []]
    decide +kernel
  obtain ⟨trace, system, run, raised⟩ := ran
  exact (always _ _ _ trace system run).1 _ raised

end InboxSystem

end Front

end TinyChat
