import TinyChat.Front.SessionHistory

/-!
# The sessions that are recovered

The loop of the client is right if the chunks are the documents.  A chunk that
is another part of the response cannot be read, and ends the loop; so does a
session without messages, unless it is the last one.
-/

namespace TinyChat

namespace Front

open Storage

variable {replies : List CassSessionReply} {reply : CassSessionReply}
  {document : List UInt8} {documents chunks : List (List UInt8)}

/-! ## The loop -/

/-- `collect_lastest_session` ends without an exception. -/
def Collects (client : ChatClient) (entry : Int × List SessionMessage) :
    Prop :=
  (client.chatSessions.lookup entry.1).isSome = true ∧ entry.2 ≠ []

theorem collectLastestSession_nil_iff (client : ChatClient) (friendId : Int)
    (data : List SessionMessage) :
    (client.collectLastestSession friendId data).2 = [] ↔
      Collects client (friendId, data) := by
  have last := ChatClient.showSession_last friendId client none data.reverse
  unfold ChatClient.collectLastestSession Collects
  split
  · rename_i missing
    simp [missing]
  · rename_i chat found
    split
    · rename_i next shown
      rw [shown] at last
      cases data with
      | nil => simp
      | cons message data => simp at last
    · rename_i next messageId shown
      rw [shown] at last
      cases data with
      | nil => cases last
      | cons message data => simp [found]

theorem isSome_lookup_showSession (client : ChatClient)
    (friendId other : Int) (last : Option Int)
    (data : List SessionMessage) :
    ((ChatClient.showSession friendId client last data).1.chatSessions.lookup
        other).isSome =
      (client.chatSessions.lookup other).isSome := by
  induction data generalizing client last with
  | nil => rfl
  | cons message data induction =>
      rw [ChatClient.showSession, induction]
      exact ChatClient.isSome_lookup_enter _ friendId other _ _

theorem collects_collectLastestSession (client : ChatClient)
    (friendId : Int) (data : List SessionMessage)
    (entry : Int × List SessionMessage) :
    Collects (client.collectLastestSession friendId data).1 entry ↔
      Collects client entry := by
  have same := isSome_lookup_showSession client friendId entry.1 none
    data.reverse
  unfold ChatClient.collectLastestSession
  split
  · rfl
  · split
    · rename_i next shown
      rw [shown] at same
      unfold Collects
      rw [← same]
    · rename_i next messageId shown
      rw [shown] at same
      unfold Collects
      rw [← same]

theorem pullSessions_unreadable {client : ChatClient}
    {friendIds : List Int} (iterSeq : Nat) {chunk : List UInt8}
    (unreadable : loadsChunk chunk = none) :
    (client.pullSessions friendIds iterSeq (chunk :: chunks)).assigned =
      [] := by
  rw [ChatClient.pullSessions, unreadable]

theorem pullSessions_document {client : ChatClient} {friendIds : List Int}
    {iterSeq : Nat} {friendId : Int}
    (encoded : Ascii.encode (replyText reply) = some document)
    (friend : friendIds[iterSeq]? = some friendId) :
    (client.pullSessions friendIds iterSeq (document :: chunks)).assigned =
      (friendId, sessionMessages reply) ::
        if (client.collectLastestSession friendId
            (sessionMessages reply)).2 = [] then
          ((client.collectLastestSession friendId
            (sessionMessages reply)).1.pullSessions friendIds (iterSeq + 1)
              chunks).assigned
        else [] := by
  simp only [ChatClient.pullSessions, loadsChunk_document encoded, friend,
    readData_reply]
  split
  · rename_i next collected
    simp only [collected, if_true]
    rfl
  · rename_i next reports failed collected
    simp only [collected, if_neg failed]

/-- The lists that a client is to assign, with the friends from a position
on. -/
def history (friendIds : List Int) (replies : List CassSessionReply) :
    List (Int × List SessionMessage) :=
  friendIds.zip (replies.map sessionMessages)

theorem forall_dropLast_cons {α : Type*} {property : α → Prop} (entry : α)
    (entries : List α) :
    (∀ other ∈ (entry :: entries).dropLast, property other) ↔
      (entries = [] ∨ property entry) ∧
        ∀ other ∈ entries.dropLast, property other := by
  cases entries with
  | nil => simp
  | cons next entries => simp

theorem history_of_cons {friendIds : List Int} {iterSeq : Nat}
    (enough : (reply :: replies).length ≤ (friendIds.drop iterSeq).length) :
    ∃ friendId, friendIds[iterSeq]? = some friendId ∧
      history (friendIds.drop iterSeq) (reply :: replies) =
        (friendId, sessionMessages reply) ::
          history (friendIds.drop (iterSeq + 1)) replies ∧
      replies.length ≤ (friendIds.drop (iterSeq + 1)).length := by
  rw [List.length_drop, List.length_cons] at enough
  have bound : iterSeq < friendIds.length := by omega
  refine ⟨friendIds[iterSeq], List.getElem?_eq_getElem bound, ?_, ?_⟩
  · rw [List.drop_eq_getElem_cons bound]
    rfl
  · rw [List.length_drop]
    omega

theorem history_eq_nil_iff {friendIds : List Int}
    (enough : replies.length ≤ friendIds.length) :
    history friendIds replies = [] ↔ replies = [] := by
  constructor
  · intro nothing
    have length := congrArg List.length nothing
    rw [history, List.length_zip, List.length_map, List.length_nil] at length
    exact List.length_eq_zero_iff.mp (by omega)
  · rintro rfl
    exact List.zip_nil_right

/-- Without bytes nothing is assigned. -/
theorem assigned_of_empty (client : ChatClient) (friendIds : List Int)
    (iterSeq : Nat) (empty : chunks.flatten = []) :
    (client.pullSessions friendIds iterSeq chunks).assigned = [] := by
  cases chunks with
  | nil => rfl
  | cons chunk chunks =>
      obtain ⟨nothing, _⟩ := List.append_eq_nil_iff.mp empty
      exact pullSessions_unreadable iterSeq (by rw [nothing]; rfl)

theorem chunks_of_assigned {client : ChatClient} {friendIds : List Int}
    {iterSeq : Nat}
    (encoded : Ascii.encode (replyText reply) = some document)
    (generated : dataGenerator replies = some documents)
    (joined : chunks.flatten = (document :: documents).flatten)
    (assigned :
      (client.pullSessions friendIds iterSeq chunks).assigned ≠ []) :
    ∃ later, chunks = document :: later ∧
      later.flatten = documents.flatten := by
  cases chunks with
  | nil => exact absurd rfl assigned
  | cons chunk later =>
      cases loaded : loadsChunk chunk with
      | none =>
          exact absurd (pullSessions_unreadable iterSeq loaded) assigned
      | some json =>
          obtain ⟨rfl, following⟩ :=
            chunk_eq_document encoded generated joined loaded
          exact ⟨later, rfl, following⟩

/-- Every session is assigned if and only if every document comes as a chunk
and no call but the last one fails. -/
theorem assigned_eq_history_iff (client : ChatClient)
    (friendIds : List Int) (iterSeq : Nat)
    (generated : dataGenerator replies = some documents)
    (joined : chunks.flatten = documents.flatten)
    (enough : replies.length ≤ (friendIds.drop iterSeq).length) :
    (client.pullSessions friendIds iterSeq chunks).assigned =
        history (friendIds.drop iterSeq) replies ↔
      documents <+: chunks ∧
        ∀ entry ∈ (history (friendIds.drop iterSeq) replies).dropLast,
          Collects client entry := by
  induction replies generalizing client iterSeq documents chunks with
  | nil =>
      cases generated
      have nothing : history (friendIds.drop iterSeq) [] = [] :=
        List.zip_nil_right
      rw [nothing]
      constructor
      · intro _
        exact ⟨List.nil_prefix, by simp⟩
      · intro _
        exact assigned_of_empty client friendIds iterSeq joined
  | cons reply replies induction =>
      obtain ⟨document, rest, rfl, encoded, others⟩ :=
        documents_of_cons generated
      obtain ⟨friendId, friend, first, fewer⟩ := history_of_cons enough
      have collects := collectLastestSession_nil_iff client friendId
        (sessionMessages reply)
      rw [first, forall_dropLast_cons]
      constructor
      · intro assigned
        obtain ⟨later, rfl, following⟩ := chunks_of_assigned encoded others
          joined (by rw [assigned]; exact List.cons_ne_nil _ _)
        rw [pullSessions_document encoded friend] at assigned
        have tail := (List.cons.inj assigned).2
        split at tail
        · rename_i succeeded
          obtain ⟨whole, accepted⟩ :=
            (induction _ _ others following fewer).mp tail
          refine ⟨List.cons_prefix_cons.mpr ⟨rfl, whole⟩,
            .inr (collects.mp succeeded), ?_⟩
          intro entry member
          exact (collects_collectLastestSession client friendId _
            entry).mp (accepted entry member)
        · have last := (history_eq_nil_iff fewer).mp tail.symm
          subst last
          cases others
          refine ⟨List.cons_prefix_cons.mpr ⟨rfl, List.nil_prefix⟩,
            .inl tail.symm, ?_⟩
          rw [← tail]
          simp
      · rintro ⟨⟨extra, rfl⟩, accepted, later⟩
        have following : (rest ++ extra).flatten = rest.flatten :=
          List.append_cancel_left joined
        rw [List.cons_append, pullSessions_document encoded friend]
        congr 1
        split
        · apply (induction _ _ others following fewer).mpr
          refine ⟨List.prefix_append rest extra, ?_⟩
          intro entry member
          exact (collects_collectLastestSession client friendId _
            entry).mpr (later entry member)
        · rename_i failed
          rcases accepted with last | accepted
          · exact last.symm
          · exact absurd (collects.mpr accepted) failed

/-! ## The whole response -/

/-- Exactly one list is assigned per session, in order, and to the friends in
their order. -/
structure Pulled.Recovers (pulled : Pulled) (friendIds : List Int)
    (replies : List CassSessionReply) : Prop where
  lists : pulled.assigned.map Prod.snd = replies.map sessionMessages
  friends : pulled.assigned.map Prod.fst <+: friendIds

theorem recovers_iff (pulled : Pulled) (friendIds : List Int)
    (replies : List CassSessionReply) :
    pulled.Recovers friendIds replies ↔
      replies.length ≤ friendIds.length ∧
        pulled.assigned = history friendIds replies := by
  constructor
  · rintro ⟨lists, more, rfl⟩
    have lengths := congrArg List.length lists
    rw [List.length_map, List.length_map] at lengths
    have same : (pulled.assigned.map Prod.fst).length =
        (pulled.assigned.map Prod.snd).length := by
      rw [List.length_map, List.length_map]
    refine ⟨by rw [List.length_append, List.length_map]; omega, ?_⟩
    rw [history, ← lists, ← List.append_nil (pulled.assigned.map Prod.snd),
      List.zip_append same, List.zip_nil_right, List.append_nil,
      ← List.unzip_fst, ← List.unzip_snd, List.zip_unzip]
  · rintro ⟨enough, assigned⟩
    constructor
    · rw [assigned, history, List.map_snd_zip]
      rw [List.length_map]
      exact enough
    · obtain ⟨first, more, rfl, same⟩ : ∃ first more,
          friendIds = first ++ more ∧ first.length = replies.length :=
        ⟨friendIds.take replies.length, friendIds.drop replies.length,
          (List.take_append_drop _ _).symm, List.length_take_of_le enough⟩
      have lengths : first.length = (replies.map sessionMessages).length := by
        rw [same, List.length_map]
      rw [assigned, history, ← List.append_nil (replies.map sessionMessages),
        List.zip_append lengths, List.zip_nil_right, List.append_nil,
        List.map_fst_zip (Nat.le_of_eq lengths)]
      exact List.prefix_append first more

/-- The sessions are recovered if and only if the chunks are the documents,
there is a friend for every session and no call but the last one fails. -/
theorem pullSessions_recovers_iff (client : ChatClient)
    (friendIds : List Int) (replies : List CassSessionReply) :
    ∃ documents, dataGenerator replies = some documents ∧
      ∀ chunks, chunks.flatten = documents.flatten →
        ((client.pullSessions friendIds 0 chunks).Recovers friendIds
            replies ↔
          documents <+: chunks ∧ replies.length ≤ friendIds.length ∧
            ∀ entry ∈ (history friendIds replies).dropLast,
              Collects client entry) := by
  obtain ⟨documents, generated⟩ := dataGenerator_isSome replies
  refine ⟨documents, generated, ?_⟩
  intro chunks joined
  have assigned := assigned_eq_history_iff client friendIds 0 generated
    joined
  rw [recovers_iff]
  constructor
  · rintro ⟨enough, recovered⟩
    obtain ⟨whole, accepted⟩ := (assigned enough).mp recovered
    exact ⟨whole, enough, accepted⟩
  · rintro ⟨whole, enough, accepted⟩
    exact ⟨enough, (assigned enough).mpr ⟨whole, accepted⟩⟩

/-- A client with two friends. -/
def twoFriends : ChatClient :=
  { userSeq := 1
    chatSessions :=
      [(2, { sessionId := some 5 }), (3, { sessionId := some 6 })] }

/-- A message of each of them. -/
def twoReplies : List CassSessionReply :=
  [{ token := none
     messages :=
      [{ data := { sessionId := 0, senderId := 2, text := "hello" }
         messageId := 11 }] },
   { token := none
     messages :=
      [{ data := { sessionId := 0, senderId := 3, text := "hi" }
         messageId := 12 }] }]

theorem pullSessions_recovers_documents :
    ∃ documents, dataGenerator twoReplies = some documents ∧
      (twoFriends.pullSessions [2, 3] 0 documents).Recovers [2, 3]
        twoReplies := by
  obtain ⟨documents, generated, law⟩ :=
    pullSessions_recovers_iff twoFriends [2, 3] twoReplies
  refine ⟨documents, generated, (law documents rfl).mpr
    ⟨List.prefix_refl _, by decide, ?_⟩⟩
  intro entry member
  obtain rfl := List.mem_singleton.mp member
  exact ⟨by decide, by decide⟩

/-- Both documents arrive in one chunk, and nothing is recovered. -/
theorem pullSessions_not_recovers_joined :
    ∃ documents, dataGenerator twoReplies = some documents ∧
      ¬ (twoFriends.pullSessions [2, 3] 0 [documents.flatten]).Recovers
        [2, 3] twoReplies := by
  obtain ⟨documents, generated⟩ := dataGenerator_isSome twoReplies
  refine ⟨documents, generated, ?_⟩
  intro recovers
  obtain ⟨enough, recovered⟩ := (recovers_iff _ _ _).mp recovers
  have whole := ((assigned_eq_history_iff twoFriends [2, 3] 0 generated
    (by simp) enough).mp recovered).1
  obtain ⟨first, others, rfl, _, later⟩ := documents_of_cons generated
  obtain ⟨second, rest, rfl, _, _⟩ := documents_of_cons later
  have length := whole.length_le
  simp at length

end Front

end TinyChat
