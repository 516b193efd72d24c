import Mathlib.Logic.Function.Basic
import TinyChat.Message.Sender

/-!
# Reading the inbox

`ReadInbox` returns the messages of a receiver from the rows that the
database selected.  Rows that repeat the number of a sender are taken for
copies of one message.
-/

namespace TinyChat

namespace Storage

structure InboxRow where
  channelId : Int
  messageId : Int
  senderSeq : Int
  senderId : Int
  content : String

inductive CassMessageStatusCode where
  | success
  | timeout
  | failed

structure CassInboxReply where
  code : CassMessageStatusCode
  messages : List ServerMsgData := []

def InboxRow.toMessage (row : InboxRow) : ServerMsgData :=
  { data :=
      { sessionId := row.channelId
        senderId := row.senderId
        text := row.content }
    messageId := row.messageId }

/-- The loop of `ReadInbox`; `handled` has the numbers seen of each sender. -/
def filterRows (handled : Int → List Int) :
    List InboxRow → List ServerMsgData
  | [] => []
  | row :: rows =>
      let bucket := handled row.senderId
      if row.senderSeq ∉ bucket then
        let handled :=
          Function.update handled row.senderId (row.senderSeq :: bucket)
        row.toMessage :: filterRows handled rows
      else filterRows handled rows

/-- `ReadInbox` once the query has ended, with its rows or an exception. -/
def readInbox : Option (List InboxRow) → CassInboxReply
  | none => { code := .failed }
  | some rows =>
      if rows.length = 0 then { code := .success }
      else
        { code := .success
          messages := filterRows (fun _ => []) rows }

theorem filterRows_represents {handled : Int → List Int}
    {rows : List InboxRow} {row : InboxRow} (member : row ∈ rows) :
    row.senderSeq ∈ handled row.senderId ∨
      ∃ kept ∈ rows, kept.senderId = row.senderId ∧
        kept.senderSeq = row.senderSeq ∧
        kept.toMessage ∈ filterRows handled rows := by
  induction rows generalizing handled with
  | nil => cases member
  | cons first rows induction =>
      simp only [filterRows]
      rcases List.mem_cons.mp member with rfl | later
      · by_cases seen : row.senderSeq ∈ handled row.senderId
        · exact Or.inl seen
        · right
          refine ⟨row, List.mem_cons_self, rfl, rfl, ?_⟩
          rw [if_pos seen]
          exact List.mem_cons_self
      · split
        · rcases @induction (Function.update handled first.senderId
            (first.senderSeq :: handled first.senderId)) later with
            seen | ⟨kept, listed, sender, seq, returned⟩
          · by_cases same : row.senderId = first.senderId
            · rw [same, Function.update_self] at seen
              rcases List.mem_cons.mp seen with now | before
              · right
                exact ⟨first, List.mem_cons_self, same.symm, now.symm,
                  List.mem_cons_self⟩
              · rw [same]
                exact Or.inl before
            · rw [Function.update_of_ne same] at seen
              exact Or.inl seen
          · right
            exact ⟨kept, List.mem_cons_of_mem _ listed, sender, seq,
              List.mem_cons_of_mem _ returned⟩
        · rcases @induction handled later with
            seen | ⟨kept, listed, sender, seq, returned⟩
          · exact Or.inl seen
          · right
            exact ⟨kept, List.mem_cons_of_mem _ listed, sender, seq,
              returned⟩

theorem readInbox_represents {rows : List InboxRow} {row : InboxRow}
    (member : row ∈ rows) :
    ∃ kept ∈ rows, kept.senderId = row.senderId ∧
      kept.senderSeq = row.senderSeq ∧
      kept.toMessage ∈ (readInbox (some rows)).messages := by
  have nonempty : rows.length ≠ 0 := by
    intro empty
    rw [List.length_eq_zero_iff.mp empty] at member
    cases member
  simp only [readInbox, if_neg nonempty]
  rcases @filterRows_represents (fun _ => []) rows row member with
    seen | represented
  · cases seen
  · exact represented

end Storage

end TinyChat
