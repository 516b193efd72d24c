import TinyChat.Auth.Routes
import TinyChat.Downstream.ReadModel
import TinyChat.Storage.Inbox

/-!
# Pulling the inbox

The storage keeps the rows of an inbox in the descending order of the
messages.  The route `pull_inbox` reads them through the downstream service,
and each of the calls on the way may fail.
-/

namespace TinyChat

namespace Downstream

open Auth Storage Worker

/-- `write_inbox.cql` writes a row for a request. -/
def inboxRow (request : CassMsgRequest) : InboxRow where
  channelId := request.messageData.sessionId
  messageId := request.messageId
  senderSeq := request.deliveryId
  senderId := request.messageData.senderId
  content := request.messageData.text

/-- A row replaces the one with its key. -/
def insertInbox (row : InboxRow) : List InboxRow → List InboxRow
  | [] => [row]
  | first :: rows =>
      if row.messageId < first.messageId then first :: insertInbox row rows
      else if row.messageId = first.messageId then row :: rows
      else row :: first :: rows

/-- The rows of the receivers. -/
def writeInbox (table : Int → List InboxRow) (request : CassMsgRequest) :
    Int → List InboxRow :=
  Function.update table request.messageData.receiverId
    (insertInbox (inboxRow request) (table request.messageData.receiverId))

/-- `read_inbox.cql`. -/
def selectInbox (table : Int → List InboxRow) (receiver last : Int) :
    List InboxRow :=
  (table receiver).filter (fun row => last < row.messageId)

/-- `CassMessageService.read_inbox`. -/
def readInbox (called : CallResult CassInboxReply) :
    Option (List ServerMsgData) :=
  match called with
  | .success reply =>
      match reply.code with
      | .success => some reply.messages
      | .timeout | .failed => none
  | .timeout | .failed => none

/-- `PullInboxReply`; the data belongs to a success. -/
inductive PullInboxReply where
  | success (messages : List ServerMsgData)
  | timeout
  | failed
  deriving DecidableEq

/-- `PullInboxMsg`; the service may be missing. -/
def pullInboxMsg (service : Option (CallResult CassInboxReply)) :
    PullInboxReply :=
  match service with
  | none => .failed
  | some called =>
      match readInbox called with
      | none => .failed
      | some data => .success data

/-- What the route puts into its response. -/
structure PulledMessage where
  messageId : Int
  sessionId : Int
  senderId : Int
  text : String
  deriving DecidableEq

def PulledMessage.ofMessage (message : ServerMsgData) : PulledMessage where
  messageId := message.messageId
  sessionId := message.data.sessionId
  senderId := message.data.senderId
  text := message.data.text

inductive PullResponse where
  | data (messages : List PulledMessage)
  | status (code : Nat)
  | text (code : Nat) (content : String)
  deriving DecidableEq

/-- What the form has under `last_max_msg_id`. -/
inductive LastMaxMsgId where
  | missing
  | invalid
  | number (last : Int)
  deriving DecidableEq

/-- The route `pull_inbox`; the service may be missing. -/
def pullInbox (form : LastMaxMsgId)
    (pull : Int → Option (CallResult PullInboxReply)) : PullResponse :=
  match form with
  | .missing => .text 400 "Missing required field in the form"
  | .invalid => .text 400 "Invalid field value in the form"
  | .number last =>
      match pull last with
      | none => .status 500
      | some (.success (.success messages)) =>
          .data (messages.map .ofMessage)
      | some (.success .timeout) => .text 200 "Sorry, timeout, try later"
      | some (.success .failed) =>
          .text 504 "Sorry, timeout, please try it again"
      | some .timeout => .status 504
      | some .failed => .status 400

/-- How the calls end: that of the route, that of the downstream service, and
whether the query succeeds; a service may be missing. -/
structure PullCalls where
  route : Option Transport
  storage : Option Transport
  queried : Bool

namespace PullCalls

variable (calls : PullCalls)

/-- The reply of `ReadInbox`. -/
def readReply (table : Int → List InboxRow) (uid last : Int) :
    CassInboxReply :=
  Storage.readInbox
    (if calls.queried then some (selectInbox table uid last) else none)

/-- The response to a request of an authenticated user. -/
def response (table : Int → List InboxRow) (uid : Int)
    (form : LastMaxMsgId) : PullResponse :=
  pullInbox form (fun last => calls.route.map (fun transport =>
    transport.carry (some (pullInboxMsg (calls.storage.map
      (fun transport => transport.carry
        (some (calls.readReply table uid last))))))))

/-- Every call on the way succeeds. -/
def Reaching : Prop :=
  calls.route = some .answered ∧ calls.storage = some .answered ∧
    calls.queried = true

instance : Decidable calls.Reaching := inferInstanceAs (Decidable (_ ∧ _))

end PullCalls

/-! ## Rows -/

/-- The order of an inbox. -/
def Descending (rows : List InboxRow) : Prop :=
  rows.Pairwise (fun first second => second.messageId < first.messageId)

section

variable {row other : InboxRow} {rows : List InboxRow}

theorem mem_insertInbox_self (row : InboxRow) (rows : List InboxRow) :
    row ∈ insertInbox row rows := by
  induction rows with
  | nil => exact List.mem_singleton_self _
  | cons first rows induction =>
      simp only [insertInbox]
      split
      · exact List.mem_cons_of_mem _ induction
      · split
        · exact List.mem_cons_self
        · exact List.mem_cons_self

theorem mem_of_mem_insertInbox (member : other ∈ insertInbox row rows) :
    other = row ∨ other ∈ rows := by
  induction rows with
  | nil => exact .inl (List.mem_singleton.mp member)
  | cons first rows induction =>
      simp only [insertInbox] at member
      split at member
      · rcases List.mem_cons.mp member with rfl | later
        · exact .inr List.mem_cons_self
        · rcases induction later with same | old
          · exact .inl same
          · exact .inr (List.mem_cons_of_mem _ old)
      · split at member
        · rcases List.mem_cons.mp member with same | old
          · exact .inl same
          · exact .inr (List.mem_cons_of_mem _ old)
        · rcases List.mem_cons.mp member with same | old
          · exact .inl same
          · exact .inr old

/-- Only a row with the same key is replaced. -/
theorem mem_insertInbox_of_mem (member : other ∈ rows)
    (different : other.messageId ≠ row.messageId) :
    other ∈ insertInbox row rows := by
  induction rows with
  | nil => cases member
  | cons first rows induction =>
      simp only [insertInbox]
      split
      · rcases List.mem_cons.mp member with rfl | later
        · exact List.mem_cons_self
        · exact List.mem_cons_of_mem _ (induction later)
      · split
        · rename_i same
          rcases List.mem_cons.mp member with rfl | later
          · exact absurd same.symm different
          · exact List.mem_cons_of_mem _ later
        · exact List.mem_cons_of_mem _ member

theorem insertInbox_descending (descending : Descending rows) :
    Descending (insertInbox row rows) := by
  induction rows with
  | nil => exact List.pairwise_singleton _ _
  | cons first rows induction =>
      obtain ⟨above, rest⟩ := List.pairwise_cons.mp descending
      simp only [insertInbox]
      split
      · rename_i below
        refine List.pairwise_cons.mpr ⟨?_, induction rest⟩
        intro other member
        rcases mem_of_mem_insertInbox member with rfl | old
        · exact below
        · exact above other old
      · split
        · rename_i same
          refine List.pairwise_cons.mpr ⟨?_, rest⟩
          intro other old
          rw [same]
          exact above other old
        · refine List.pairwise_cons.mpr ⟨?_, descending⟩
          intro other member
          rcases List.mem_cons.mp member with rfl | old
          · omega
          · have below := above other old
            omega

/-- What is returned are the rows, but for copies. -/
theorem filterRows_sublist (handled : Int → List Int)
    (rows : List InboxRow) :
    (filterRows handled rows).Sublist (rows.map InboxRow.toMessage) := by
  induction rows generalizing handled with
  | nil => exact List.Sublist.refl _
  | cons first rows induction =>
      simp only [filterRows, List.map_cons]
      split
      · exact (induction _).cons_cons _
      · exact (induction _).cons _

theorem readInbox_sublist (rows : List InboxRow) :
    (Storage.readInbox (some rows)).messages.Sublist
      (rows.map InboxRow.toMessage) := by
  simp only [Storage.readInbox]
  split
  · exact List.nil_sublist _
  · exact filterRows_sublist _ rows

end

/-! ## The response -/

/-- The route returns data exactly if all of its calls succeed, and then the
messages behind the last one. -/
theorem response_data_iff {calls : PullCalls}
    {table : Int → List InboxRow} {uid : Int} {form : LastMaxMsgId}
    {messages : List PulledMessage} :
    calls.response table uid form = .data messages ↔
      calls.Reaching ∧ ∃ last, form = .number last ∧
        messages = (Storage.readInbox
          (some (selectInbox table uid last))).messages.map .ofMessage := by
  obtain ⟨route, storage, queried⟩ := calls
  unfold PullCalls.response PullCalls.Reaching pullInbox
  cases form with
  | missing => simp
  | invalid => simp
  | number last =>
      cases route with
      | none => simp
      | some transport =>
          cases transport with
          | timedOut => simp [Transport.carry]
          | failed => simp [Transport.carry]
          | answered =>
              cases storage with
              | none => simp [Transport.carry, pullInboxMsg]
              | some transport =>
                  cases transport with
                  | timedOut =>
                      simp [Transport.carry, pullInboxMsg, readInbox]
                  | failed =>
                      simp [Transport.carry, pullInboxMsg, readInbox]
                  | answered =>
                      cases queried with
                      | false =>
                          simp [Transport.carry, pullInboxMsg, readInbox,
                            PullCalls.readReply, Storage.readInbox]
                      | true =>
                          have code : (Storage.readInbox (some
                              (selectInbox table uid last))).code =
                                .success := by
                            simp only [Storage.readInbox]
                            split <;> rfl
                          simp [Transport.carry, pullInboxMsg, readInbox,
                            PullCalls.readReply, code, eq_comm]

end Downstream

end TinyChat
