import TinyChat.Front.CursorWrites
import TinyChat.Lib.Json
import TinyChat.Storage.SessionRead

/-!
# The history of the sessions

The gateway writes a document for every session into the body of its response,
with nothing between two of them.  The client takes every chunk of the body for
a document and gives its messages to the next friend.
-/

namespace TinyChat

namespace Front

open Storage

def dataKey : List Char := ['d', 'a', 't', 'a']

def messageIdKey : List Char :=
  ['m', 'e', 's', 's', 'a', 'g', 'e', '_', 'i', 'd']

def senderIdKey : List Char :=
  ['s', 'e', 'n', 'd', 'e', 'r', '_', 'i', 'd']

def textKey : List Char := ['t', 'e', 'x', 't']

/-! ## The gateway -/

def messageJson (message : ServerMsgData) : Json :=
  .obj
    [(messageIdKey, .int message.messageId),
      (senderIdKey, .int message.data.senderId),
      (textKey, .str message.data.text.toList)]

def replyMembers (reply : CassSessionReply) : List (List Char × Json) :=
  [(dataKey, .arr (reply.messages.map messageJson))]

/-- The document of a reply. -/
def replyText (reply : CassSessionReply) : List Char :=
  Json.dumps (.obj (replyMembers reply))

/-- `data_generator`, which raises if a document is not in ASCII. -/
def dataGenerator : List CassSessionReply → Option (List (List UInt8))
  | [] => some []
  | reply :: replies =>
      match Ascii.encode (replyText reply) with
      | none => none
      | some document => (dataGenerator replies).map (document :: ·)

/-! ## The client -/

/-- The member that a dictionary has under a key: the last one. -/
def member (key : List Char) : Json → Option Json
  | .obj members =>
      (members.reverse.find? fun entry => entry.1 = key).map Prod.snd
  | _ => none

def readMessage (json : Json) : Option SessionMessage :=
  match member messageIdKey json, member senderIdKey json,
      member textKey json with
  | some (.int messageId), some (.int senderId), some (.str text) =>
      some
        { messageId := messageId
          senderId := senderId
          text := String.ofList text }
  | _, _, _ => none

/-- The messages of a document; another document is refused as a whole. -/
def readData (json : Json) : Option (List SessionMessage) :=
  match member dataKey json with
  | some (.arr items) => items.mapM readMessage
  | _ => none

def loadsChunk (chunk : List UInt8) : Option Json :=
  (Ascii.decode chunk).bind Json.loads

/-- A chunk that is no document, one too many, a document of another shape, or
an exception of `collect_lastest_session`. -/
inductive PullError where
  | valueError
  | indexError
  | shape
  | collect (reports : List ClientReport)

/-- The calls of `collect_lastest_session` with their arguments, and how the
loop ends. -/
structure Pulled where
  client : ChatClient
  assigned : List (Int × List SessionMessage) := []
  raised : Option PullError := none

def Pulled.after (pulled : Pulled) (friendId : Int)
    (data : List SessionMessage) : Pulled :=
  { pulled with assigned := (friendId, data) :: pulled.assigned }

/-- The loop of `pull_sessions`. -/
def ChatClient.pullSessions (friendIds : List Int) :
    ChatClient → Nat → List (List UInt8) → Pulled
  | client, _, [] => { client := client }
  | client, iterSeq, chunk :: chunks =>
      match loadsChunk chunk with
      | none => { client := client, raised := some .valueError }
      | some json =>
          match friendIds[iterSeq]? with
          | none => { client := client, raised := some .indexError }
          | some friendId =>
              match readData json with
              | none => { client := client, raised := some .shape }
              | some data =>
                  match client.collectLastestSession friendId data with
                  | (next, []) =>
                      (next.pullSessions friendIds (iterSeq + 1)
                        chunks).after friendId data
                  | (next, reports) =>
                      { client := next
                        assigned := [(friendId, data)]
                        raised := some (.collect reports) }

/-! ## A document -/

def sessionMessage (message : ServerMsgData) : SessionMessage where
  messageId := message.messageId
  senderId := message.data.senderId
  text := message.data.text

def sessionMessages (reply : CassSessionReply) : List SessionMessage :=
  reply.messages.map sessionMessage

theorem readMessage_messageJson (message : ServerMsgData) :
    readMessage (messageJson message) = some (sessionMessage message) := by
  have text : String.ofList message.data.text.toList = message.data.text :=
    String.ofList_toList
  have read : readMessage (messageJson message) =
      some
        { messageId := message.messageId
          senderId := message.data.senderId
          text := String.ofList message.data.text.toList } := rfl
  rw [read, text]
  rfl

theorem readData_reply (reply : CassSessionReply) :
    readData (.obj (replyMembers reply)) =
      some (sessionMessages reply) := by
  have read : ∀ messages : List ServerMsgData,
      (messages.map messageJson).mapM readMessage =
        some (messages.map sessionMessage) := by
    intro messages
    induction messages with
    | nil => rfl
    | cons message messages induction =>
        rw [List.map_cons, List.mapM_cons, readMessage_messageJson,
          induction]
        rfl
  exact read reply.messages

theorem dataGenerator_isSome (replies : List CassSessionReply) :
    ∃ documents, dataGenerator replies = some documents := by
  induction replies with
  | nil => exact ⟨[], rfl⟩
  | cons reply replies induction =>
      obtain ⟨documents, generated⟩ := induction
      obtain ⟨document, encoded⟩ :=
        Ascii.encode_of_isAscii (Json.ascii_dumps (.obj (replyMembers reply)))
      rw [dataGenerator, replyText, encoded, generated]
      exact ⟨_, rfl⟩

theorem documents_of_cons {reply : CassSessionReply}
    {replies : List CassSessionReply} {documents : List (List UInt8)}
    (generated : dataGenerator (reply :: replies) = some documents) :
    ∃ document rest, documents = document :: rest ∧
      Ascii.encode (replyText reply) = some document ∧
      dataGenerator replies = some rest := by
  rw [dataGenerator] at generated
  split at generated
  · cases generated
  · rename_i document encoded
    obtain ⟨rest, others, same⟩ := Option.map_eq_some_iff.mp generated
    exact ⟨document, rest, same.symm, encoded, others⟩

theorem decode_documents {replies : List CassSessionReply}
    {documents : List (List UInt8)}
    (generated : dataGenerator replies = some documents) :
    Ascii.decode documents.flatten =
      some (replies.map replyText).flatten := by
  induction replies generalizing documents with
  | nil =>
      cases generated
      rfl
  | cons reply replies induction =>
      obtain ⟨document, rest, rfl, encoded, others⟩ :=
        documents_of_cons generated
      exact Ascii.decode_append_iff.mpr
        ⟨_, _, Ascii.decode_of_encode encoded, induction others, rfl⟩

theorem visible_replies (replies : List CassSessionReply) :
    ∀ char ∈ (replies.map replyText).flatten.head?,
      Json.isSpace char = false := by
  intro char begins
  cases replies with
  | nil => cases begins
  | cons reply replies =>
      cases begins
      decide

variable {replies : List CassSessionReply} {reply : CassSessionReply}
  {document more : List UInt8} {documents chunks : List (List UInt8)}

theorem loadsChunk_document
    (encoded : Ascii.encode (replyText reply) = some document) :
    loadsChunk document = some (.obj (replyMembers reply)) := by
  rw [loadsChunk, Ascii.decode_of_encode encoded]
  exact Json.loads_dumps _

theorem chunk_eq_document {chunk : List UInt8} {json : Json}
    (encoded : Ascii.encode (replyText reply) = some document)
    (generated : dataGenerator replies = some documents)
    (joined : chunk ++ more = document ++ documents.flatten)
    (loaded : loadsChunk chunk = some json) :
    chunk = document ∧ more = documents.flatten := by
  have decoded : Ascii.decode (chunk ++ more) =
      some (replyText reply ++ (replies.map replyText).flatten) := by
    rw [joined]
    exact Ascii.decode_append_iff.mpr
      ⟨_, _, Ascii.decode_of_encode encoded, decode_documents generated, rfl⟩
  obtain ⟨text, rest, first, second, parts⟩ :=
    Ascii.decode_append_iff.mp decoded
  rw [loadsChunk, first] at loaded
  obtain ⟨same, _⟩ :=
    Json.eq_of_loads loaded parts.symm (visible_replies replies)
  have chunkEq : chunk = document := by
    have again := Ascii.encode_of_decode first
    rw [same] at again
    exact Option.some.inj (again.symm.trans encoded)
  rw [chunkEq] at joined
  exact ⟨chunkEq, List.append_cancel_left joined⟩

end Front

end TinyChat
