import TinyChat.Downstream.PullInbox
import TinyChat.Worker.PipelineDrain
import TinyChat.Worker.PipelineOrigin

/-!
# From the stream to the receiver

What a receiver pulls from the inbox stems from the stream, and every record
that was acknowledged after it was handled can be pulled in the end.
-/

namespace TinyChat

namespace Worker

open Transition Auth Storage Downstream

/-- The effect of a duty on the inboxes. -/
def writeDuty (table : Int → List InboxRow) : Duty → Int → List InboxRow
  | .inbox request => writeInbox table request
  | .session _ | .notify _ _ => table

/-- The inboxes after everything that was done. -/
def inboxTable (done : List Duty) : Int → List InboxRow :=
  done.foldl writeDuty (fun _ => [])

/-- What a receiver gets of a record. -/
def pulledRecord (message : RStreamMsgData) : PulledMessage where
  messageId := message.messageId
  sessionId := message.data.sessionId
  senderId := message.data.senderId
  text := message.data.text

/-- A number of a message stands for one message. -/
def Distinct (log : List (Nat × RStreamMsgData)) : Prop :=
  ∀ first ∈ log, ∀ second ∈ log,
    first.2.messageId = second.2.messageId → first.2 = second.2

/-- A delivery id of a sender stands for one message to a receiver. -/
def Repeats (log : List (Nat × RStreamMsgData)) : Prop :=
  ∀ first ∈ log, ∀ second ∈ log,
    first.2.data.senderId = second.2.data.senderId →
    first.2.data.receiverId = second.2.data.receiverId →
    first.2.deliveryId = second.2.deliveryId →
      first.2.data = second.2.data

theorem inboxTable_append (done : List Duty) (duty : Duty) :
    inboxTable (done ++ [duty]) = writeDuty (inboxTable done) duty := by
  simp [inboxTable]

theorem writeInbox_apply (table : Int → List InboxRow)
    (request : CassMsgRequest) (receiver : Int) :
    writeInbox table request receiver =
      if receiver = request.messageData.receiverId then
        insertInbox (inboxRow request) (table receiver)
      else table receiver := by
  unfold writeInbox
  rw [Function.update_apply]
  split
  · rename_i same
    rw [same]
  · rfl

theorem inboxTable_descending (done : List Duty) (receiver : Int) :
    Descending (inboxTable done receiver) := by
  induction done using List.reverseRecOn with
  | nil => exact List.Pairwise.nil
  | append_singleton done duty induction =>
      rw [inboxTable_append]
      cases duty with
      | inbox request =>
          rw [writeDuty, writeInbox_apply]
          split
          · exact insertInbox_descending induction
          · exact induction
      | session request => exact induction
      | notify addressId message => exact induction

theorem inboxTable_known {done : List Duty} {receiver : Int}
    {row : InboxRow} (member : row ∈ inboxTable done receiver) :
    ∃ request, .inbox request ∈ done ∧
      request.messageData.receiverId = receiver ∧
      inboxRow request = row := by
  induction done using List.reverseRecOn with
  | nil => cases member
  | append_singleton done duty induction =>
      have earlier : row ∈ inboxTable done receiver →
          ∃ request, .inbox request ∈ done ++ [duty] ∧
            request.messageData.receiverId = receiver ∧
            inboxRow request = row := by
        intro old
        obtain ⟨request, listed, rest⟩ := induction old
        exact ⟨request, List.mem_append_left _ listed, rest⟩
      rw [inboxTable_append] at member
      cases duty with
      | inbox request =>
          rw [writeDuty, writeInbox_apply] at member
          split at member
          · rename_i same
            rcases mem_of_mem_insertInbox member with new | old
            · exact ⟨request,
                List.mem_append_right _ (List.mem_singleton_self _),
                same.symm, new.symm⟩
            · exact earlier old
          · exact earlier member
      | session request => exact earlier member
      | notify addressId message => exact earlier member

theorem inboxTable_kept {done : List Duty} {request : CassMsgRequest}
    (member : .inbox request ∈ done) :
    ∃ row ∈ inboxTable done request.messageData.receiverId,
      row.messageId = request.messageId := by
  induction done using List.reverseRecOn with
  | nil => cases member
  | append_singleton done duty induction =>
      rw [inboxTable_append]
      rcases List.mem_append.mp member with old | new
      · obtain ⟨row, listed, same⟩ := induction old
        cases duty with
        | inbox other =>
            rw [writeDuty, writeInbox_apply]
            split
            · by_cases replaced : row.messageId = other.messageId
              · exact ⟨inboxRow other, mem_insertInbox_self _ _,
                  replaced.symm.trans same⟩
              · exact ⟨row, mem_insertInbox_of_mem listed replaced, same⟩
            · exact ⟨row, listed, same⟩
        | session other => exact ⟨row, listed, same⟩
        | notify addressId message => exact ⟨row, listed, same⟩
      · rw [← List.mem_singleton.mp new, writeDuty, writeInbox_apply,
          if_pos rfl]
        exact ⟨inboxRow request, mem_insertInbox_self _ _, rfl⟩

theorem Stems.row {pipeline : Pipeline} (stems : Stems pipeline)
    {receiver : Int} {row : InboxRow}
    (member : row ∈ inboxTable pipeline.backlog.done receiver) :
    ∃ entry ∈ pipeline.log, entry.2.data.receiverId = receiver ∧
      inboxRow (inboxRequest (readModelEvent entry.2)) = row := by
  obtain ⟨request, done, rfl, rfl⟩ := inboxTable_known member
  obtain ⟨entry, listed, owed⟩ := stems.done _ done
  have same : request = inboxRequest (readModelEvent entry.2) := by
    simpa [messageDuties, eventDuties] using owed
  rw [same]
  exact ⟨entry, listed, rfl, rfl⟩

theorem selectInbox_descending (done : List Duty) (receiver last : Int) :
    Descending (selectInbox (inboxTable done) receiver last) :=
  (inboxTable_descending done receiver).sublist List.filter_sublist

theorem Stems.pulled {pipeline : Pipeline} (stems : Stems pipeline)
    {calls : PullCalls} {uid last : Int} {messages : List PulledMessage}
    (pulled : calls.response (inboxTable pipeline.backlog.done) uid
      (.number last) = .data messages) :
    ∀ message ∈ messages, last < message.messageId ∧
      ∃ entry ∈ pipeline.log, entry.2.data.receiverId = uid ∧
        message = pulledRecord entry.2 := by
  obtain ⟨_, _, number, rfl⟩ := response_data_iff.mp pulled
  cases number
  intro message member
  obtain ⟨sent, listed, rfl⟩ := List.mem_map.mp member
  obtain ⟨row, selected, rfl⟩ :=
    List.mem_map.mp ((readInbox_sublist _).subset listed)
  obtain ⟨present, behind⟩ := List.mem_filter.mp selected
  obtain ⟨entry, known, receiver, rfl⟩ := stems.row present
  exact ⟨of_decide_eq_true behind, entry, known, receiver, rfl⟩

/-- What was written can be pulled, or a message of the same sender with the
same delivery id, which is a copy if the sender does not use such an id for
two messages. -/
theorem Stems.pullable {pipeline : Pipeline} (stems : Stems pipeline)
    (distinct : Distinct pipeline.log) {record : RStreamMsgData}
    (written : .inbox (inboxRequest (readModelEvent record)) ∈
      pipeline.backlog.done) {last : Int} (behind : last < record.messageId)
    {calls : PullCalls} (reaching : calls.Reaching) :
    ∃ messages, calls.response (inboxTable pipeline.backlog.done)
        record.data.receiverId (.number last) = .data messages ∧
      ∃ other ∈ pipeline.log,
        other.2.data.senderId = record.data.senderId ∧
        other.2.data.receiverId = record.data.receiverId ∧
        other.2.deliveryId = record.deliveryId ∧
        (Repeats pipeline.log → other.2.data = record.data) ∧
        pulledRecord other.2 ∈ messages := by
  obtain ⟨row, listed, number⟩ := inboxTable_kept written
  obtain ⟨source, known, _, rfl⟩ := stems.row listed
  obtain ⟨origin, began, owed⟩ := stems.done _ written
  have request : inboxRequest (readModelEvent record) =
      inboxRequest (readModelEvent origin.2) := by
    simpa [messageDuties, eventDuties] using owed
  have same : inboxRequest (readModelEvent source.2) =
      inboxRequest (readModelEvent record) := by
    rw [request, distinct source known origin began
      (number.trans (congrArg CassMsgRequest.messageId request))]
  have selected : inboxRow (inboxRequest (readModelEvent source.2)) ∈
      selectInbox (inboxTable pipeline.backlog.done) record.data.receiverId
        last := by
    apply List.mem_filter.mpr
    refine ⟨listed, decide_eq_true ?_⟩
    rw [same]
    exact behind
  obtain ⟨kept, present, sender, sequence, returned⟩ :=
    Storage.readInbox_represents selected
  obtain ⟨other, logged, receiver, rfl⟩ :=
    stems.row (List.mem_filter.mp present).1
  rw [same] at sender sequence
  have data : record.data = origin.2.data :=
    congrArg CassMsgRequest.messageData request
  have delivery : record.deliveryId = origin.2.deliveryId :=
    congrArg CassMsgRequest.deliveryId request
  refine ⟨_, response_data_iff.mpr ⟨reaching, last, rfl, rfl⟩, other, logged,
    sender, receiver, sequence, ?_, List.mem_map.mpr ⟨_, returned, rfl⟩⟩
  intro repeats
  rw [data]
  exact repeats other logged origin began
    (sender.trans (congrArg MsgData.senderId data))
    (receiver.trans (congrArg MsgData.receiverId data))
    (sequence.trans delivery)

/-- Whatever a user pulls, in whatever state, stems from records of the
stream for this user behind the last message, in descending order. -/
theorem pulled_from_log {pipeline : Pipeline} {trace : List Empty}
    (run : AnyRun Pipeline.step {} trace pipeline) {calls : PullCalls}
    {uid last : Int} {messages : List PulledMessage}
    (pulled : calls.response (inboxTable pipeline.backlog.done) uid
      (.number last) = .data messages) :
    messages.Pairwise
        (fun first second => second.messageId < first.messageId) ∧
      ∀ message ∈ messages, last < message.messageId ∧
        ∃ entry ∈ pipeline.log, entry.2.data.receiverId = uid ∧
          message = pulledRecord entry.2 := by
  refine ⟨?_, (run_stems run).pulled pulled⟩
  obtain ⟨_, _, number, rfl⟩ := response_data_iff.mp pulled
  cases number
  have sorted : ((selectInbox (inboxTable pipeline.backlog.done) uid
      last).map InboxRow.toMessage).Pairwise
        (fun first second => second.messageId < first.messageId) :=
    List.pairwise_map.mpr
      (selectInbox_descending pipeline.backlog.done uid last)
  exact List.pairwise_map.mpr (sorted.sublist (readInbox_sublist _))

/-- Every call of a request to pull succeeds. -/
def answeredCalls : PullCalls where
  route := some .answered
  storage := some .answered
  queried := true

theorem pulled_from_log_sample :
    ∃ trace pipeline, AnyRun Pipeline.step {} trace pipeline ∧
      answeredCalls.response (inboxTable pipeline.backlog.done) 2
          (.number 0) = .data [pulledRecord Pipeline.sampleMessage] ∧
      ∃ entry ∈ pipeline.log, entry.2.data.receiverId = 2 ∧
        pulledRecord Pipeline.sampleMessage = pulledRecord entry.2 := by
  have ran : ∃ trace pipeline, AnyRun Pipeline.step {} trace pipeline ∧
      answeredCalls.response (inboxTable pipeline.backlog.done) 2
        (.number 0) = .data [pulledRecord Pipeline.sampleMessage] := by
    apply Run.exists_state_of_exec (Pipeline.sampleActions ++
      [.eventHandler 0 available, .deliverReadEvent 0 availableDownstream,
        .perform 2])
    decide +kernel
  obtain ⟨trace, pipeline, run, pulled⟩ := ran
  refine ⟨trace, pipeline, run, pulled, ?_⟩
  exact ((pulled_from_log run pulled).2 _ (List.mem_singleton_self _)).2

/-- If the numbers of messages are distinct, then from every reachable state
the consumers of the queues lead to one where each record that was
acknowledged after it was handled can be pulled by its receiver, or a message
of the same sender with the same delivery id. -/
theorem released_pulled {pipeline : Pipeline} {trace : List Empty}
    (run : Run Pipeline.step Pipeline.Sound {} trace pipeline)
    (distinct : Distinct pipeline.log) :
    ∃ later final,
      Run Pipeline.step Pipeline.ConsumersOnly pipeline later final ∧
      ∀ entry ∈ pipeline.released, ∀ last < entry.2.messageId,
        ∀ calls : PullCalls, calls.Reaching → ∃ messages,
          calls.response (inboxTable final.backlog.done)
              entry.2.data.receiverId (.number last) = .data messages ∧
            ∃ other ∈ pipeline.log,
              other.2.data.senderId = entry.2.data.senderId ∧
              other.2.data.receiverId = entry.2.data.receiverId ∧
              other.2.deliveryId = entry.2.deliveryId ∧
              (Repeats pipeline.log → other.2.data = entry.2.data) ∧
              pulledRecord other.2 ∈ messages := by
  obtain ⟨final, leads, drained⟩ := pipeline.leads_drained
  obtain ⟨_, reached⟩ := leads.after run
  obtain ⟨log, released, later, rest⟩ := leads
  have stems := run_stems reached.any
  rw [← log] at distinct ⊢
  refine ⟨later, final, rest, ?_⟩
  intro entry member last behind calls reaching
  rw [← released] at member
  have written : .inbox (inboxRequest (readModelEvent entry.2)) ∈
      final.backlog.done := by
    apply ((run_custody reached).released entry member _ ?_).done drained
    exact List.mem_cons_of_mem _ List.mem_cons_self
  exact stems.pullable distinct written behind reaching

theorem released_pulled_sample :
    ∃ trace pipeline, Run Pipeline.step Pipeline.Sound {} trace pipeline ∧
      answeredCalls.response (inboxTable pipeline.backlog.done) 2
          (.number 0) = .data [] ∧
      ∃ later final,
        Run Pipeline.step Pipeline.ConsumersOnly pipeline later final ∧
        ∃ messages,
          answeredCalls.response (inboxTable final.backlog.done) 2
              (.number 0) = .data messages ∧
            pulledRecord Pipeline.sampleMessage ∈ messages := by
  have ran : ∃ trace pipeline,
      Run Pipeline.step Pipeline.Sound {} trace pipeline ∧
        (pipeline.log = [(0, Pipeline.sampleMessage)] ∧
          pipeline.released = [(0, Pipeline.sampleMessage)] ∧
          answeredCalls.response (inboxTable pipeline.backlog.done) 2
            (.number 0) = .data []) := by
    apply Run.exists_state_of_exec Pipeline.sampleActions
    decide +kernel
  obtain ⟨trace, pipeline, run, log, released, pulled⟩ := ran
  have distinct : Distinct pipeline.log := by
    intro first left second right _
    rw [log] at left right
    rw [List.mem_singleton.mp left, List.mem_singleton.mp right]
  obtain ⟨later, final, rest, recovered⟩ := released_pulled run distinct
  refine ⟨trace, pipeline, run, pulled, later, final, rest, ?_⟩
  obtain ⟨messages, answered, other, known, _, _, _, _, listed⟩ :=
    recovered (0, Pipeline.sampleMessage)
      (released ▸ List.mem_singleton_self _) 0 (by decide) answeredCalls
      (by decide)
  refine ⟨messages, answered, ?_⟩
  rw [log] at known
  rw [List.mem_singleton.mp known] at listed
  exact listed

end Worker

end TinyChat
