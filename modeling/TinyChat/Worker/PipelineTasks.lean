import TinyChat.Worker.Pipeline

/-!
# What a task does before it lets its message go

A record of the stream is acknowledged, a message of a queue is settled and a
call is answered only after effects that cover all that is owed for it.
-/

namespace TinyChat

namespace Worker

open Transition

/-- The duties that a step discharges or hands over. -/
def Work.covers : Work → List Duty
  | .worker (.sessionWritten request) => [.session request]
  | .worker (.readModelDelivered event) => eventDuties event
  | .worker (.readModelQueued event) => eventDuties event
  | .worker (.dlqAccepted entry) => promises (.deadLetter entry)
  | .worker .acked => []
  | .worker (.handledNewItem _ _ _) => []
  | .downstream (.inboxWritten request) => [.inbox request]
  | .downstream (.pushed addressId message) => [.notify addressId message]
  | .downstream (.offline addressId message) => [.notify addressId message]
  | .downstream (.pushQueued addressId message) =>
      [.notify addressId message]
  | .replied _ => []
  | .ack => []

/-- What is owed for a job; nothing for a record that is ignored. -/
def Job.owed : Job → List Duty
  | .record message false => messageDuties message
  | .record _ true => []
  | .parcel held => promises held
  | .call event => eventDuties event

/-- The duties that a step relies on: whoever has lent the message does not
see to them any more. -/
def Work.releases (job : Job) : Work → List Duty
  | .worker .acked => job.owed
  | .replied event => eventDuties event
  | .ack => job.owed
  | _ => []

/-- All that a step relies on was covered before. -/
def Covered (job : Job) (before : List Work) (work : Work) : Prop :=
  ∀ duty ∈ work.releases job, ∃ earlier ∈ before, duty ∈ earlier.covers

/-- A task covers what it owes before it lets its message go. -/
def Disciplined (job : Job) (works : List Work) : Prop :=
  EachEvent (Covered job) [] works

variable {message : RStreamMsgData}

/-! ## The outbox worker -/

namespace Surroundings

variable {around : Surroundings}

theorem releasesKept_of_taken (taken : around.FallbacksTaken message) :
    ReleasesKept around message (around.onMessage message) := by
  cases frozen : around.frozen with
  | true =>
      apply releasesKept_of_unacked
      simp [onMessage, frozen]
  | false =>
      have filtered := taken frozen
      cases status : around.filterOrNot message.data.senderId
          message.deliveryId message.messageId with
      | none =>
          apply releasesKept_of_unacked
          simp [onMessage, frozen, status]
      | some state =>
          rw [status] at filtered
          cases state with
          | newItem => exact (onMessage_newItem frozen status).mpr filtered
          | newVersion =>
              apply releasesKept_of_unacked
              simp [onMessage, frozen, status]
          | canIgnore =>
              have ignored : around.Ignored message := status
              simp [onMessage, frozen, status, ReleasesKept, ignored]
          | retryRequired =>
              have unacked :
                  .acked ∉ around.fallback message .all false := by
                simp [mem_fallback]
              simp only [onMessage, frozen, status, Bool.false_eq_true,
                if_false]
              apply (releasesKept_release unacked).mpr
              right
              have entry : Effect.dlqAccepted
                  { action := .all, data := message } ∈
                    around.fallback message .all false :=
                mem_fallback.mpr ⟨rfl, filtered, rfl⟩
              exact ⟨.inr (.inr entry), .inr (.inr (.inr entry))⟩

end Surroundings

theorem SessionKept.covered {effects : List Effect}
    (kept : SessionKept message effects) :
    ∃ effect ∈ effects,
      .session (sessionRequest message) ∈ (Work.worker effect).covers := by
  rcases kept with member | member | member
  · exact ⟨_, member, List.mem_singleton_self _⟩
  · exact ⟨_, member, List.mem_singleton_self _⟩
  · exact ⟨_, member, List.mem_cons_self⟩

theorem ReadModelKept.covered {effects : List Effect}
    (kept : ReadModelKept message effects) :
    ∃ effect ∈ effects, ∀ duty ∈ eventDuties (readModelEvent message),
      duty ∈ (Work.worker effect).covers := by
  rcases kept with member | member | member | member
  · exact ⟨_, member, fun _ owed => owed⟩
  · exact ⟨_, member, fun _ owed => owed⟩
  · exact ⟨_, member, fun _ owed => owed⟩
  · exact ⟨_, member, fun _ owed => List.mem_cons_of_mem _ owed⟩

theorem messageDuties_covered {effects : List Effect}
    (session : SessionKept message effects)
    (readModel : ReadModelKept message effects) :
    ∀ duty ∈ messageDuties message, ∃ earlier ∈ effects.map Work.worker,
      duty ∈ earlier.covers := by
  intro duty owed
  rcases List.mem_cons.mp owed with rfl | owed
  · obtain ⟨effect, member, covers⟩ := session.covered
    exact ⟨_, List.mem_map_of_mem member, covers⟩
  · obtain ⟨effect, member, covers⟩ := readModel.covered
    exact ⟨_, List.mem_map_of_mem member, covers duty owed⟩

theorem ofRecord_disciplined (number : Nat) {around : Surroundings}
    (taken : around.FallbacksTaken message) :
    Disciplined (Task.ofRecord number message around).job
      (Task.ofRecord number message around).remaining := by
  have kept := Surroundings.releasesKept_of_taken taken
  refine (eachEvent_map []).mpr (eachEvent_imp ?_ kept)
  intro before effect released duty relied
  cases effect with
  | acked =>
      rcases released rfl with ignored | ⟨session, readModel⟩
      · have ignores : around.ignores message = true :=
          decide_eq_true ignored
        simp [Task.ofRecord, ignores, Work.releases, Job.owed] at relied
      · apply messageDuties_covered session readModel
        cases ignores : around.ignores message with
        | true =>
            simp [Task.ofRecord, ignores, Work.releases, Job.owed] at relied
        | false =>
            simpa [Task.ofRecord, ignores, Work.releases, Job.owed]
              using relied
  | _ => cases relied

/-! ## The queues -/

/-- Effects that release nothing, and then the settlement of the message. -/
theorem disciplined_of_settled {job : Job} {works : List Work}
    {settlement : Downstream.Settlement}
    (silent : ∀ work ∈ works, work.releases job = [])
    (covered : settlement = .acked → ∀ duty ∈ job.owed,
      ∃ earlier ∈ works, duty ∈ earlier.covers) :
    Disciplined job (works ++ settlementWork settlement) := by
  apply (eachEvent_append _ _ _).mpr
  constructor
  · apply eachEvent_of_forall
    intro before work member duty relied
    rw [silent work member] at relied
    cases relied
  · cases settlement with
    | acked => exact ⟨covered rfl, trivial⟩
    | rejected => trivial
    | unsettled => trivial

theorem ofEnd_acked {ended : CallEnd}
    (acked : Downstream.Settlement.ofEnd ended = .acked) :
    ended = .returned true := by
  cases ended with
  | raised => cases acked
  | returned success =>
      cases success with
      | true => rfl
      | false => cases acked

theorem ofBoth_acked {first second : CallEnd}
    (acked : Downstream.Settlement.ofBoth first second = .acked) :
    first = .returned true ∧ second = .returned true := by
  cases first with
  | raised => cases acked
  | returned success =>
      cases success with
      | true => exact ⟨rfl, ofEnd_acked acked⟩
      | false => cases acked

namespace Surroundings

variable {around : Surroundings}

theorem notifyReadModel_kept
    (succeeded : (around.notifyReadModel (readModelEvent message)
      (hashKey message)).1 = .returned true) :
    ReadModelKept message (around.notifyReadModel (readModelEvent message)
      (hashKey message)).2 := by
  rcases notifyReadModel_cases around message with
    ⟨_, ended⟩ | ⟨_, _, ended⟩ | ⟨_, _, effect, ended, kind⟩
  · rw [ended] at succeeded
    cases succeeded
  · rw [ended] at succeeded
    cases succeeded
  · rw [ended]
    rcases kind with rfl | rfl
    · exact .inl (List.mem_singleton_self _)
    · exact .inr (.inl (List.mem_singleton_self _))

theorem writeToSession_kept
    (succeeded : (around.writeToSession (sessionRequest message)
      (hashKey message)).1 = .returned true) :
    SessionKept message (around.writeToSession (sessionRequest message)
      (hashKey message)).2 := by
  rcases writeToSession_cases around message with
    ⟨_, ended⟩ | ⟨_, _, ended⟩ | ⟨_, _, ended⟩
  · rw [ended] at succeeded
    cases succeeded
  · rw [ended] at succeeded
    cases succeeded
  · rw [ended]
    exact .inl (List.mem_singleton_self _)

theorem notifyReadModel_unacked (around : Surroundings)
    (message : RStreamMsgData) :
    .acked ∉ (around.notifyReadModel (readModelEvent message)
      (hashKey message)).2 := by
  rcases notifyReadModel_cases around message with
    ⟨_, ended⟩ | ⟨_, _, ended⟩ | ⟨_, _, effect, ended, kind⟩
  · simp [ended]
  · simp [ended]
  · rcases kind with rfl | rfl
    · simp [ended]
    · simp [ended]

theorem writeToSession_unacked (around : Surroundings)
    (message : RStreamMsgData) :
    .acked ∉ (around.writeToSession (sessionRequest message)
      (hashKey message)).2 := by
  rcases writeToSession_cases around message with
    ⟨_, ended⟩ | ⟨_, _, ended⟩ | ⟨_, _, ended⟩
  · simp [ended]
  · simp [ended]
  · simp [ended]

theorem eventHandler_unacked (around : Surroundings) (entry : DLQMsgData) :
    .acked ∉ (around.eventHandler entry).1 := by
  have written := writeToSession_unacked around entry.data
  have notified := notifyReadModel_unacked around entry.data
  unfold eventHandler
  cases entry.action with
  | inboxOnly => exact notified
  | sessionOnly => exact written
  | all => simpa using ⟨written, notified⟩

/-- The worker of the dead-letter queue acknowledges an entry only after it
has made up for what the entry stands for. -/
theorem eventHandler_covered {entry : DLQMsgData}
    (acked : (around.eventHandler entry).2 = .acked) :
    ∀ duty ∈ promises (.deadLetter entry),
      ∃ earlier ∈ (around.eventHandler entry).1.map Work.worker,
        duty ∈ earlier.covers := by
  obtain ⟨action, message⟩ := entry
  cases action with
  | inboxOnly =>
      have kept := notifyReadModel_kept (ofEnd_acked acked)
      intro duty owed
      obtain ⟨effect, member, covers⟩ := kept.covered
      exact ⟨_, List.mem_map_of_mem member, covers duty owed⟩
  | sessionOnly =>
      have kept := writeToSession_kept (ofEnd_acked acked)
      intro duty owed
      obtain ⟨effect, member, covers⟩ := kept.covered
      rw [List.mem_singleton.mp owed]
      exact ⟨_, List.mem_map_of_mem member, covers⟩
  | all =>
      obtain ⟨notified, written⟩ := ofBoth_acked acked
      exact messageDuties_covered
        (sessionKept_append.mpr (.inl (writeToSession_kept written)))
        (readModelKept_append.mpr (.inr (notifyReadModel_kept notified)))

end Surroundings

theorem ofDeadLetter_disciplined (number : Nat) (entry : DLQMsgData)
    (around : Surroundings) :
    Disciplined (Task.ofDeadLetter number entry around).job
      (Task.ofDeadLetter number entry around).remaining := by
  apply disciplined_of_settled
  · intro work member
    obtain ⟨effect, listed, rfl⟩ := List.mem_map.mp member
    cases effect with
    | acked =>
        exact absurd listed (Surroundings.eventHandler_unacked around entry)
    | _ => rfl
  · exact Surroundings.eventHandler_covered

end Worker

namespace Downstream

namespace Surroundings

open Worker

variable {around : Surroundings} {event : ReadModelEvent}

theorem pushMessage_covered {addressId : Int} {message : ServerMsgData}
    (succeeded : (around.pushMessage addressId message).1 =
      .returned true) :
    ∃ effect ∈ (around.pushMessage addressId message).2,
      .notify addressId message ∈ (Work.downstream effect).covers := by
  unfold pushMessage at succeeded ⊢
  split at succeeded
  · rename_i taken
    rw [if_pos taken]
    exact ⟨_, List.mem_singleton_self _, List.mem_singleton_self _⟩
  · cases succeeded

/-- A successful push reached a gateway, found the user offline, or is in the
queue of the push service. -/
theorem readyToPush_covered {addressId : Int} {message : ServerMsgData}
    (succeeded : (around.readyToPush addressId message).1 =
      .returned true) :
    ∃ effect ∈ (around.readyToPush addressId message).2,
      .notify addressId message ∈ (Work.downstream effect).covers := by
  unfold readyToPush at succeeded ⊢
  cases online : around.userOnlineCheck addressId with
  | none =>
      rw [online] at succeeded
      exact pushMessage_covered succeeded
  | some state =>
      cases state with
      | false => exact ⟨_, List.mem_singleton_self _,
          List.mem_singleton_self _⟩
      | true =>
          simp only [online] at succeeded ⊢
          unfold pushToGateway at succeeded ⊢
          cases found : around.pushServiceGetter (pushKey message) with
          | none =>
              simp only [found] at succeeded ⊢
              exact pushMessage_covered succeeded
          | some pushData =>
              simp only [found] at succeeded ⊢
              cases ended : pushData addressId message with
              | raised =>
                  rw [ended] at succeeded
                  cases succeeded
              | returned success =>
                  cases success with
                  | true => exact ⟨_, List.mem_singleton_self _,
                      List.mem_singleton_self _⟩
                  | false =>
                      simp only [ended] at succeeded ⊢
                      exact pushMessage_covered succeeded

/-- An event is handled when the message is in the inbox and the receiver is
seen to. -/
theorem handleEvent_covered
    (succeeded : (around.handleEvent event).1 = .returned true) :
    ∀ duty ∈ eventDuties event,
      ∃ earlier ∈ (around.handleEvent event).2.map Work.downstream,
        duty ∈ earlier.covers := by
  unfold handleEvent at succeeded ⊢
  unfold handleInbox at succeeded ⊢
  cases found : around.cassMessageServiceGetter with
  | none =>
      rw [found] at succeeded
      cases succeeded
  | some writeToInbox =>
      simp only [found] at succeeded ⊢
      cases ended : writeToInbox (inboxRequest event) with
      | raised =>
          rw [ended] at succeeded
          cases succeeded
      | returned success =>
          cases success with
          | false =>
              rw [ended] at succeeded
              cases succeeded
          | true =>
              simp only [ended] at succeeded ⊢
              intro duty owed
              rcases List.mem_cons.mp owed with rfl | owed
              · exact ⟨_, List.mem_map_of_mem List.mem_cons_self,
                  List.mem_singleton_self _⟩
              · rw [List.mem_singleton.mp owed]
                obtain ⟨effect, member, covers⟩ :=
                  readyToPush_covered succeeded
                exact ⟨_, List.mem_map_of_mem
                  (List.mem_append_right _ member), covers⟩

theorem deliverReadEvent_covered
    (succeeded : (around.deliverReadEvent event).1 = .returned true) :
    ∀ duty ∈ eventDuties event,
      ∃ earlier ∈ (around.deliverReadEvent event).2.map Work.downstream,
        duty ∈ earlier.covers := by
  unfold deliverReadEvent at succeeded ⊢
  split at succeeded
  · rename_i single
    rw [if_pos single]
    exact handleEvent_covered succeeded
  · cases succeeded

end Surroundings

end Downstream

namespace Worker

open Transition

theorem downstream_silent (job : Job) (effects : List Downstream.Effect) :
    ∀ work ∈ effects.map Work.downstream, work.releases job = [] := by
  intro work member
  obtain ⟨effect, _, rfl⟩ := List.mem_map.mp member
  rfl

theorem ofReadEvent_disciplined (number : Nat) (event : ReadModelEvent)
    (around : Downstream.Surroundings) :
    Disciplined (Task.ofReadEvent number event around).job
      (Task.ofReadEvent number event around).remaining := by
  apply disciplined_of_settled (downstream_silent _ _)
  intro acked
  exact Downstream.Surroundings.handleEvent_covered (ofEnd_acked acked)

theorem ofPush_disciplined (number : Nat) (addressId : Int)
    (message : ServerMsgData) (status : Push.PubStatus) :
    Disciplined (Task.ofPush number addressId message status).job
      (Task.ofPush number addressId message status).remaining := by
  apply disciplined_of_settled (downstream_silent _ _)
  intro acked duty owed
  cases List.mem_singleton.mp owed
  cases status with
  | success => exact ⟨_, List.mem_cons_self, List.mem_singleton_self _⟩
  | offline => exact ⟨_, List.mem_cons_self, List.mem_singleton_self _⟩
  | timeout => cases acked
  | failed => cases acked

theorem ofCall_disciplined (number : Nat) (event : ReadModelEvent)
    (around : Downstream.Surroundings) :
    Disciplined (Task.ofCall number event around).job
      (Task.ofCall number event around).remaining := by
  apply (eachEvent_append _ _ _).mpr
  constructor
  · apply eachEvent_of_forall
    intro before work member duty relied
    rw [downstream_silent _ _ work member] at relied
    cases relied
  · cases ended : (around.deliverReadEvent event).1 with
    | raised => trivial
    | returned success =>
        cases success with
        | false => trivial
        | true =>
            exact ⟨Downstream.Surroundings.deliverReadEvent_covered ended,
              trivial⟩

namespace Pipeline

variable {pipeline next : Pipeline} {action : PipelineAction}
  {events : List Empty}

theorem apply_log {task : Task} {work : Work}
    (applied : pipeline.apply task work = some next) :
    next.log = pipeline.log := by
  unfold apply at applied
  split at applied
  case h_2 =>
    split at applied
    · cases applied
      rfl
    · cases applied
  case h_5 =>
    split at applied
    all_goals
      cases applied
      rfl
  case h_12 =>
    split at applied
    all_goals
      cases applied
      rfl
  all_goals
    cases applied
    rfl

/-- Only a record that is published changes the stream. -/
theorem step_log
    (stepped : Pipeline.step pipeline action = some (next, events)) :
    next.log = pipeline.log ∨ ∃ message, action = .publish message := by
  cases action with
  | publish message => exact .inr ⟨message, rfl⟩
  | onMessage index around =>
      simp only [Pipeline.step] at stepped
      split at stepped
      · cases stepped
      · cases stepped
        exact .inl rfl
  | eventHandler index around =>
      simp only [Pipeline.step] at stepped
      split at stepped
      · cases stepped
        exact .inl rfl
      · cases stepped
  | consumeEvent index around =>
      simp only [Pipeline.step] at stepped
      split at stepped
      · cases stepped
        exact .inl rfl
      · cases stepped
  | consumePush index status =>
      simp only [Pipeline.step] at stepped
      split at stepped
      · cases stepped
        exact .inl rfl
      · cases stepped
  | deliverReadEvent index around =>
      simp only [Pipeline.step] at stepped
      split at stepped
      · cases stepped
      · cases stepped
        exact .inl rfl
  | perform index =>
      simp only [Pipeline.step] at stepped
      split at stepped
      · cases stepped
      · split at stepped
        · cases stepped
        · obtain ⟨reached, applied, equality⟩ :=
            Option.map_eq_some_iff.mp stepped
          cases equality
          have kept : reached.log = pipeline.log := apply_log applied
          exact .inl kept
  | loseAck index =>
      simp only [Pipeline.step] at stepped
      split at stepped
      · split at stepped
        · cases stepped
          exact .inl rfl
        · cases stepped
      · cases stepped
  | crash index =>
      cases stepped
      exact .inl rfl

end Pipeline

end Worker

end TinyChat
