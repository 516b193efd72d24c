import TinyChat.Worker.PipelineTasks

/-!
# Nothing is stored that was not in the stream

Whatever is written to a session or to an inbox, pushed or held by a queue
stems from a record of the stream.
-/

namespace TinyChat

namespace Worker

open Transition

/-- The work sees to no other duties. -/
def Bounded (duties : List Duty) (works : List Work) : Prop :=
  ∀ work ∈ works, ∀ duty ∈ work.covers, duty ∈ duties

theorem bounded_append {duties : List Duty} {first second : List Work} :
    Bounded duties (first ++ second) ↔
      Bounded duties first ∧ Bounded duties second := by
  constructor
  · intro bounded
    constructor
    · intro work member
      exact bounded work (List.mem_append_left _ member)
    · intro work member
      exact bounded work (List.mem_append_right _ member)
  · rintro ⟨left, right⟩ work member
    rcases List.mem_append.mp member with member | member
    · exact left work member
    · exact right work member

theorem bounded_nil (duties : List Duty) : Bounded duties [] := by
  intro work member
  cases member

theorem bounded_singleton {duties : List Duty} {work : Work}
    (covers : ∀ duty ∈ work.covers, duty ∈ duties) :
    Bounded duties [work] := by
  intro other member
  rw [List.mem_singleton.mp member]
  exact covers

theorem Bounded.mono {duties more : List Duty} {works : List Work}
    (bounded : Bounded duties works)
    (included : ∀ duty ∈ duties, duty ∈ more) : Bounded more works := by
  intro work member duty covered
  exact included duty (bounded work member duty covered)

theorem bounded_settlement (duties : List Duty)
    (settlement : Downstream.Settlement) :
    Bounded duties (settlementWork settlement) := by
  cases settlement with
  | acked =>
      exact bounded_singleton
        (fun _ covered => absurd covered List.not_mem_nil)
  | rejected => exact bounded_nil duties
  | unsettled => exact bounded_nil duties

theorem eventDuties_subset (message : RStreamMsgData) :
    ∀ duty ∈ eventDuties (readModelEvent message),
      duty ∈ messageDuties message :=
  fun _ owed => List.mem_cons_of_mem _ owed

theorem sessionDuty_subset (message : RStreamMsgData) :
    ∀ duty ∈ [Duty.session (sessionRequest message)],
      duty ∈ messageDuties message := by
  intro duty owed
  rw [List.mem_singleton.mp owed]
  exact List.mem_cons_self

theorem promises_subset (action : DLQMsgAction) (message : RStreamMsgData) :
    ∀ duty ∈ promises (.deadLetter ⟨action, message⟩),
      duty ∈ messageDuties message := by
  cases action with
  | all => exact fun _ owed => owed
  | sessionOnly => exact sessionDuty_subset message
  | inboxOnly => exact eventDuties_subset message

theorem eventDuties_promised {entry : DLQMsgData}
    (different : entry.action ≠ .sessionOnly) :
    ∀ duty ∈ eventDuties (readModelEvent entry.data),
      duty ∈ promises (.deadLetter entry) := by
  obtain ⟨action, message⟩ := entry
  cases action with
  | all => exact eventDuties_subset message
  | sessionOnly => exact absurd rfl different
  | inboxOnly => exact fun _ owed => owed

namespace Surroundings

theorem notifyReadModel_bounded (around : Surroundings)
    (message : RStreamMsgData) :
    Bounded (eventDuties (readModelEvent message))
      ((around.notifyReadModel (readModelEvent message)
        (hashKey message)).2.map .worker) := by
  rcases notifyReadModel_cases around message with
    ⟨_, ended⟩ | ⟨_, _, ended⟩ | ⟨_, _, effect, ended, kind⟩
  · rw [ended]
    exact bounded_nil _
  · rw [ended]
    exact bounded_nil _
  · rw [ended]
    rcases kind with rfl | rfl
    · exact bounded_singleton (fun _ covered => covered)
    · exact bounded_singleton (fun _ covered => covered)

theorem writeToSession_bounded (around : Surroundings)
    (message : RStreamMsgData) :
    Bounded [.session (sessionRequest message)]
      ((around.writeToSession (sessionRequest message)
        (hashKey message)).2.map .worker) := by
  rcases writeToSession_cases around message with
    ⟨_, ended⟩ | ⟨_, _, ended⟩ | ⟨_, _, ended⟩
  · rw [ended]
    exact bounded_nil _
  · rw [ended]
    exact bounded_nil _
  · rw [ended]
    exact bounded_singleton (fun _ covered => covered)

theorem fallback_bounded (around : Surroundings) (message : RStreamMsgData)
    (action : DLQMsgAction) (success : Bool) :
    Bounded (messageDuties message)
      ((around.fallback message action success).map .worker) := by
  intro work member
  obtain ⟨effect, listed, rfl⟩ := List.mem_map.mp member
  obtain ⟨_, _, rfl⟩ := mem_fallback.mp listed
  exact promises_subset action message

theorem release_bounded (message : RStreamMsgData) :
    Bounded (messageDuties message)
      ((release message).map Work.worker) := by
  intro work member duty covered
  obtain ⟨effect, listed, rfl⟩ := List.mem_map.mp member
  rcases List.mem_cons.mp listed with rfl | listed
  · cases covered
  · rw [List.mem_singleton.mp listed] at covered
    cases covered

theorem onMessage_bounded (around : Surroundings)
    (message : RStreamMsgData) :
    Bounded (messageDuties message)
      ((around.onMessage message).map .worker) := by
  have written := (writeToSession_bounded around message).mono
    (sessionDuty_subset message)
  have notified := (notifyReadModel_bounded around message).mono
    (eventDuties_subset message)
  unfold onMessage
  split
  · exact bounded_nil _
  · split
    · simp only
      split
      · simp only [List.map_append, bounded_append]
        exact ⟨written, notified⟩
      · simp only [List.map_append, bounded_append]
        exact ⟨⟨written, notified⟩, fallback_bounded _ _ _ _⟩
      · simp only [List.map_append, bounded_append]
        exact ⟨⟨⟨⟨written, notified⟩, fallback_bounded _ _ _ _⟩,
          fallback_bounded _ _ _ _⟩, release_bounded message⟩
    · exact bounded_singleton (fun _ covered => absurd covered List.not_mem_nil)
    · simp only [List.map_append, bounded_append]
      exact ⟨fallback_bounded _ _ _ _, release_bounded message⟩
    · exact bounded_nil _
    · exact bounded_nil _

theorem eventHandler_bounded (around : Surroundings) (entry : DLQMsgData) :
    Bounded (promises (.deadLetter entry))
      ((around.eventHandler entry).1.map .worker) := by
  obtain ⟨action, message⟩ := entry
  have written := writeToSession_bounded around message
  have notified := notifyReadModel_bounded around message
  cases action with
  | inboxOnly => exact notified
  | sessionOnly => exact written
  | all =>
      simp only [eventHandler, List.map_append, bounded_append]
      exact ⟨written.mono (sessionDuty_subset message),
        notified.mono (eventDuties_subset message)⟩

end Surroundings

end Worker

namespace Downstream

namespace Surroundings

open Worker

variable (around : Surroundings)

theorem pushMessage_bounded (addressId : Int) (message : ServerMsgData) :
    Bounded [.notify addressId message]
      ((around.pushMessage addressId message).2.map .downstream) := by
  unfold pushMessage
  split
  · exact bounded_singleton (fun _ covered => covered)
  · exact bounded_nil _

theorem readyToPush_bounded (addressId : Int) (message : ServerMsgData) :
    Bounded [.notify addressId message]
      ((around.readyToPush addressId message).2.map .downstream) := by
  have queued := pushMessage_bounded around addressId message
  unfold readyToPush
  split
  · unfold pushToGateway
    cases around.pushServiceGetter (pushKey message) with
    | none => exact queued
    | some pushData =>
        cases ended : pushData addressId message with
        | raised =>
            simp only [ended]
            exact bounded_nil _
        | returned success =>
            cases success with
            | true =>
                simp only [ended]
                exact bounded_singleton (fun _ covered => covered)
            | false =>
                simp only [ended]
                exact queued
  · exact bounded_singleton (fun _ covered => covered)
  · exact queued

theorem handleEvent_bounded (event : ReadModelEvent) :
    Bounded (eventDuties event)
      ((around.handleEvent event).2.map .downstream) := by
  have pushed := (readyToPush_bounded around
    event.message.data.receiverId event.message).mono
      (fun _ owed => List.mem_cons_of_mem _ owed :
        ∀ duty ∈ [Duty.notify event.message.data.receiverId event.message],
          duty ∈ eventDuties event)
  unfold handleEvent handleInbox
  cases around.cassMessageServiceGetter with
  | none => exact bounded_nil _
  | some writeToInbox =>
      cases ended : writeToInbox (inboxRequest event) with
      | raised =>
          simp only [ended]
          exact bounded_nil _
      | returned success =>
          cases success with
          | false =>
              simp only [ended]
              exact bounded_nil _
          | true =>
              simp only [ended, List.map_append, bounded_append]
              refine ⟨bounded_singleton ?_, pushed⟩
              intro duty covered
              rw [List.mem_singleton.mp covered]
              exact List.mem_cons_self

theorem deliverReadEvent_bounded (event : ReadModelEvent) :
    Bounded (eventDuties event)
      ((around.deliverReadEvent event).2.map .downstream) := by
  unfold deliverReadEvent
  split
  · exact handleEvent_bounded around event
  · exact bounded_nil _

end Surroundings

end Downstream

namespace Worker

open Transition

theorem consumePush_bounded (addressId : Int) (message : ServerMsgData)
    (status : Push.PubStatus) :
    Bounded [.notify addressId message]
      ((Downstream.consumePush addressId message status).1.map
        .downstream) := by
  cases status with
  | success => exact bounded_singleton (fun _ covered => covered)
  | offline => exact bounded_singleton (fun _ covered => covered)
  | timeout => exact bounded_nil _
  | failed => exact bounded_nil _

theorem replyWork_bounded (duties : List Duty) (event : ReadModelEvent)
    (ended : CallEnd) : Bounded duties (replyWork event ended) := by
  cases ended with
  | raised => exact bounded_nil _
  | returned success =>
      cases success with
      | true =>
          exact bounded_singleton
            (fun _ covered => absurd covered List.not_mem_nil)
      | false => exact bounded_nil _

/-- A duty for a record of the stream. -/
def FromLog (log : List (Nat × RStreamMsgData)) (duty : Duty) : Prop :=
  ∃ entry ∈ log, duty ∈ messageDuties entry.2

theorem FromLog.grow {log : List (Nat × RStreamMsgData)} {duty : Duty}
    (known : FromLog log duty) (entry : Nat × RStreamMsgData) :
    FromLog (log ++ [entry]) duty := by
  obtain ⟨earlier, member, owed⟩ := known
  exact ⟨earlier, List.mem_append_left _ member, owed⟩

/-- Everything stems from a record. -/
structure Stems (pipeline : Pipeline) : Prop where
  done : ∀ duty ∈ pipeline.backlog.done, FromLog pipeline.log duty
  messages : ∀ held ∈ pipeline.backlog.messages,
    ∀ duty ∈ promises held.2, FromLog pipeline.log duty
  calls : ∀ call ∈ pipeline.calls, ∀ duty ∈ eventDuties call.2,
    FromLog pipeline.log duty
  tasks : ∀ task ∈ pipeline.tasks, ∀ work ∈ task.remaining,
    ∀ duty ∈ work.covers, FromLog pipeline.log duty

namespace Stems

variable {pipeline next : Pipeline} {action : PipelineAction}
  {events : List Empty}

theorem empty : Stems {} where
  done := fun _ member => absurd member List.not_mem_nil
  messages := fun _ member => absurd member List.not_mem_nil
  calls := fun _ member => absurd member List.not_mem_nil
  tasks := fun _ member => absurd member List.not_mem_nil

/-- A task is started whose work and whose calls stay within duties for
records. -/
theorem start (stems : Stems pipeline) {task : Task} {duties : List Duty}
    {calls : List ReadModelEvent}
    (known : ∀ duty ∈ duties, FromLog pipeline.log duty)
    (bounded : Bounded duties task.remaining)
    (called : ∀ event ∈ calls, ∀ duty ∈ eventDuties event, duty ∈ duties) :
    Stems (pipeline.start task calls) where
  done := stems.done
  messages := stems.messages
  calls := by
    intro call member duty owed
    rcases List.mem_append.mp member with earlier | new
    · exact stems.calls call earlier duty owed
    · obtain ⟨event, listed, rfl⟩ := List.mem_map.mp new
      exact known duty (called event listed duty owed)
  tasks := by
    intro other member
    rcases List.mem_append.mp member with earlier | new
    · exact stems.tasks other earlier
    · rw [List.mem_singleton.mp new]
      intro work listed duty covered
      exact known duty (bounded work listed duty covered)

theorem discharge (stems : Stems pipeline) {duties : List Duty}
    (known : ∀ duty ∈ duties, FromLog pipeline.log duty) :
    Stems { pipeline with
      backlog := pipeline.backlog.discharge duties } where
  done := by
    intro duty member
    rcases List.mem_append.mp member with earlier | new
    · exact stems.done duty earlier
    · exact known duty new
  messages := stems.messages
  calls := stems.calls
  tasks := stems.tasks

theorem publish (stems : Stems pipeline) {parcel : Parcel}
    (known : ∀ duty ∈ promises parcel, FromLog pipeline.log duty) :
    Stems { pipeline with
      backlog := pipeline.backlog.publish parcel } where
  done := stems.done
  messages := by
    intro held member
    rcases List.mem_append.mp member with earlier | new
    · exact stems.messages held earlier
    · rw [List.mem_singleton.mp new]
      exact known
  calls := stems.calls
  tasks := stems.tasks

theorem apply (stems : Stems pipeline) {task : Task} {work : Work}
    (known : ∀ duty ∈ work.covers, FromLog pipeline.log duty)
    (applied : pipeline.apply task work = some next) :
    Stems next := by
  cases work with
  | worker effect =>
      cases effect with
      | sessionWritten request =>
          cases applied
          exact stems.discharge known
      | readModelDelivered event =>
          simp only [Pipeline.apply] at applied
          split at applied
          · cases applied
            exact stems
          · cases applied
      | readModelQueued event =>
          cases applied
          exact stems.publish known
      | dlqAccepted entry =>
          cases applied
          exact stems.publish known
      | handledNewItem senderId deliveryId messageId =>
          cases applied
          exact stems
      | acked =>
          simp only [Pipeline.apply] at applied
          split at applied
          all_goals
            cases applied
            exact ⟨stems.done, stems.messages, stems.calls, stems.tasks⟩
  | downstream effect =>
      cases effect with
      | inboxWritten request =>
          cases applied
          exact stems.discharge known
      | pushed addressId message =>
          cases applied
          exact stems.discharge known
      | offline addressId message =>
          cases applied
          exact stems.discharge known
      | pushQueued addressId message =>
          cases applied
          exact stems.publish known
  | replied event =>
      cases applied
      exact ⟨stems.done, stems.messages, stems.calls, stems.tasks⟩
  | ack =>
      simp only [Pipeline.apply] at applied
      split at applied
      · cases applied
        refine ⟨stems.done, ?_, stems.calls, stems.tasks⟩
        intro held member
        exact stems.messages held
          (Backlog.mem_messages_settle.mp member).1
      · cases applied
        exact stems
      · cases applied
        exact stems

theorem advance (stems : Stems pipeline) {index : Nat} {task : Task}
    {work : Work} {rest : List Work} (listed : ∀ step ∈ rest,
      ∀ duty ∈ step.covers, FromLog pipeline.log duty) :
    Stems (pipeline.advance index task work rest) where
  done := stems.done
  messages := stems.messages
  calls := stems.calls
  tasks := by
    intro other member
    rcases List.mem_or_eq_of_mem_set member with earlier | rfl
    · exact stems.tasks other earlier
    · exact listed

theorem grow (stems : Stems pipeline) (entry : Nat × RStreamMsgData) :
    Stems { pipeline with
      log := pipeline.log ++ [entry]
      backlog := pipeline.backlog.skip } where
  done := fun duty member => (stems.done duty member).grow entry
  messages := fun held member duty owed =>
    (stems.messages held member duty owed).grow entry
  calls := fun call member duty owed =>
    (stems.calls call member duty owed).grow entry
  tasks := fun task member work listed duty covered =>
    (stems.tasks task member work listed duty covered).grow entry

theorem step (stems : Stems pipeline)
    (stepped : Pipeline.step pipeline action = some (next, events)) :
    Stems next := by
  cases action with
  | publish message =>
      cases stepped
      exact stems.grow _
  | onMessage index around =>
      simp only [Pipeline.step] at stepped
      split at stepped
      · cases stepped
      · rename_i number message found
        cases stepped
        have member := List.mem_of_getElem? found
        apply stems.start
          (fun duty owed => ⟨(number, message), member, owed⟩)
          (Surroundings.onMessage_bounded around message)
        intro event listed
        split at listed
        · rw [List.mem_singleton.mp listed]
          exact eventDuties_subset message
        · cases listed
  | eventHandler index around =>
      simp only [Pipeline.step] at stepped
      split at stepped
      · rename_i number entry found
        cases stepped
        have member := List.mem_of_getElem? found
        have bounded : Bounded (promises (.deadLetter entry))
            (Task.ofDeadLetter number entry around).remaining :=
          bounded_append.mpr
            ⟨Surroundings.eventHandler_bounded around entry,
              bounded_settlement _ _⟩
        apply stems.start (stems.messages _ member) bounded
        intro event listed
        split at listed
        · cases listed
        · rename_i different
          rw [List.mem_singleton.mp listed]
          exact eventDuties_promised different
      · cases stepped
  | consumeEvent index around =>
      simp only [Pipeline.step] at stepped
      split at stepped
      · rename_i number event found
        cases stepped
        have bounded : Bounded (eventDuties event)
            (Task.ofReadEvent number event around).remaining :=
          bounded_append.mpr
            ⟨around.handleEvent_bounded event, bounded_settlement _ _⟩
        exact stems.start (stems.messages _ (List.mem_of_getElem? found))
          bounded (fun _ listed => absurd listed List.not_mem_nil)
      · cases stepped
  | consumePush index status =>
      simp only [Pipeline.step] at stepped
      split at stepped
      · rename_i number addressId message found
        cases stepped
        have bounded : Bounded [.notify addressId message]
            (Task.ofPush number addressId message status).remaining :=
          bounded_append.mpr
            ⟨consumePush_bounded addressId message status,
              bounded_settlement _ _⟩
        exact stems.start (stems.messages _ (List.mem_of_getElem? found))
          bounded (fun _ listed => absurd listed List.not_mem_nil)
      · cases stepped
  | deliverReadEvent index around =>
      simp only [Pipeline.step] at stepped
      split at stepped
      · cases stepped
      · rename_i number event found
        cases stepped
        have bounded : Bounded (eventDuties event)
            (Task.ofCall number event around).remaining :=
          bounded_append.mpr
            ⟨around.deliverReadEvent_bounded event, replyWork_bounded _ _ _⟩
        exact stems.start (stems.calls _ (List.mem_of_getElem? found))
          bounded (fun _ listed => absurd listed List.not_mem_nil)
  | perform index =>
      simp only [Pipeline.step] at stepped
      split at stepped
      · cases stepped
      · rename_i task found
        split at stepped
        · cases stepped
        · rename_i work rest remaining
          obtain ⟨reached, applied, equality⟩ :=
            Option.map_eq_some_iff.mp stepped
          cases equality
          have listed := stems.tasks task (List.mem_of_getElem? found)
          rw [remaining] at listed
          have kept := stems.apply (listed work List.mem_cons_self) applied
          apply kept.advance
          rw [Pipeline.apply_log applied]
          exact fun later member =>
            listed later (List.mem_cons_of_mem _ member)
  | loseAck index =>
      simp only [Pipeline.step] at stepped
      split at stepped
      · rename_i task found
        split at stepped
        · rename_i rest remaining
          cases stepped
          have listed := stems.tasks task (List.mem_of_getElem? found)
          rw [remaining] at listed
          exact stems.advance (fun later member =>
            listed later (List.mem_cons_of_mem _ member))
        · cases stepped
      · cases stepped
  | crash index =>
      cases stepped
      exact ⟨stems.done, stems.messages, stems.calls,
        fun task member => stems.tasks task (List.mem_of_mem_eraseIdx member)⟩

end Stems

theorem run_stems {pipeline : Pipeline} {trace : List Empty}
    (run : AnyRun Pipeline.step {} trace pipeline) : Stems pipeline := by
  refine run.state_invariant .empty ?_
  intro events state next action stems _ stepped
  exact stems.step stepped

/-- Every row of a session or an inbox and every push stems from a record of
the stream, and so does whatever a queue holds. -/
theorem done_from_log {pipeline : Pipeline} {trace : List Empty}
    (run : AnyRun Pipeline.step {} trace pipeline) :
    (∀ duty ∈ pipeline.backlog.done,
      ∃ entry ∈ pipeline.log, duty ∈ messageDuties entry.2) ∧
    ∀ held ∈ pipeline.backlog.messages, ∀ duty ∈ promises held.2,
      ∃ entry ∈ pipeline.log, duty ∈ messageDuties entry.2 := by
  obtain ⟨done, messages, _, _⟩ := run_stems run
  exact ⟨done, messages⟩

theorem done_from_log_sample :
    ∃ trace pipeline, AnyRun Pipeline.step {} trace pipeline ∧
      pipeline.backlog.done =
        [.session (sessionRequest Pipeline.sampleMessage)] ∧
      ∃ entry ∈ pipeline.log,
        .session (sessionRequest Pipeline.sampleMessage) ∈
          messageDuties entry.2 := by
  have ran : ∃ trace pipeline, AnyRun Pipeline.step {} trace pipeline ∧
      pipeline.backlog.done =
        [.session (sessionRequest Pipeline.sampleMessage)] := by
    apply Run.exists_state_of_exec Pipeline.sampleActions
    decide +kernel
  obtain ⟨trace, pipeline, run, done⟩ := ran
  refine ⟨trace, pipeline, run, done, ?_⟩
  apply (done_from_log run).1
  rw [done]
  exact List.mem_singleton_self _

end Worker

end TinyChat
