import TinyChat.Worker.PipelineCustody

/-!
# The queues can always be drained

Once the services are available, the tasks of the consumers settle whatever
the queues hold, so that nothing that was acknowledged stays undone for good.
-/

namespace TinyChat

namespace Worker

open Transition Backlog

/-- All services are available to the worker of the dead-letter queue. -/
def available : Surroundings where
  frozen := false
  filterOrNot := fun _ _ _ => none
  cassMessageServiceGetter := fun _ => some (fun _ => .returned true)
  downstreamServiceGetter := some (fun _ => .returned true)
  sendToReadModel := fun _ _ => false
  sendToDlq := fun _ _ => false

/-- All services are available to the downstream service, and the user is
online. -/
def availableDownstream : Downstream.Surroundings where
  cassMessageServiceGetter := some (fun _ => .returned true)
  redisHlen := fun _ => some 1
  pushServiceGetter := fun _ => some (fun _ _ => .returned true)
  sendToPush := fun _ _ => false

namespace Pipeline

/-- The effects of a task, one after the other. -/
def applyAll (pipeline : Pipeline) (task : Task) :
    List Work → Option Pipeline
  | [] => some pipeline
  | work :: works =>
      (pipeline.apply task work).bind (fun next => next.applyAll task works)

variable {pipeline next : Pipeline} {task : Task}

/-- Only the tasks go on that a consumer has for a message that its queue
holds, and those of the calls that such a task has made. -/
def ConsumersOnly (pipeline : Pipeline) : PipelineAction → Prop
  | .eventHandler _ _ | .consumeEvent _ _ | .consumePush _ _ => True
  | .deliverReadEvent index _ =>
      ∀ call ∈ pipeline.calls[index]?, pipeline.backlog.Holds call.1
  | .perform index =>
      ∀ task ∈ pipeline.tasks[index]?, pipeline.backlog.Holds task.number ∧
        ∀ message ignored, task.job ≠ .record message ignored
  | .publish _ | .onMessage _ _ | .loseAck _ | .crash _ => False

theorem ConsumersOnly.sound {pipeline : Pipeline} {action : PipelineAction}
    (allowed : pipeline.ConsumersOnly action) : pipeline.Sound action := by
  cases action with
  | onMessage index around => exact allowed.elim
  | _ => trivial

/-- The records stay, and the consumers lead from one state to the other. -/
def Leads (pipeline next : Pipeline) : Prop :=
  next.log = pipeline.log ∧ next.released = pipeline.released ∧
    ∃ trace, Run step ConsumersOnly pipeline trace next

theorem Leads.refl (pipeline : Pipeline) : pipeline.Leads pipeline :=
  ⟨rfl, rfl, [], .refl⟩

theorem Leads.trans {first second third : Pipeline}
    (earlier : first.Leads second) (later : second.Leads third) :
    first.Leads third := by
  obtain ⟨log, released, trace, run⟩ := earlier
  obtain ⟨log', released', trace', run'⟩ := later
  exact ⟨log'.trans log, released'.trans released, _, run.trans run'⟩

theorem Leads.of_step {action : PipelineAction} {events : List Empty}
    (allowed : pipeline.ConsumersOnly action)
    (stepped : step pipeline action = some (next, events))
    (log : next.log = pipeline.log)
    (released : next.released = pipeline.released) :
    pipeline.Leads next :=
  ⟨log, released, _, Run.act .refl action allowed stepped⟩

theorem Leads.after {start : Pipeline} {trace : List Empty}
    (leads : pipeline.Leads next)
    (run : Run step Sound start trace pipeline) :
    ∃ trace, Run step Sound start trace next := by
  obtain ⟨_, _, later, rest⟩ := leads
  exact ⟨_, run.trans (rest.mono (fun _ _ allowed => allowed.sound))⟩

/-- An effect neither reads nor writes the tasks. -/
theorem apply_withTasks {work : Work} (tasks : List Task)
    (applied : pipeline.apply task work = some next) :
    ({ pipeline with tasks } : Pipeline).apply task work =
      some { next with tasks } := by
  cases work with
  | worker effect =>
      cases effect with
      | readModelDelivered event =>
          simp only [apply] at applied ⊢
          split at applied
          · rename_i answered
            cases applied
            rw [if_pos answered]
          · cases applied
      | acked =>
          simp only [apply] at applied ⊢
          cases job : task.job with
          | record message ignored =>
              rw [job] at applied
              cases ignored with
              | true =>
                  cases applied
                  rfl
              | false =>
                  cases applied
                  rfl
          | parcel held =>
              rw [job] at applied
              cases applied
              rfl
          | call event =>
              rw [job] at applied
              cases applied
              rfl
      | _ =>
          cases applied
          rfl
  | downstream effect =>
      cases effect with
      | _ =>
          cases applied
          rfl
  | replied event =>
      cases applied
      rfl
  | ack =>
      simp only [apply] at applied ⊢
      cases job : task.job with
      | record message ignored =>
          rw [job] at applied
          cases applied
          rfl
      | parcel held =>
          rw [job] at applied
          cases applied
          rfl
      | call event =>
          rw [job] at applied
          cases applied
          rfl

theorem applyAll_withTasks {works : List Work} (tasks : List Task)
    (applied : pipeline.applyAll task works = some next) :
    ({ pipeline with tasks } : Pipeline).applyAll task works =
      some { next with tasks } := by
  induction works generalizing pipeline with
  | nil =>
      cases applied
      rfl
  | cons work works induction =>
      obtain ⟨between, first, rest⟩ := Option.bind_eq_some_iff.mp applied
      refine Option.bind_eq_some_iff.mpr ⟨_, apply_withTasks tasks first, ?_⟩
      exact induction rest

/-- Only the number and the job of a task matter for its effects. -/
theorem apply_task (pipeline : Pipeline) (task : Task)
    (performed remaining : List Work) (work : Work) :
    pipeline.apply { task with performed, remaining } work =
      pipeline.apply task work := by
  cases work with
  | worker effect =>
      cases effect with
      | _ => rfl
  | downstream effect =>
      cases effect with
      | _ => rfl
  | replied event => rfl
  | ack => rfl

theorem apply_keeps {work : Work}
    (job : ∀ message ignored, task.job ≠ .record message ignored)
    (applied : pipeline.apply task work = some next) :
    next.log = pipeline.log ∧ next.released = pipeline.released ∧
      next.tasks = pipeline.tasks := by
  unfold apply at applied
  split at applied
  case h_2 =>
    split at applied
    · cases applied
      exact ⟨rfl, rfl, rfl⟩
    · cases applied
  case h_5 =>
    split at applied
    · rename_i message record
      exact absurd record (job message true)
    · rename_i message record
      exact absurd record (job message false)
    · cases applied
      exact ⟨rfl, rfl, rfl⟩
    · cases applied
      exact ⟨rfl, rfl, rfl⟩
  case h_12 =>
    split at applied
    · cases applied
      exact ⟨rfl, rfl, rfl⟩
    · cases applied
      exact ⟨rfl, rfl, rfl⟩
    · cases applied
      exact ⟨rfl, rfl, rfl⟩
  all_goals
    cases applied
    exact ⟨rfl, rfl, rfl⟩

/-- Only an acknowledgment settles a message. -/
theorem apply_holds {work : Work} {number : Nat} (open_ : work ≠ .ack)
    (applied : pipeline.apply task work = some next)
    (holds : pipeline.backlog.Holds number) :
    next.backlog.Holds number := by
  unfold apply at applied
  split at applied
  case h_2 =>
    split at applied
    · cases applied
      exact holds
    · cases applied
  case h_3 =>
    cases applied
    exact holds.publish _
  case h_4 =>
    cases applied
    exact holds.publish _
  case h_5 =>
    split at applied
    all_goals
      cases applied
      exact holds
  case h_10 =>
    cases applied
    exact holds.publish _
  case h_12 => exact absurd rfl open_
  all_goals
    cases applied
    exact holds

/-- A task can perform all of its effects, if it acknowledges its message
last. -/
theorem leads_of_applyAll {works performed : List Work} {index : Nat}
    (holds : works = [] ∨ pipeline.backlog.Holds task.number)
    (last : ∀ work ∈ works.dropLast, work ≠ .ack)
    (job : ∀ message ignored, task.job ≠ .record message ignored)
    (found : pipeline.tasks[index]? =
      some { task with performed, remaining := works })
    (applied : pipeline.applyAll task works = some next) :
    ∃ finished, pipeline.Leads
      { next with tasks := pipeline.tasks.set index finished } := by
  induction works generalizing pipeline next performed with
  | nil =>
      cases applied
      refine ⟨{ task with performed, remaining := [] }, ?_⟩
      obtain ⟨bound, same⟩ := List.getElem?_eq_some_iff.mp found
      rw [← same, List.set_getElem_self]
      exact .refl _
  | cons work works induction =>
      obtain ⟨between, first, rest⟩ := Option.bind_eq_some_iff.mp applied
      obtain ⟨log, released, tasks⟩ := apply_keeps job first
      have bound := (List.getElem?_eq_some_iff.mp found).1
      let current : Task :=
        { task with performed, remaining := work :: works }
      let moved := between.advance index current work works
      have held : pipeline.backlog.Holds task.number := by
        rcases holds with empty | held
        · cases empty
        · exact held
      have allowed : pipeline.ConsumersOnly (.perform index) := by
        intro other listed
        rw [found] at listed
        cases listed
        exact ⟨held, job⟩
      have performs : step pipeline (.perform index) =
          some (moved, []) := by
        simp only [step, found]
        rw [apply_task, first]
        rfl
      have moves : pipeline.Leads moved :=
        .of_step allowed performs log released
      have still : works = [] ∨ moved.backlog.Holds task.number := by
        cases works with
        | nil => exact .inl rfl
        | cons second rest =>
            have after : between.backlog.Holds task.number :=
              apply_holds (last work List.mem_cons_self) first held
            exact .inr after
      have lastStill : ∀ other ∈ works.dropLast, other ≠ .ack := by
        intro other member
        apply last
        cases works with
        | nil => cases member
        | cons second rest => exact List.mem_cons_of_mem _ member
      have again : moved.tasks[index]? = some { task with
          performed := performed ++ [work], remaining := works } := by
        change (between.tasks.set index _)[index]? = _
        rw [tasks, List.getElem?_set_self bound]
      have later : moved.applyAll task works =
          some { next with tasks := moved.tasks } :=
        applyAll_withTasks moved.tasks rest
      obtain ⟨finished, leads⟩ := induction still lastStill again later
      refine ⟨finished, moves.trans ?_⟩
      have same : moved.tasks.set index finished =
          pipeline.tasks.set index finished := by
        change (between.tasks.set index _).set index finished = _
        rw [List.set_set, tasks]
      rw [same] at leads
      exact leads

/-- A task of a consumer that acknowledges its message last. -/
structure Consumes (task : Task) : Prop where
  job : ∀ message ignored, task.job ≠ .record message ignored
  last : ∀ work ∈ task.remaining.dropLast, work ≠ .ack

theorem leads_of_start {action : PipelineAction}
    {calls : List ReadModelEvent} {events : List Empty}
    (allowed : pipeline.ConsumersOnly action)
    (stepped : step pipeline action =
      some (pipeline.start task calls, events))
    (fresh : task.performed = [])
    (holds : pipeline.backlog.Holds task.number) (consumes : Consumes task)
    (applied : (pipeline.start task calls).applyAll task task.remaining =
      some next) :
    ∃ finished, pipeline.Leads
      { next with tasks := pipeline.tasks ++ [finished] } := by
  have started : pipeline.Leads (pipeline.start task calls) :=
    .of_step allowed stepped rfl rfl
  have found : (pipeline.start task calls).tasks[pipeline.tasks.length]? =
      some { task with performed := [], remaining := task.remaining } := by
    rw [← fresh]
    exact List.getElem?_concat_length
  have held : (pipeline.start task calls).backlog.Holds task.number := holds
  obtain ⟨finished, leads⟩ := leads_of_applyAll (.inr held) consumes.last
    consumes.job found applied
  have final : (pipeline.start task calls).tasks.set pipeline.tasks.length
      finished = pipeline.tasks ++ [finished] := by
    simp [start]
  rw [final] at leads
  exact ⟨finished, started.trans leads⟩

/-! ## One message -/

/-- With the reply that the worker waits for, an entry of the dead-letter
queue is made up for and settled. -/
theorem deadLetter_applyAll (pipeline : Pipeline) {number : Nat}
    {entry : DLQMsgData}
    (answered : entry.action ≠ .sessionOnly →
      (number, readModelEvent entry.data) ∈ pipeline.replies) :
    ∃ duties, pipeline.applyAll (.ofDeadLetter number entry available)
        (Task.ofDeadLetter number entry available).remaining =
      some { pipeline with
        backlog := (pipeline.backlog.discharge duties).settle number } := by
  obtain ⟨action, message⟩ := entry
  cases action with
  | all =>
      refine ⟨[.session (sessionRequest message)], ?_⟩
      have reply := answered (by simp)
      simp only at reply
      simp [Task.ofDeadLetter, Surroundings.eventHandler, available,
        Surroundings.writeToSession, Surroundings.notifyReadModel,
        Downstream.Settlement.ofBoth, Downstream.Settlement.ofEnd,
        settlementWork, applyAll, apply, reply]
  | sessionOnly =>
      refine ⟨[.session (sessionRequest message)], ?_⟩
      simp [Task.ofDeadLetter, Surroundings.eventHandler, available,
        Surroundings.writeToSession, Downstream.Settlement.ofEnd,
        settlementWork, applyAll, apply]
  | inboxOnly =>
      refine ⟨[], ?_⟩
      have reply := answered (by simp)
      simp only at reply
      simp [Task.ofDeadLetter, Surroundings.eventHandler, available,
        Surroundings.notifyReadModel, Downstream.Settlement.ofEnd,
        settlementWork, applyAll, apply, reply, Backlog.discharge]

theorem readEvent_applyAll (pipeline : Pipeline) (number : Nat)
    (event : ReadModelEvent) :
    ∃ duties, pipeline.applyAll
        (.ofReadEvent number event availableDownstream)
        (Task.ofReadEvent number event availableDownstream).remaining =
      some { pipeline with
        backlog := (pipeline.backlog.discharge duties).settle number } := by
  refine ⟨eventDuties event, ?_⟩
  simp [Task.ofReadEvent, Downstream.Surroundings.consumeEvent,
    Downstream.Surroundings.handleEvent, Downstream.Surroundings.handleInbox,
    Downstream.Surroundings.readyToPush,
    Downstream.Surroundings.userOnlineCheck,
    Downstream.Surroundings.pushToGateway, availableDownstream,
    Downstream.Settlement.ofEnd, settlementWork, applyAll, apply,
    Backlog.discharge, eventDuties]

theorem push_applyAll (pipeline : Pipeline) (number : Nat)
    (addressId : Int) (message : ServerMsgData) :
    ∃ duties, pipeline.applyAll (.ofPush number addressId message .success)
        (Task.ofPush number addressId message .success).remaining =
      some { pipeline with
        backlog := (pipeline.backlog.discharge duties).settle number } := by
  refine ⟨[.notify addressId message], ?_⟩
  simp [Task.ofPush, Downstream.consumePush, settlementWork, applyAll, apply]

theorem call_applyAll (pipeline : Pipeline) (number : Nat)
    (message : RStreamMsgData) :
    ∃ duties, pipeline.applyAll
        (.ofCall number (readModelEvent message) availableDownstream)
        (Task.ofCall number (readModelEvent message)
          availableDownstream).remaining =
      some { pipeline with
        backlog := pipeline.backlog.discharge duties
        replies := pipeline.replies ++
          [(number, readModelEvent message)] } := by
  refine ⟨eventDuties (readModelEvent message), ?_⟩
  simp [Task.ofCall, Downstream.Surroundings.deliverReadEvent,
    readModelEvent, Downstream.Surroundings.handleEvent,
    Downstream.Surroundings.handleInbox,
    Downstream.Surroundings.readyToPush,
    Downstream.Surroundings.userOnlineCheck,
    Downstream.Surroundings.pushToGateway, availableDownstream, replyWork,
    applyAll, apply, Backlog.discharge, eventDuties]

theorem consumes_deadLetter (number : Nat) (entry : DLQMsgData) :
    Consumes (.ofDeadLetter number entry available) where
  job := by
    rintro message ignored ⟨⟩
  last := by
    obtain ⟨action, message⟩ := entry
    cases action with
    | _ =>
        simp [Task.ofDeadLetter, Surroundings.eventHandler, available,
          Surroundings.writeToSession, Surroundings.notifyReadModel,
          Downstream.Settlement.ofBoth, Downstream.Settlement.ofEnd,
          settlementWork]

theorem consumes_readEvent (number : Nat) (event : ReadModelEvent) :
    Consumes (.ofReadEvent number event availableDownstream) where
  job := by
    rintro message ignored ⟨⟩
  last := by
    simp [Task.ofReadEvent, Downstream.Surroundings.consumeEvent,
      Downstream.Surroundings.handleEvent,
      Downstream.Surroundings.handleInbox,
      Downstream.Surroundings.readyToPush,
      Downstream.Surroundings.userOnlineCheck,
      Downstream.Surroundings.pushToGateway, availableDownstream,
      Downstream.Settlement.ofEnd, settlementWork]

theorem consumes_push (number : Nat) (addressId : Int)
    (message : ServerMsgData) :
    Consumes (.ofPush number addressId message .success) where
  job := by
    rintro other ignored ⟨⟩
  last := by
    simp [Task.ofPush, Downstream.consumePush, settlementWork]

theorem consumes_call (number : Nat) (message : RStreamMsgData) :
    Consumes (.ofCall number (readModelEvent message)
      availableDownstream) where
  job := by
    rintro other ignored ⟨⟩
  last := by
    simp [Task.ofCall, Downstream.Surroundings.deliverReadEvent,
      readModelEvent, Downstream.Surroundings.handleEvent,
      Downstream.Surroundings.handleInbox,
      Downstream.Surroundings.readyToPush,
      Downstream.Surroundings.userOnlineCheck,
      Downstream.Surroundings.pushToGateway, availableDownstream, replyWork]

theorem leads_settled {parcel : Parcel}
    (found : pipeline.backlog.messages[0]? = some (number, parcel)) :
    ∃ next, pipeline.Leads next ∧ next.backlog.messages =
      (pipeline.backlog.settle number).messages := by
  have holds : pipeline.backlog.Holds number := .of_getElem? found
  cases parcel with
  | readEvent event =>
      obtain ⟨duties, applied⟩ := readEvent_applyAll
        (pipeline.start (.ofReadEvent number event availableDownstream) [])
        number event
      have allowed : pipeline.ConsumersOnly
          (.consumeEvent 0 availableDownstream) := trivial
      have started : step pipeline (.consumeEvent 0 availableDownstream) =
          some (pipeline.start
            (.ofReadEvent number event availableDownstream) [], []) := by
        simp only [step, found]
      obtain ⟨finished, leads⟩ := leads_of_start allowed started rfl holds
        (consumes_readEvent number event) applied
      exact ⟨_, leads, rfl⟩
  | push addressId message =>
      obtain ⟨duties, applied⟩ := push_applyAll
        (pipeline.start (.ofPush number addressId message .success) [])
        number addressId message
      have allowed : pipeline.ConsumersOnly (.consumePush 0 .success) :=
        trivial
      have started : step pipeline (.consumePush 0 .success) =
          some (pipeline.start
            (.ofPush number addressId message .success) [], []) := by
        simp only [step, found]
      obtain ⟨finished, leads⟩ := leads_of_start allowed started rfl holds
        (consumes_push number addressId message) applied
      exact ⟨_, leads, rfl⟩
  | deadLetter entry =>
      have allowed : pipeline.ConsumersOnly (.eventHandler 0 available) :=
        trivial
      by_cases action : entry.action = .sessionOnly
      · have started : step pipeline (.eventHandler 0 available) =
            some (pipeline.start
              (.ofDeadLetter number entry available) [], []) := by
          simp only [step, found, if_pos action]
        obtain ⟨duties, applied⟩ := deadLetter_applyAll
          (pipeline.start (.ofDeadLetter number entry available) [])
          (fun different => absurd action different)
        obtain ⟨finished, leads⟩ := leads_of_start allowed started rfl holds
          (consumes_deadLetter number entry) applied
        exact ⟨_, leads, rfl⟩
      · let task := Task.ofDeadLetter number entry available
        let event := readModelEvent entry.data
        let called := pipeline.start task [event]
        have started : step pipeline (.eventHandler 0 available) =
            some (called, []) := by
          simp only [step, found, if_neg action]
          rfl
        have first : pipeline.Leads called :=
          .of_step allowed started rfl rfl
        have asked : called.calls[pipeline.calls.length]? =
            some (number, event) := List.getElem?_concat_length
        have serves : called.ConsumersOnly (.deliverReadEvent
            pipeline.calls.length availableDownstream) := by
          intro call listed
          rw [asked] at listed
          cases listed
          exact holds
        have serving : step called (.deliverReadEvent pipeline.calls.length
            availableDownstream) = some (called.start
              (.ofCall number event availableDownstream) [], []) := by
          simp only [step, asked]
        obtain ⟨duties, answered⟩ := call_applyAll (called.start
          (.ofCall number event availableDownstream) []) number entry.data
        obtain ⟨finished, second⟩ := leads_of_start serves serving rfl holds
          (consumes_call number entry.data) answered
        obtain ⟨settled, applied⟩ := deadLetter_applyAll
            { called.start (.ofCall number event availableDownstream) [] with
              backlog := called.backlog.discharge duties
              replies := called.replies ++ [(number, event)]
              tasks := called.tasks ++ [finished] }
          (fun _ => List.mem_append_right _ (List.mem_singleton_self _))
        have waiting : (called.tasks ++ [finished])[pipeline.tasks.length]? =
            some { task with
              performed := [], remaining := task.remaining } := by
          have inside : pipeline.tasks.length < called.tasks.length := by
            simp [called, start]
          rw [List.getElem?_append_left inside]
          exact List.getElem?_concat_length
        have consumes := consumes_deadLetter number entry
        obtain ⟨_, third⟩ := leads_of_applyAll (.inr holds) consumes.last
          consumes.job waiting applied
        exact ⟨_, first.trans (second.trans third), rfl⟩

theorem leads_drained (pipeline : Pipeline) :
    ∃ next, pipeline.Leads next ∧ next.backlog.messages = [] := by
  generalize size : pipeline.backlog.messages.length = count
  induction count using Nat.strongRecOn generalizing pipeline with
  | _ count induction =>
      cases messages : pipeline.backlog.messages with
      | nil => exact ⟨pipeline, .refl pipeline, messages⟩
      | cons entry rest =>
          obtain ⟨number, parcel⟩ := entry
          have found : pipeline.backlog.messages[0]? =
              some (number, parcel) := by
            rw [messages]
            rfl
          obtain ⟨between, leads, settled⟩ := leads_settled found
          have fewer : between.backlog.messages.length < count := by
            rw [settled, ← size, Backlog.settle]
            apply List.length_filter_lt_length_iff_exists.mpr
            exact ⟨(number, parcel), List.mem_of_getElem? found, by simp⟩
          obtain ⟨final, later, drained⟩ :=
            induction _ fewer between rfl
          exact ⟨final, leads.trans later, drained⟩

end Pipeline

/-- From every reachable state the consumers of the queues can drain them,
and then all that was acknowledged after it was handled is done: it is in its
session and in the inbox, and its receiver was seen to. -/
theorem released_recoverable {pipeline : Pipeline} {trace : List Empty}
    (run : Run Pipeline.step Pipeline.Sound {} trace pipeline) :
    ∃ later final,
      Run Pipeline.step Pipeline.ConsumersOnly pipeline later final ∧
      final.backlog.messages = [] ∧ final.released = pipeline.released ∧
      ∀ entry ∈ pipeline.released, ∀ duty ∈ messageDuties entry.2,
        duty ∈ final.backlog.done := by
  obtain ⟨final, leads, drained⟩ := pipeline.leads_drained
  have whole := leads.after run
  obtain ⟨_, released, later, rest⟩ := leads
  refine ⟨later, final, rest, drained, released, ?_⟩
  intro entry member duty owed
  rw [← released] at member
  obtain ⟨_, reached⟩ := whole
  exact ((run_custody reached).released entry member duty owed).done drained

theorem released_recoverable_pending :
    ∃ trace pipeline, Run Pipeline.step Pipeline.Sound {} trace pipeline ∧
      pipeline.backlog.done =
        [.session (sessionRequest Pipeline.sampleMessage)] ∧
      ∃ later final,
        Run Pipeline.step Pipeline.ConsumersOnly pipeline later final ∧
        ∀ duty ∈ messageDuties Pipeline.sampleMessage,
          duty ∈ final.backlog.done := by
  have ran : ∃ trace pipeline,
      Run Pipeline.step Pipeline.Sound {} trace pipeline ∧
        (pipeline.released = [(0, Pipeline.sampleMessage)] ∧
          pipeline.backlog.done =
            [.session (sessionRequest Pipeline.sampleMessage)]) := by
    apply Run.exists_state_of_exec Pipeline.sampleActions
    decide +kernel
  obtain ⟨trace, pipeline, run, released, done⟩ := ran
  obtain ⟨later, final, rest, _, _, recovered⟩ := released_recoverable run
  refine ⟨trace, pipeline, run, done, later, final, rest, ?_⟩
  apply recovered (0, Pipeline.sampleMessage)
  rw [released]
  exact List.mem_singleton_self _

end Worker

end TinyChat
