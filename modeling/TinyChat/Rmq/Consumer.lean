import TinyChat.Lib.Transition
import Mathlib.Data.List.Basic

/-!
# Cancelling a consumer

`RMQConsumer.cancel`, the close callback of the queue and the end of
`start_listen` each cancel the consumer unless a flag of the state says that
it is cancelled already.  The flags are changed with `&=`.
-/

namespace TinyChat

namespace Rmq

/-! ## The flags of `WorkerState` -/

def idle : Nat := 0

def running : Nat := 1

def closing : Nat := 2

def closed : Nat := 6

def cancelling : Nat := 8

def cancelled : Nat := 24

/-- Who waits for something: `RMQConsumer.cancel`, the close callback of the
queue, or the same function at the end of `start_listen`. -/
inductive CancelParty where
  | cancel
  | callback
  | exit
  deriving DecidableEq

/-- What the party waits for. -/
inductive CancelPhase where
  | cancelling
  | nacking
  | done
  deriving DecidableEq

structure CancelTask where
  party : CancelParty
  phase : CancelPhase
  deriving DecidableEq

/-- What `on_completed` does: there is none or it returns `None`, it returns a
message, or it raises. -/
inductive Completion where
  | nothing
  | message (deliveryTag : Nat)
  | raises
  deriving DecidableEq

/-- A consumer that listens; `registered` says whether the queue has the close
callback. -/
structure RMQConsumer where
  state : Nat := running
  registered : Bool := true
  exited : Bool := false
  tasks : List CancelTask := []
  deriving DecidableEq

/-- A party enters, and whether it finds the channel open; `read_queue.cancel`
is called and returns; a message is rejected; an exception is raised. -/
inductive ConsumerEvent where
  | entered (party : CancelParty) (isOpen : Bool)
  | cancelCalled
  | cancelCompleted
  | nacked (deliveryTag : Nat)
  | raised
  deriving DecidableEq

/-- A party enters and reads whether the channel is closed, and, if it has
nothing to cancel, what it finds after that; the `await` of a task returns or
raises. -/
inductive ConsumerAction where
  | enter (party : CancelParty) (isClosed : Bool)
      (completion : Completion) (closedThen : Bool)
  | cancelReturns (task : Nat) (completion : Completion)
      (closedThen : Bool)
  | cancelRaises (task : Nat)
  | nackReturns (task : Nat)

namespace RMQConsumer

def setPhase (consumer : RMQConsumer) (task : Nat) (entry : CancelTask)
    (phase : CancelPhase) : RMQConsumer :=
  { consumer with
    tasks := consumer.tasks.set task { entry with phase } }

/-- `self.state &= flags`. -/
def keepFlags (consumer : RMQConsumer) (flags : Nat) : RMQConsumer :=
  { consumer with state := consumer.state &&& flags }

/-- The last line of `start_listen`, if it is reached. -/
def leave (consumer : RMQConsumer) (party : CancelParty) : RMQConsumer :=
  if party = .exit then consumer.keepFlags closed else consumer

/-- The end of `close`: the message that `on_completed` returns is rejected
together with those before it. -/
def requeue (consumer : RMQConsumer) (party : CancelParty)
    (completion : Completion) (isClosed : Bool) :
    RMQConsumer × List ConsumerEvent × CancelPhase :=
  match completion with
  | .raises => (consumer, [.raised], .done)
  | .nothing => (consumer.leave party, [], .done)
  | .message deliveryTag =>
      if isClosed then (consumer.leave party, [], .done)
      else (consumer, [.nacked deliveryTag], .nacking)

/-- `self.state &= CANCELLING` and the call of `read_queue.cancel`. -/
def beginCancel (consumer : RMQConsumer) (party : CancelParty) :
    RMQConsumer × List ConsumerEvent :=
  let flagged := consumer.keepFlags cancelling
  ({ flagged with
      tasks := flagged.tasks ++ [⟨party, .cancelling⟩] },
    [.cancelCalled])

/-- `RMQConsumer.cancel`. -/
def cancel (consumer : RMQConsumer) (isClosed : Bool) :
    RMQConsumer × List ConsumerEvent :=
  if isClosed = false ∧ consumer.state &&& cancelling = 0 then
    consumer.beginCancel .cancel
  else (consumer, [])

/-- The function `close` of `start_listen`. -/
def close (consumer : RMQConsumer) (party : CancelParty) (isClosed : Bool)
    (completion : Completion) (closedThen : Bool) :
    RMQConsumer × List ConsumerEvent :=
  if isClosed then (consumer.leave party, [])
  else if consumer.registered = false then (consumer, [.raised])
  else
    let removed := { consumer with registered := false }
    if removed.state &&& cancelling = 0 then removed.beginCancel party
    else
      match removed.requeue party completion closedThen with
      | (next, events, phase) =>
          ({ next with tasks := next.tasks ++ [⟨party, phase⟩] }, events)

def enter (consumer : RMQConsumer) (party : CancelParty) (isClosed : Bool)
    (completion : Completion) (closedThen : Bool) :
    RMQConsumer × List ConsumerEvent :=
  match party with
  | .cancel => consumer.cancel isClosed
  | .callback => consumer.close .callback isClosed completion closedThen
  | .exit =>
      ({ consumer with exited := true }.keepFlags closing).close .exit
        isClosed completion closedThen

/-- What a party does after `read_queue.cancel` has returned. -/
def cancelReturned (consumer : RMQConsumer) (task : Nat)
    (entry : CancelTask) (completion : Completion) (closedThen : Bool) :
    RMQConsumer × List ConsumerEvent :=
  let flagged := consumer.keepFlags cancelled
  if entry.party = .cancel then
    (flagged.setPhase task entry .done, [.cancelCompleted])
  else
    match flagged.requeue entry.party completion closedThen with
    | (next, events, phase) =>
        (next.setPhase task entry phase, .cancelCompleted :: events)

def step : Transition.Step RMQConsumer ConsumerAction ConsumerEvent
  | consumer, .enter party isClosed completion closedThen =>
      if party = .exit ∧ consumer.exited then none
      else
        match consumer.enter party isClosed completion closedThen with
        | (next, events) => some (next, .entered party (!isClosed) :: events)
  | consumer, .cancelReturns task completion closedThen =>
      match consumer.tasks[task]? with
      | some entry =>
          if entry.phase = .cancelling then
            some (consumer.cancelReturned task entry completion closedThen)
          else none
      | none => none
  | consumer, .cancelRaises task =>
      match consumer.tasks[task]? with
      | some entry =>
          if entry.phase = .cancelling then
            some (consumer.setPhase task entry .done, [.raised])
          else none
      | none => none
  | consumer, .nackReturns task =>
      match consumer.tasks[task]? with
      | some entry =>
          if entry.phase = .nacking then
            some ((consumer.setPhase task entry .done).leave entry.party, [])
          else none
      | none => none

/-- The consumer is cancelled at most once; its state has the flag of a call
from then on, and that of a call that has returned. -/
structure CancelledOnce (trace : List ConsumerEvent)
    (consumer : RMQConsumer) : Prop where
  once : trace.count .cancelCalled ≤ 1
  cancelling : .cancelCalled ∈ trace →
    consumer.state &&& cancelling = cancelling
  cancelled : .cancelCompleted ∈ trace →
    consumer.state &&& cancelled = cancelled

/-- Some party has found the channel open. -/
def FoundOpen (trace : List ConsumerEvent) : Prop :=
  ∃ party, .entered party true ∈ trace

/-! ## No operation adds a flag -/

section

variable {consumer next : RMQConsumer} {party : CancelParty}
  {completion : Completion} {isClosed closedThen : Bool}

theorem keepFlags_le (flags : Nat) :
    (consumer.keepFlags flags).state ≤ consumer.state :=
  Nat.and_le_left

theorem leave_le : (consumer.leave party).state ≤ consumer.state := by
  unfold leave
  split
  · exact keepFlags_le closed
  · exact Nat.le_refl _

theorem requeue_le :
    (consumer.requeue party completion isClosed).1.state ≤
      consumer.state := by
  cases completion with
  | nothing => exact leave_le
  | raises => exact Nat.le_refl _
  | message deliveryTag =>
      cases isClosed with
      | false => exact Nat.le_refl _
      | true => exact leave_le

theorem beginCancel_le :
    (consumer.beginCancel party).1.state ≤ consumer.state :=
  keepFlags_le cancelling

theorem close_le :
    (consumer.close party isClosed completion closedThen).1.state ≤
      consumer.state := by
  unfold close
  split
  · exact leave_le
  · split
    · exact Nat.le_refl _
    · dsimp only
      split
      · exact beginCancel_le
      · exact requeue_le

theorem enter_le :
    (consumer.enter party isClosed completion closedThen).1.state ≤
      consumer.state := by
  cases party with
  | cancel =>
      unfold enter cancel
      dsimp only
      split
      · exact beginCancel_le
      · exact Nat.le_refl _
  | callback => exact close_le
  | exit => exact Nat.le_trans close_le (keepFlags_le closing)

theorem cancelReturned_le (task : Nat) (entry : CancelTask)
    (completion : Completion) (closedThen : Bool) :
    (consumer.cancelReturned task entry completion closedThen).1.state ≤
      consumer.state := by
  unfold cancelReturned
  dsimp only
  split
  · exact keepFlags_le cancelled
  · exact Nat.le_trans requeue_le (keepFlags_le cancelled)

/-! ## What a party does when it enters -/

theorem not_cancelling (flags : consumer.state ≤ running) :
    consumer.state &&& cancelling = 0 := by
  have either : consumer.state = 0 ∨ consumer.state = 1 := by
    unfold running at flags
    omega
  rcases either with none | one
  · rw [none]
    rfl
  · rw [one]
    rfl

theorem enter_closed (consumer : RMQConsumer) (party : CancelParty)
    (completion : Completion) (closedThen : Bool) :
    (consumer.enter party true completion closedThen).2 = [] ∧
    (consumer.enter party true completion closedThen).1.registered =
      consumer.registered ∧
    (consumer.enter party true completion closedThen).1.tasks =
      consumer.tasks := by
  cases party with
  | cancel => exact ⟨rfl, rfl, rfl⟩
  | callback => exact ⟨rfl, rfl, rfl⟩
  | exit => exact ⟨rfl, rfl, rfl⟩

/-- Without a flag of a cancellation the guard does not hold back anyone. -/
theorem close_open (flags : consumer.state ≤ running)
    (registered : consumer.registered = true) :
    .cancelCalled ∈
      (consumer.close party false completion closedThen).2 := by
  have free := not_cancelling flags
  simp [close, registered, free, beginCancel]

theorem enter_open (flags : consumer.state ≤ running)
    (registered : consumer.registered = true) :
    .cancelCalled ∈
      (consumer.enter party false completion closedThen).2 := by
  cases party with
  | cancel => simp [enter, cancel, not_cancelling flags, beginCancel]
  | callback => exact close_open flags registered
  | exit =>
      apply close_open
      · exact Nat.le_trans (keepFlags_le closing) flags
      · exact registered

/-! ## Steps -/

variable {trace events : List ConsumerEvent} {action : ConsumerAction}

theorem step_enter
    (stepped : step consumer
      (.enter party isClosed completion closedThen) =
        some (next, events)) :
    next = (consumer.enter party isClosed completion closedThen).1 ∧
    events = .entered party (!isClosed) ::
      (consumer.enter party isClosed completion closedThen).2 := by
  rw [step] at stepped
  split at stepped
  · cases stepped
  · cases stepped
    exact ⟨rfl, rfl⟩

theorem ne_nil_of_task {task : Nat} {entry : CancelTask}
    (found : consumer.tasks[task]? = some entry) : consumer.tasks ≠ [] :=
  List.ne_nil_of_mem (List.mem_of_getElem? found)

/-- A party enters, or one that waits goes on without adding a flag. -/
theorem step_cases (stepped : step consumer action = some (next, events)) :
    (∃ party isClosed completion closedThen,
      action = .enter party isClosed completion closedThen) ∨
    (consumer.tasks ≠ [] ∧ next.state ≤ consumer.state) := by
  cases action with
  | enter party isClosed completion closedThen =>
      exact .inl ⟨party, isClosed, completion, closedThen, rfl⟩
  | cancelReturns task completion closedThen =>
      rw [step] at stepped
      split at stepped
      · rename_i entry found
        split at stepped
        · have kept : (consumer.cancelReturned task entry completion
              closedThen).1.state ≤ consumer.state :=
            cancelReturned_le task entry completion closedThen
          rw [Option.some.inj stepped] at kept
          exact .inr ⟨ne_nil_of_task found, kept⟩
        · cases stepped
      · cases stepped
  | cancelRaises task =>
      rw [step] at stepped
      split at stepped
      · rename_i entry found
        split at stepped
        · cases stepped
          exact .inr ⟨ne_nil_of_task found, Nat.le_refl _⟩
        · cases stepped
      · cases stepped
  | nackReturns task =>
      rw [step] at stepped
      split at stepped
      · rename_i entry found
        split at stepped
        · cases stepped
          exact .inr ⟨ne_nil_of_task found, leave_le⟩
        · cases stepped
      · cases stepped

theorem step_le (stepped : step consumer action = some (next, events)) :
    next.state ≤ consumer.state := by
  rcases step_cases stepped with
    ⟨party, isClosed, completion, closedThen, rfl⟩ | ⟨_, kept⟩
  · rw [(step_enter stepped).1]
    exact enter_le
  · exact kept

/-- The flags of a cancellation are never set; the first party that finds the
channel open cancels the consumer, and until then nothing happens. -/
structure Kept (trace : List ConsumerEvent) (consumer : RMQConsumer) :
    Prop where
  flags : consumer.state ≤ running
  called : FoundOpen trace → .cancelCalled ∈ trace
  untouched : ¬ FoundOpen trace →
    consumer.registered = true ∧ consumer.tasks = [] ∧
      .cancelCalled ∉ trace ∧ .cancelCompleted ∉ trace

theorem FoundOpen.append (found : FoundOpen trace) :
    FoundOpen (trace ++ events) := by
  obtain ⟨party, member⟩ := found
  exact ⟨party, List.mem_append_left events member⟩

theorem Kept.enter (kept : Kept trace consumer)
    (untouched : ¬ FoundOpen trace)
    (stepped : step consumer
      (.enter party isClosed completion closedThen) =
        some (next, events)) :
    Kept (trace ++ events) next := by
  have flags := Nat.le_trans (step_le stepped) kept.flags
  obtain ⟨registered, tasks, notCalled, notCompleted⟩ :=
    kept.untouched untouched
  obtain ⟨rfl, rfl⟩ := step_enter stepped
  cases isClosed with
  | false =>
      have called : .cancelCalled ∈
          (consumer.enter party false completion closedThen).2 :=
        enter_open kept.flags registered
      have found : FoundOpen (trace ++ .entered party true ::
          (consumer.enter party false completion closedThen).2) :=
        ⟨party, by simp⟩
      refine ⟨flags, ?_, fun missing => absurd found missing⟩
      intro _
      simp [called]
  | true =>
      obtain ⟨quiet, sameRegistered, sameTasks⟩ :=
        consumer.enter_closed party completion closedThen
      rw [quiet]
      refine ⟨flags, ?_, ?_⟩
      · rintro ⟨other, member⟩
        have earlier : .entered other true ∈ trace := by
          simpa using member
        exact absurd ⟨other, earlier⟩ untouched
      · intro _
        refine ⟨sameRegistered.trans registered, sameTasks.trans tasks,
          ?_, ?_⟩
        · simpa using notCalled
        · simpa using notCompleted

theorem Kept.step (kept : Kept trace consumer)
    (stepped : step consumer action = some (next, events)) :
    Kept (trace ++ events) next := by
  by_cases found : FoundOpen trace
  · refine ⟨Nat.le_trans (step_le stepped) kept.flags, ?_, ?_⟩
    · intro _
      exact List.mem_append_left events (kept.called found)
    · intro missing
      exact absurd found.append missing
  · obtain ⟨_, tasks, _, _⟩ := kept.untouched found
    rcases step_cases stepped with
      ⟨party, isClosed, completion, closedThen, rfl⟩ | ⟨waiting, _⟩
    · exact kept.enter found stepped
    · exact absurd tasks waiting

/-- The consumer is cancelled at most once, with the flags that say so, just
in the runs in which no party finds the channel open. -/
theorem run_cancelledOnce_iff
    (run : Transition.AnyRun RMQConsumer.step {} trace consumer) :
    CancelledOnce trace consumer ↔ ¬ FoundOpen trace := by
  have kept : Kept trace consumer := by
    apply run.invariant
    · refine ⟨Nat.le_refl _, ?_, ?_⟩
      · rintro ⟨party, member⟩
        cases member
      · intro _
        exact ⟨rfl, rfl, List.not_mem_nil, List.not_mem_nil⟩
    · intro trace events consumer next action kept _ stepped
      exact kept.step stepped
  constructor
  · intro cancelledOnce found
    have flagged := cancelledOnce.cancelling (kept.called found)
    rw [not_cancelling kept.flags] at flagged
    cases flagged
  · intro untouched
    obtain ⟨_, _, notCalled, notCompleted⟩ := kept.untouched untouched
    refine ⟨?_, fun called => absurd called notCalled,
      fun completed => absurd completed notCompleted⟩
    rw [List.count_eq_zero_of_not_mem notCalled]
    exact Nat.zero_le 1

/-- The channel is closed before the listener ends. -/
theorem run_cancelledOnce_iff_closed :
    ∃ trace consumer,
      Transition.AnyRun RMQConsumer.step {} trace consumer ∧
        (CancelledOnce trace consumer ↔ ¬ FoundOpen trace) := by
  have ran : ∃ trace consumer,
      Transition.AnyRun RMQConsumer.step {} trace consumer ∧
        consumer.exited = true := by
    apply Transition.Run.exists_state_of_exec
      [.enter .exit true .nothing true]
    decide
  obtain ⟨trace, consumer, run, _⟩ := ran
  exact ⟨trace, consumer, run, run_cancelledOnce_iff run⟩

/-- The end of the listener cancels the consumer once more. -/
theorem cancelled_again_at_exit :
    ¬ ∀ (trace : List ConsumerEvent) (consumer : RMQConsumer),
      Transition.AnyRun RMQConsumer.step {} trace consumer →
        CancelledOnce trace consumer := by
  intro always
  have ran : ∃ trace consumer,
      Transition.AnyRun RMQConsumer.step {} trace consumer ∧
        1 < trace.count .cancelCalled := by
    apply Transition.Run.exists_both_of_exec
      [.enter .cancel false .nothing false,
        .cancelReturns 0 .nothing false,
        .enter .exit false .nothing false]
    decide
  obtain ⟨trace, consumer, run, twice⟩ := ran
  have once := (always trace consumer run).once
  exact absurd once (Nat.not_le.mpr twice)

end

end RMQConsumer

end Rmq

end TinyChat
