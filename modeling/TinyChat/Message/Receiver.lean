import TinyChat.Lib.Transition

/-!
# Delayed acknowledgements

The logs that are read wait in a queue.  A timer resolves a future some time
after the first of them, and a background task, which awaits the future, gives
the whole queue to the handler and makes the next future.
-/

namespace TinyChat

/-- The background task has not run yet, awaits a future with the handler that
it has read, or has ended with an exception. -/
inductive AckTask where
  | created
  | awaiting (handler : Bool) (waiter : Nat)
  | failed
  deriving DecidableEq

/-- Futures and timers have numbers; `done` has the futures with a result, and
`armed` the timers that the event loop will still run. -/
structure MessageReceiver (α : Type) where
  pendingQueue : List α := []
  ackWaiter : Nat := 0
  ackTask : AckTask := .created
  ackTimer : Option Nat := none
  ackHandler : Bool := false
  done : List Nat := []
  armed : List Nat := []
  nextTimer : Nat := 0

/-- A log that was read, a call of the handler, and the exceptions of the
timer and of the task. -/
inductive ReceiverReport (α : Type) where
  | read (log : α)
  | acked (batch : List α)
  | invalidState
  | typeError

/-- A log is read, the event loop runs a timer, or it runs the task for the
first time or after its future got a result. -/
inductive ReceiverCall (α : Type) where
  | read (log : α)
  | fire (timer : Nat)
  | begin
  | wake

namespace MessageReceiver

variable {α : Type}

def bindAckHandler (receiver : MessageReceiver α) : MessageReceiver α :=
  { receiver with ackHandler := true }

def startAckTimer (receiver : MessageReceiver α) : MessageReceiver α :=
  if receiver.ackTimer = none ∧ receiver.ackHandler = true then
    { receiver with
      ackTimer := some receiver.nextTimer
      armed := receiver.nextTimer :: receiver.armed
      nextTimer := receiver.nextTimer + 1 }
  else receiver

/-- `MessageStream.read`. -/
def read (receiver : MessageReceiver α) (log : α) : MessageReceiver α :=
  { receiver with
    pendingQueue := receiver.pendingQueue ++ [log] }.startAckTimer

/-- The callback of the timer. -/
def setResult (receiver : MessageReceiver α) :
    MessageReceiver α × List (ReceiverReport α) :=
  if receiver.ackWaiter ∈ receiver.done then (receiver, [.invalidState])
  else ({ receiver with done := receiver.ackWaiter :: receiver.done }, [])

def fire (receiver : MessageReceiver α) (timer : Nat) :
    MessageReceiver α × List (ReceiverReport α) :=
  { receiver with armed := receiver.armed.erase timer }.setResult

/-- The loop of `schedule_ack` from the future's result to the next future,
which nothing has resolved yet. -/
def flush (receiver : MessageReceiver α) (handler : Bool) :
    MessageReceiver α × List (ReceiverReport α) :=
  if handler then
    ({ receiver with
        pendingQueue := []
        ackWaiter := receiver.ackWaiter + 1
        ackTimer := none
        ackTask := .awaiting handler (receiver.ackWaiter + 1) },
      [.acked receiver.pendingQueue])
  else ({ receiver with ackTask := .failed }, [.typeError])

/-- `schedule_ack` up to its first future, or past it if it has a result. -/
def begin (receiver : MessageReceiver α) :
    MessageReceiver α × List (ReceiverReport α) :=
  if receiver.ackWaiter ∈ receiver.done then
    receiver.flush receiver.ackHandler
  else
    ({ receiver with
      ackTask := .awaiting receiver.ackHandler receiver.ackWaiter }, [])

def step : Transition.Step (MessageReceiver α) (ReceiverCall α)
    (ReceiverReport α)
  | receiver, .read log => some (receiver.read log, [.read log])
  | receiver, .fire timer =>
      if timer ∈ receiver.armed then some (receiver.fire timer) else none
  | receiver, .begin =>
      match receiver.ackTask with
      | .created => some receiver.begin
      | _ => none
  | receiver, .wake =>
      match receiver.ackTask with
      | .awaiting handler waiter =>
          if waiter ∈ receiver.done then some (receiver.flush handler)
          else none
      | _ => none

/-- A stream's receiver is made, and the session binds its handler at once. -/
def bound : MessageReceiver α := bindAckHandler {}

/-- The timer of the receiver will still run. -/
def TimerArmed (receiver : MessageReceiver α) : Prop :=
  ∃ timer ∈ receiver.armed, receiver.ackTimer = some timer

end MessageReceiver

/-- The logs of a run, in the order in which they were read. -/
def readLogs {α : Type} (trace : List (ReceiverReport α)) : List α :=
  trace.flatMap fun
    | .read log => [log]
    | _ => []

/-- The logs that the handler was given. -/
def ackedLogs {α : Type} (trace : List (ReceiverReport α)) : List α :=
  trace.flatMap fun
    | .acked batch => batch
    | _ => []

/-- Neither the timer nor the task raises. -/
def ReceiverReport.Fine {α : Type} : ReceiverReport α → Prop
  | .invalidState => False
  | .typeError => False
  | _ => True

namespace MessageReceiver

/-- Without a timer nothing waits and the future has no result; with a timer
either it is the only one that will run, or it has run and the future has its
result. -/
inductive Phase {α : Type} (receiver : MessageReceiver α) : Prop where
  | idle (timer : receiver.ackTimer = none) (armed : receiver.armed = [])
      (unresolved : receiver.ackWaiter ∉ receiver.done)
      (empty : receiver.pendingQueue = [])
  | waiting {number : Nat} (timer : receiver.ackTimer = some number)
      (armed : receiver.armed = [number])
      (unresolved : receiver.ackWaiter ∉ receiver.done)
  | resolved {number : Nat} (timer : receiver.ackTimer = some number)
      (armed : receiver.armed = [])
      (result : receiver.ackWaiter ∈ receiver.done)

/-- What is known after a run. -/
structure Delayed {α : Type} (trace : List (ReceiverReport α))
    (receiver : MessageReceiver α) : Prop where
  logs : ackedLogs trace ++ receiver.pendingQueue = readLogs trace
  fine : ∀ report ∈ trace, report.Fine
  handler : receiver.ackHandler = true
  task : receiver.ackTask = .created ∨
    receiver.ackTask = .awaiting true receiver.ackWaiter
  known : ∀ waiter ∈ receiver.done, waiter ≤ receiver.ackWaiter
  phase : receiver.Phase

variable {α : Type} {trace events : List (ReceiverReport α)}
  {receiver next : MessageReceiver α}

theorem delayed_bound : Delayed [] (bound : MessageReceiver α) where
  logs := rfl
  fine := fun _ member => absurd member List.not_mem_nil
  handler := rfl
  task := .inl rfl
  known := fun _ member => absurd member List.not_mem_nil
  phase := .idle rfl rfl List.not_mem_nil rfl

theorem Delayed.fine_snoc (delayed : Delayed trace receiver)
    {report : ReceiverReport α} (right : report.Fine) :
    ∀ other ∈ trace ++ [report], other.Fine := by
  intro other member
  obtain before | same := List.mem_append.mp member
  · exact delayed.fine other before
  · rw [List.mem_singleton.mp same]
    exact right

theorem readLogs_append (trace events : List (ReceiverReport α)) :
    readLogs (trace ++ events) = readLogs trace ++ readLogs events :=
  List.flatMap_append

theorem ackedLogs_append (trace events : List (ReceiverReport α)) :
    ackedLogs (trace ++ events) = ackedLogs trace ++ ackedLogs events :=
  List.flatMap_append

theorem Delayed.read (delayed : Delayed trace receiver) (log : α) :
    Delayed (trace ++ [.read log]) (receiver.read log) := by
  have logs : ackedLogs (trace ++ [.read log]) ++
      (receiver.pendingQueue ++ [log]) = readLogs (trace ++ [.read log]) := by
    rw [ackedLogs_append, readLogs_append, ← delayed.logs]
    simp [ackedLogs, readLogs]
  have right : (ReceiverReport.read log).Fine := trivial
  have fine := delayed.fine_snoc right
  unfold MessageReceiver.read startAckTimer
  cases delayed.phase with
  | idle timer armed unresolved empty =>
      rw [if_pos ⟨timer, delayed.handler⟩]
      refine ⟨logs, fine, delayed.handler, delayed.task, delayed.known, ?_⟩
      refine .waiting rfl ?_ unresolved
      exact congrArg (List.cons _) armed
  | waiting timer armed unresolved =>
      have running : ¬ (receiver.ackTimer = none ∧
          receiver.ackHandler = true) := by simp [timer]
      rw [if_neg running]
      exact ⟨logs, fine, delayed.handler, delayed.task, delayed.known,
        .waiting timer armed unresolved⟩
  | resolved timer armed result =>
      have running : ¬ (receiver.ackTimer = none ∧
          receiver.ackHandler = true) := by simp [timer]
      rw [if_neg running]
      exact ⟨logs, fine, delayed.handler, delayed.task, delayed.known,
        .resolved timer armed result⟩

/-- The timer that will run is the one of the receiver, and the future does
not have a result before it runs. -/
theorem Delayed.fire (delayed : Delayed trace receiver) {timer : Nat}
    (scheduled : timer ∈ receiver.armed) :
    Delayed (trace ++ (receiver.fire timer).2) (receiver.fire timer).1 := by
  cases delayed.phase with
  | idle _ armed _ _ =>
      rw [armed] at scheduled
      cases scheduled
  | resolved _ armed _ =>
      rw [armed] at scheduled
      cases scheduled
  | @waiting number running armed unresolved =>
      rw [armed, List.mem_singleton] at scheduled
      unfold MessageReceiver.fire setResult
      rw [if_neg unresolved, List.append_nil]
      refine ⟨delayed.logs, delayed.fine, delayed.handler, delayed.task, ?_,
        ?_⟩
      · intro waiter member
        obtain same | before := List.mem_cons.mp member
        · exact Nat.le_of_eq same
        · exact delayed.known waiter before
      · refine .resolved running ?_ List.mem_cons_self
        change receiver.armed.erase timer = []
        rw [armed, scheduled, List.erase_cons_head]

theorem Delayed.flush (delayed : Delayed trace receiver)
    (result : receiver.ackWaiter ∈ receiver.done) :
    Delayed (trace ++ (receiver.flush true).2) (receiver.flush true).1 := by
  have unarmed : receiver.armed = [] := by
    cases delayed.phase with
    | idle _ armed _ _ => exact armed
    | waiting _ _ unresolved => exact absurd result unresolved
    | resolved _ armed _ => exact armed
  unfold MessageReceiver.flush
  rw [if_pos rfl]
  refine ⟨?_, delayed.fine_snoc trivial, delayed.handler, .inr rfl, ?_, ?_⟩
  · change ackedLogs (trace ++ [.acked receiver.pendingQueue]) ++ [] =
      readLogs (trace ++ [.acked receiver.pendingQueue])
    rw [ackedLogs_append, readLogs_append, ← delayed.logs]
    simp [ackedLogs, readLogs]
  · intro waiter member
    exact Nat.le_succ_of_le (delayed.known waiter member)
  · refine .idle rfl unarmed ?_ rfl
    intro member
    exact absurd (delayed.known _ member) (Nat.not_succ_le_self _)

theorem Delayed.begin (delayed : Delayed trace receiver) :
    Delayed (trace ++ receiver.begin.2) receiver.begin.1 := by
  unfold MessageReceiver.begin
  rw [delayed.handler]
  split
  · rename_i result
    exact delayed.flush result
  · rw [List.append_nil]
    refine ⟨delayed.logs, delayed.fine, rfl, .inr rfl, delayed.known, ?_⟩
    cases delayed.phase with
    | idle timer armed unresolved empty =>
        exact .idle timer armed unresolved empty
    | waiting timer armed unresolved =>
        exact .waiting timer armed unresolved
    | resolved timer armed result => exact .resolved timer armed result

theorem Delayed.step (delayed : Delayed trace receiver)
    {call : ReceiverCall α}
    (stepped : MessageReceiver.step receiver call = some (next, events)) :
    Delayed (trace ++ events) next := by
  cases call with
  | read log =>
      cases stepped
      exact delayed.read log
  | fire timer =>
      simp only [MessageReceiver.step] at stepped
      split at stepped
      · rename_i scheduled
        have fired := delayed.fire scheduled
        rw [Option.some.inj stepped] at fired
        exact fired
      · cases stepped
  | begin =>
      simp only [MessageReceiver.step] at stepped
      split at stepped
      · have began := delayed.begin
        rw [Option.some.inj stepped] at began
        exact began
      · cases stepped
  | wake =>
      simp only [MessageReceiver.step] at stepped
      split at stepped
      · rename_i handler waiter awaiting
        split at stepped
        · rename_i result
          obtain created | follows := delayed.task
          · rw [awaiting] at created
            cases created
          · rw [awaiting] at follows
            cases follows
            have flushed := delayed.flush result
            rw [Option.some.inj stepped] at flushed
            exact flushed
        · cases stepped
      · cases stepped

theorem Delayed.scheduled (delayed : Delayed trace receiver)
    (nonempty : receiver.pendingQueue ≠ []) :
    receiver.TimerArmed ∨ receiver.ackWaiter ∈ receiver.done := by
  cases delayed.phase with
  | idle _ _ _ empty => exact absurd empty nonempty
  | @waiting number timer armed _ =>
      refine .inl ⟨number, ?_, timer⟩
      rw [armed]
      exact List.mem_singleton_self number
  | resolved _ _ result => exact .inr result

/-- Every log that was read has been given to the handler once, in order, or
waits in the queue; a queue with logs has a timer or a future with a result;
and no future is given a second result. -/
theorem run_acked_once
    (run : Transition.AnyRun step (bound : MessageReceiver α) trace
      receiver) :
    ackedLogs trace ++ receiver.pendingQueue = readLogs trace ∧
    (receiver.pendingQueue ≠ [] →
      receiver.TimerArmed ∨ receiver.ackWaiter ∈ receiver.done) ∧
    ∀ report ∈ trace, report.Fine := by
  have delayed : Delayed trace receiver := by
    apply run.invariant delayed_bound
    intro trace events receiver next call delayed _ stepped
    exact delayed.step stepped
  exact ⟨delayed.logs, delayed.scheduled, delayed.fine⟩

/-- The second log is read between the timer and the task, and the third one
after the task. -/
theorem run_acked_once_between :
    ∃ trace receiver,
      Transition.AnyRun step (bound : MessageReceiver Nat) trace receiver ∧
      (ackedLogs trace = [1, 2] ∧ receiver.pendingQueue = [3]) ∧
      ackedLogs trace ++ receiver.pendingQueue = readLogs trace ∧
      (receiver.pendingQueue ≠ [] →
        receiver.TimerArmed ∨ receiver.ackWaiter ∈ receiver.done) ∧
      ∀ report ∈ trace, report.Fine := by
  have ran : ∃ trace receiver,
      Transition.AnyRun step (bound : MessageReceiver Nat) trace receiver ∧
        ackedLogs trace = [1, 2] ∧ receiver.pendingQueue = [3] := by
    apply Transition.Run.exists_both_of_exec
      [.begin, .read 1, .fire 0, .read 2, .wake, .read 3]
    decide
  obtain ⟨trace, receiver, run, logs⟩ := ran
  have once := run_acked_once run
  exact ⟨trace, receiver, run, logs, once.1, once.2.1, once.2.2⟩

end MessageReceiver

end TinyChat
