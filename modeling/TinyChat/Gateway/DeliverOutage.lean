import TinyChat.Gateway.Deliver

/-!
# Outages of the upstream service

All messages of a session share one task, and nobody observes how it ends.
A message for which no service is available ends the task: the reader goes
on, and the messages after it stay in the queue.  So the messages are served
as long as the task does not end before the last one of the connection.
-/

namespace TinyChat

namespace Gateway

namespace MessageReader

open Transition

/-- While the reader runs, the message whose turn it is is handed over if a
service is available.  Its turn comes when the call for the message before
it has ended. -/
def ServesNext (formats : Formats) (reader : MessageReader) : Prop :=
  reader.reading = true →
    ∀ item items, reader.pendingDeliver = item :: items →
      (∃ called, reader.deliverTask = .calling called) ∨
      ∃ next, step formats reader (.deliver true) =
        some (next, [.handedOver item])

/-- What ends the task: no service, a call that raises, an acknowledgement
that cannot be built or does not fit into the write queue. -/
def EndsTask (reader : MessageReader) : ReaderAction → Prop
  | .deliver service => service = false
  | .delivered messageId =>
      match reader.deliverTask with
      | .calling item =>
          reader.cancelled = false ∧ messageId ≠ 0 ∧
            (userMessageAck item.deliveryId messageId = none ∨
              queueMaxsize ≤ reader.writeQueue.length)
      | _ => False
  | .deliverRaises => True
  | _ => False

/-- The messages that still wait once the task is through with the one that
it takes or has taken. -/
def behind (reader : MessageReader) : ReaderAction → List UserMsgData
  | .deliver _ => reader.pendingDeliver.tail
  | _ => reader.pendingDeliver

/-- The message that a step adds to the queue. -/
def arrival (formats : Formats) : ReaderAction → Option UserMsgData
  | .receive bytes => messageOf formats bytes
  | _ => none

/-- The task ends only at the last message of the connection: none waits
behind it, and none arrives after it. -/
def EndsAtLast (formats : Formats) (reader : MessageReader)
    (action : ReaderAction) : Prop :=
  (reader.EndsTask action → reader.behind action = []) ∧
    (reader.deliverTask = .ended → arrival formats action = none)

section

variable {formats : Formats} {reader next : MessageReader}
  {action : ReaderAction} {trace events : List ReaderEvent}

theorem servesNext_iff : ServesNext formats reader ↔
    (reader.reading = true →
      reader.deliverTask = .ended → reader.pendingDeliver = []) := by
  constructor
  · intro serves reading ended
    cases waiting : reader.pendingDeliver with
    | nil => rfl
    | cons item items =>
        rcases serves reading item items waiting with
          ⟨called, calling⟩ | ⟨next, handed⟩
        · rw [ended] at calling
          cases calling
        · simp only [step, ended] at handed
          cases handed
  · intro condition reading item items waiting
    cases task : reader.deliverTask with
    | waiting =>
        right
        simp only [step, task, waiting]
        exact ⟨_, rfl⟩
    | calling called => exact Or.inl ⟨called, rfl⟩
    | ended =>
        have nothing := condition reading task
        rw [waiting] at nothing
        cases nothing

theorem onFrame_running {frame : PubEventFromUser}
    (reading : (reader.onFrame formats frame).1.reading = true) :
    (reader.onFrame formats frame).1.deliverTask = reader.deliverTask ∧
      (reader.onFrame formats frame).1.pendingDeliver =
        reader.pendingDeliver ++
          (if frame.evtTp = .pushUserMessage then
            formats.clientMsgData frame.payload
          else none).toList := by
  unfold onFrame at reading ⊢
  split
  · rename_i message
    rw [if_pos message]
    simp only [message] at reading
    split
    · rename_i undecoded
      rw [undecoded] at reading
      exact absurd (stop_reading.symm.trans reading) Bool.false_ne_true
    · rename_i item decoded
      rw [decoded]
      exact ⟨rfl, rfl⟩
  · rename_i ack
    rw [if_neg (by rw [ack]; decide)]
    simp only [ack] at reading
    split
    · rename_i undecoded
      rw [undecoded] at reading
      exact absurd (stop_reading.symm.trans reading) Bool.false_ne_true
    · exact ⟨rfl, (List.append_nil _).symm⟩
  · rename_i other _
    rw [if_neg other]
    exact ⟨rfl, (List.append_nil _).symm⟩

theorem onDelivered_running {item : UserMsgData} {messageId : Int}
    (calling : reader.deliverTask = .calling item) :
    (reader.onDelivered item
        (if reader.cancelled then 0 else messageId)).1.reading =
          reader.reading ∧
      (reader.onDelivered item
        (if reader.cancelled then 0 else messageId)).1.pendingDeliver =
          reader.pendingDeliver ∧
      ((reader.onDelivered item
        (if reader.cancelled then 0 else messageId)).1.deliverTask =
          .ended ↔ reader.EndsTask (.delivered messageId)) := by
  cases cancelled : reader.cancelled with
  | true => simp [EndsTask, calling, onDelivered, cancelled]
  | false =>
      simp only [EndsTask, calling, onDelivered, cancelled]
      simp only [Bool.false_eq_true, if_false, true_and]
      split
      · rename_i zero
        simp [zero]
      · rename_i nonzero
        split
        · rename_i unbuilt
          simp [nonzero, unbuilt]
        · rename_i ack built
          split
          · rename_i room
            simp [built, room]
          · rename_i full
            simp [nonzero, built, Nat.not_lt.mp full]

/-- What a step does while the reader goes on: the queue loses the message
that is taken and gains the one that arrives, and the task ends for one of
the listed reasons. -/
theorem step_running
    (stepped : step formats reader action = some (next, events))
    (reading : next.reading = true) :
    reader.reading = true ∧
      next.pendingDeliver =
        reader.behind action ++ (arrival formats action).toList ∧
      (next.deliverTask = .ended ↔
        reader.deliverTask = .ended ∨ reader.EndsTask action) := by
  cases action with
  | receive bytes =>
      simp only [step] at stepped
      split at stepped
      · rename_i wasReading
        split at stepped
        · cases stepped
          exact absurd (stop_reading.symm.trans reading) Bool.false_ne_true
        · rename_i frame parsed
          cases stepped
          obtain ⟨sameTask, queued⟩ := onFrame_running reading
          refine ⟨wasReading, ?_, ?_⟩
          · simp only [arrival, messageOf, parsed]
            exact queued
          · simp only [EndsTask, or_false]
            rw [sameTask]
      · cases stepped
  | disconnect =>
      simp only [step] at stepped
      split at stepped
      · cases stepped
        exact absurd (stop_reading.symm.trans reading) Bool.false_ne_true
      · cases stepped
  | deliver service =>
      simp only [step] at stepped
      split at stepped
      · rename_i item items waiting queued
        split at stepped
        · rename_i available
          cases stepped
          refine ⟨reading, ?_, ?_⟩
          · simp [behind, queued, arrival]
          · simp [waiting, EndsTask, available]
        · rename_i unavailable
          cases stepped
          refine ⟨reading, ?_, ?_⟩
          · simp [behind, queued, arrival]
          · have none : service = false := by simpa using unavailable
            simp [EndsTask, none]
      · cases stepped
  | delivered messageId =>
      simp only [step] at stepped
      split at stepped
      · rename_i item calling
        obtain ⟨sameReading, samePending, ended⟩ :=
          @onDelivered_running reader item messageId calling
        rw [Option.some.inj stepped] at sameReading samePending ended
        refine ⟨sameReading ▸ reading, ?_, ?_⟩
        · show next.pendingDeliver = reader.pendingDeliver ++ []
          rw [List.append_nil]
          exact samePending
        · rw [ended, calling]
          simp
      · cases stepped
  | deliverRaises =>
      simp only [step] at stepped
      split at stepped
      · cases stepped
        refine ⟨reading, ?_, ?_⟩
        · simp [behind, arrival]
        · simp [EndsTask]
      · cases stepped
  | write =>
      simp only [step] at stepped
      split at stepped
      · cases stepped
      · cases stepped
        refine ⟨reading, ?_, ?_⟩
        · simp [behind, arrival]
        · simp [EndsTask]

theorem EndsTask.no_arrival (ends : reader.EndsTask action) :
    arrival formats action = none := by
  cases action with
  | receive bytes => cases ends
  | _ => rfl

/-- If the messages are served before a step, they are served after it
exactly if the task ends at the last message only. -/
theorem step_servesNext_iff (serves : ServesNext formats reader)
    (stepped : step formats reader action = some (next, events))
    (reading : next.reading = true) :
    ServesNext formats next ↔ EndsAtLast formats reader action := by
  obtain ⟨wasReading, pending, ended⟩ := step_running stepped reading
  have condition := servesNext_iff.mp serves wasReading
  rw [servesNext_iff, pending]
  constructor
  · intro served
    constructor
    · intro ends
      have nothing := served reading (ended.mpr (Or.inr ends))
      exact (List.append_eq_nil_iff.mp nothing).1
    · intro earlier
      have nothing := served reading (ended.mpr (Or.inl earlier))
      exact Option.toList_eq_nil_iff.mp (List.append_eq_nil_iff.mp nothing).2
  · intro atLast _ nextEnded
    obtain ⟨nothingBehind, noArrival⟩ := atLast
    rcases ended.mp nextEnded with earlier | ends
    · have empty : reader.behind action = [] := by
        have nothing := condition earlier
        cases action with
        | deliver service =>
            show reader.pendingDeliver.tail = []
            rw [nothing]
            rfl
        | _ => exact nothing
      rw [empty, noArrival earlier]
      rfl
    · rw [nothingBehind ends, ends.no_arrival]
      rfl

/-- In every run in which the task ends at the last message of the
connection only, every message is handed over if a service is available when
its turn comes. -/
theorem run_servesNext
    (run : Run (step formats) (EndsAtLast formats) {} trace reader) :
    ServesNext formats reader := by
  apply run.state_invariant
  · intro _ item items waiting
    cases waiting
  · intro events reader next action serves atLast stepped
    cases reading : next.reading with
    | false =>
        intro still
        rw [reading] at still
        cases still
    | true =>
        exact (step_servesNext_iff serves stepped reading).mpr atLast

theorem step_ended (ended : reader.deliverTask = .ended)
    (stepped : step formats reader action = some (next, events)) :
    next.deliverTask = .ended ∧ handedOver events = [] := by
  cases action with
  | receive bytes =>
      simp only [step] at stepped
      split at stepped
      · split at stepped
        · cases stepped
          exact ⟨stop_ended ended, rfl⟩
        · rename_i frame parsed
          cases stepped
          unfold onFrame
          split
          · split
            · exact ⟨stop_ended ended, rfl⟩
            · exact ⟨ended, rfl⟩
          · split
            · exact ⟨stop_ended ended, rfl⟩
            · exact ⟨ended, rfl⟩
          · exact ⟨ended, rfl⟩
      · cases stepped
  | disconnect =>
      simp only [step] at stepped
      split at stepped
      · cases stepped
        exact ⟨stop_ended ended, rfl⟩
      · cases stepped
  | deliver service =>
      simp only [step, ended] at stepped
      cases stepped
  | delivered messageId =>
      simp only [step, ended] at stepped
      cases stepped
  | deliverRaises =>
      simp only [step, ended] at stepped
      cases stepped
  | write =>
      simp only [step] at stepped
      split at stepped
      · cases stepped
      · cases stepped
        exact ⟨ended, rfl⟩

theorem run_ended {later : List ReaderEvent} {final : MessageReader}
    (ended : reader.deliverTask = .ended)
    (run : AnyRun (step formats) reader later final) :
    final.deliverTask = .ended ∧ handedOver later = [] := by
  apply run.invariant
  · exact ⟨ended, rfl⟩
  · intro trace events reader next action holds _ stepped
    obtain ⟨before, nothing⟩ := holds
    obtain ⟨after, still⟩ := step_ended before stepped
    refine ⟨after, ?_⟩
    rw [handedOver_append, nothing, still]
    rfl

end

/-- Two messages are handed over while the service is available; it is not
when a third one comes, the last of the connection. -/
theorem run_servesNext_last :
    ∃ (trace : List ReaderEvent) (reader : MessageReader),
      Run (step helloFormats) (EndsAtLast helloFormats) {} trace reader ∧
      handedOver trace = [helloItem, helloItem] ∧
      reader.deliverTask = .ended ∧ ServesNext helloFormats reader := by
  have arrives : ∀ reader : MessageReader, reader.deliverTask = .waiting →
      EndsAtLast helloFormats reader (.receive helloFrame) := by
    intro reader waiting
    refine ⟨False.elim, ?_⟩
    intro ended
    rw [waiting] at ended
    cases ended
  have serves : ∀ reader, EndsAtLast helloFormats reader (.deliver true) := by
    intro reader
    refine ⟨?_, fun _ => rfl⟩
    intro unavailable
    cases unavailable
  have unanswered : ∀ reader,
      EndsAtLast helloFormats reader (.delivered 0) := by
    intro reader
    refine ⟨?_, fun _ => rfl⟩
    intro ends
    simp only [EndsTask] at ends
    split at ends
    · exact absurd rfl ends.2.1
    · cases ends
  have first := (Run.refl : Run (step helloFormats)
    (EndsAtLast helloFormats) {} _ _).act (.receive helloFrame)
    (arrives _ rfl) rfl
  have second := first.act (.receive helloFrame) (arrives _ rfl) rfl
  have calledFirst := second.act (.deliver true) (serves _) rfl
  have answeredFirst := calledFirst.act (.delivered 0) (unanswered _) rfl
  have calledSecond := answeredFirst.act (.deliver true) (serves _) rfl
  have answeredSecond := calledSecond.act (.delivered 0) (unanswered _) rfl
  have third := answeredSecond.act (.receive helloFrame) (arrives _ rfl) rfl
  have ended := third.act (.deliver false) ⟨fun _ => rfl, fun _ => rfl⟩ rfl
  exact ⟨_, _, ended, rfl, rfl, run_servesNext ended⟩

/-- No service is available for the first message of a session.  The reader
runs on and takes a second message, which is never handed over. -/
theorem unavailable_stops_later :
    ∃ (trace : List ReaderEvent) (reader : MessageReader),
      AnyRun (step helloFormats) {} trace reader ∧
      reader.reading = true ∧ reader.pendingDeliver = [helloItem] ∧
      ¬ ServesNext helloFormats reader ∧
      ∀ later final, AnyRun (step helloFormats) reader later final →
        handedOver later = [] := by
  have first := (Run.refl : AnyRun (step helloFormats) {} _ _).act
    (.receive helloFrame) trivial rfl
  have ended := first.act (.deliver false) trivial rfl
  have second := ended.act (.receive helloFrame) trivial rfl
  refine ⟨_, _, second, rfl, rfl, ?_, ?_⟩
  · intro serves
    have nothing := servesNext_iff.mp serves rfl rfl
    cases nothing
  · intro later final run
    exact (run_ended rfl run).2

end MessageReader

end Gateway

end TinyChat
