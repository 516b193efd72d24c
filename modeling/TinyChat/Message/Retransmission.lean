import TinyChat.Message.Stream

/-!
# Which messages time out

From the reports of a run it can be told which message waits under an id: the
last one that was written, unless it was acknowledged or given to the timeout
handler since.  The tables of the sender have exactly these messages, and each
of them has one timer that is still scheduled.
-/

namespace TinyChat

namespace StreamReport

/-- The message that waits under an id after a report. -/
def record (deliveryId : Nat) (waiting : Option OutboundMessageLog) :
    StreamReport → Option OutboundMessageLog
  | .written _ other message =>
      if other = deliveryId then some message else waiting
  | .acked other => if other = deliveryId then none else waiting
  | .timedOut other _ => if other = deliveryId then none else waiting
  | .notUnique => waiting
  | .keyError => waiting

end StreamReport

/-- The message that was written last under an id, unless it was acknowledged
or has timed out since. -/
def outstanding (trace : List StreamReport) (deliveryId : Nat) :
    Option OutboundMessageLog :=
  trace.foldl (StreamReport.record deliveryId) none

/-- A message is only written under an id that no other message waits under,
and the timeout handler gets the message that waits. -/
def RightReport (before : List StreamReport) : StreamReport → Prop
  | .written _ deliveryId _ => outstanding before deliveryId = none
  | .acked _ => True
  | .timedOut deliveryId message =>
      ∃ waiting, message = some waiting ∧
        outstanding before deliveryId = some waiting
  | .notUnique => True
  | .keyError => False

theorem outstanding_snoc (trace : List StreamReport) (report : StreamReport)
    (deliveryId : Nat) :
    outstanding (trace ++ [report]) deliveryId =
      report.record deliveryId (outstanding trace deliveryId) := by
  rw [outstanding, List.foldl_append]
  rfl

/-! ## The timers -/

namespace Expiry

/-- Exactly the waiting ids have timers, and these are the scheduled ones. -/
structure Armed (expiry : Expiry) (waiting : Nat → Prop) : Prop where
  timers : ∀ deliveryId,
    (expiry.timers.lookup deliveryId).isSome = true ↔ waiting deliveryId
  paired : Table.Paired expiry.scheduled expiry.timers
  unused : ∀ handle, expiry.nextHandle ≤ handle →
    expiry.scheduled.lookup handle = none

variable {expiry : Expiry} {waiting : Nat → Prop} {deliveryId handle : Nat}

theorem armed_new : Armed {} (fun _ => False) := by
  constructor
  · intro deliveryId
    exact iff_of_false Bool.false_ne_true id
  · exact Table.paired_nil
  · intro handle _
    rfl

theorem Armed.lookup_none (armed : Armed expiry waiting)
    (idle : ¬ waiting deliveryId) :
    expiry.timers.lookup deliveryId = none := by
  rw [← armed.timers, Bool.not_eq_true, Option.isSome_eq_false_iff,
    Option.isNone_iff_eq_none] at idle
  exact idle

theorem Armed.startExpireTimer (armed : Armed expiry waiting)
    (idle : ¬ waiting deliveryId) :
    Armed (expiry.startExpireTimer deliveryId)
      (fun other => other = deliveryId ∨ waiting other) := by
  constructor
  · intro other
    unfold Expiry.startExpireTimer
    rw [Table.lookup_assign]
    by_cases same : other = deliveryId
    · simp [same]
    · simp [same, armed.timers]
  · exact armed.paired.assign (armed.unused _ (Nat.le_refl _))
      (armed.lookup_none idle)
  · intro handle later
    have before : expiry.nextHandle + 1 ≤ handle := later
    unfold Expiry.startExpireTimer
    rw [Table.lookup_assign, if_neg (by omega)]
    exact armed.unused handle (by omega)

theorem Armed.pop (armed : Armed expiry waiting)
    (found : expiry.scheduled.lookup handle = some deliveryId) :
    Armed
      { expiry with
        scheduled := expiry.scheduled.pop handle
        timers := expiry.timers.pop deliveryId }
      (fun other => other ≠ deliveryId ∧ waiting other) := by
  constructor
  · intro other
    rw [Table.lookup_pop]
    by_cases same : other = deliveryId
    · simp [same]
    · simp [same, armed.timers]
  · exact armed.paired.pop found
  · intro later beyond
    rw [Table.lookup_pop]
    split
    · rfl
    · exact armed.unused later beyond

theorem Armed.cancelTimer (armed : Armed expiry waiting)
    (deliveryId : Nat) :
    Armed (expiry.cancelTimer deliveryId)
      (fun other => other ≠ deliveryId ∧ waiting other) := by
  unfold Expiry.cancelTimer
  split
  · rename_i missing
    refine ⟨?_, armed.paired, armed.unused⟩
    intro other
    by_cases same : other = deliveryId
    · simp [same, missing]
    · simp [same, armed.timers]
  · rename_i handle found
    exact armed.pop ((armed.paired _ _).mpr found)

end Expiry

/-! ## The stream -/

namespace MessageStream

/-- What is known after a run. -/
structure Timed (trace : List StreamReport) (stream : MessageStream) :
    Prop where
  reports : Transition.EachEvent RightReport [] trace
  waiters : ∀ deliveryId,
    stream.sender.waiters.lookup deliveryId = outstanding trace deliveryId
  drawn : ∀ deliveryId, outstanding trace deliveryId ≠ none →
    deliveryId ≤ stream.sender.deliveryId
  armed : stream.expiry.Armed
    (fun deliveryId => outstanding trace deliveryId ≠ none)

variable {trace events : List StreamReport} {stream next : MessageStream}

theorem timed_new : Timed [] {} where
  reports := trivial
  waiters := fun _ => rfl
  drawn := fun _ waits => absurd rfl waits
  armed := by
    have same : (fun deliveryId => outstanding [] deliveryId ≠ none) =
        fun _ => False := by
      funext deliveryId
      exact eq_false (fun waits => waits rfl)
    rw [same]
    exact Expiry.armed_new

theorem Timed.snoc (timed : Timed trace stream) {report : StreamReport}
    (right : RightReport trace report) :
    Transition.EachEvent RightReport [] (trace ++ [report]) := by
  rw [Transition.eachEvent_append]
  exact ⟨timed.reports, right, trivial⟩

theorem Timed.written (timed : Timed trace stream) {fresh : Bool}
    {deliveryId : Nat} {message : OutboundMessageLog}
    (free : outstanding trace deliveryId = none)
    (waiters : ∀ other, next.sender.waiters.lookup other =
      if other = deliveryId then some message
      else stream.sender.waiters.lookup other)
    (drawn : deliveryId ≤ next.sender.deliveryId)
    (later : stream.sender.deliveryId ≤ next.sender.deliveryId)
    (expiry : next.expiry = stream.expiry.startExpireTimer deliveryId) :
    Timed (trace ++ [.written fresh deliveryId message]) next := by
  have recorded : ∀ other,
      outstanding (trace ++ [.written fresh deliveryId message]) other =
        if other = deliveryId then some message
        else outstanding trace other := by
    intro other
    rw [outstanding_snoc]
    exact if_congr eq_comm rfl rfl
  constructor
  · exact timed.snoc free
  · intro other
    rw [recorded, waiters, timed.waiters]
  · intro other waits
    rw [recorded] at waits
    split at waits
    · rename_i same
      rw [same]
      exact drawn
    · exact Nat.le_trans (timed.drawn other waits) later
  · have armed := timed.armed.startExpireTimer (fun waits => waits free)
    rw [expiry]
    refine ⟨?_, armed.paired, armed.unused⟩
    intro other
    rw [armed.timers, recorded]
    by_cases same : other = deliveryId
    · simp [same]
    · simp [same]

theorem Timed.popped (timed : Timed trace stream) {report : StreamReport}
    {deliveryId : Nat} (right : RightReport trace report)
    (recorded : ∀ other, outstanding (trace ++ [report]) other =
      if other = deliveryId then none else outstanding trace other)
    (waiters : next.sender.waiters =
      Table.pop stream.sender.waiters deliveryId)
    (counter : next.sender.deliveryId = stream.sender.deliveryId)
    (armed : next.expiry.Armed (fun other =>
      other ≠ deliveryId ∧ outstanding trace other ≠ none)) :
    Timed (trace ++ [report]) next := by
  constructor
  · exact timed.snoc right
  · intro other
    rw [recorded, waiters, Table.lookup_pop, timed.waiters]
  · intro other waits
    rw [recorded] at waits
    split at waits
    · exact absurd rfl waits
    · rw [counter]
      exact timed.drawn other waits
  · refine ⟨?_, armed.paired, armed.unused⟩
    intro other
    rw [armed.timers, recorded]
    by_cases same : other = deliveryId
    · simp [same]
    · simp [same]

theorem Timed.write (timed : Timed trace stream)
    {message : OutboundMessageLog}
    (allowed : stream.BeforeWrap (.write message)) :
    Timed (trace ++ (stream.write message).2) (stream.write message).1 := by
  unfold MessageStream.write
  unfold BeforeWrap at allowed
  split
  · rename_i unsent
    simp only [unsent] at allowed
    have drawn : (stream.sender.write message).1 =
        stream.sender.deliveryId + 1 := Nat.mod_eq_of_lt allowed
    apply timed.written
    · by_contra waits
      have before := timed.drawn _ waits
      rw [drawn] at before
      omega
    · intro other
      exact lookup_write stream.sender message other
    · exact Nat.le_refl _
    · change stream.sender.deliveryId ≤ (stream.sender.write message).1
      rw [drawn]
      exact Nat.le_succ _
    · rfl
  · rename_i deliveryId sent
    simp only [sent] at allowed
    split
    · refine ⟨timed.snoc trivial, ?_, ?_, ?_⟩
      · intro other
        rw [outstanding_snoc]
        exact timed.waiters other
      · intro other waits
        rw [outstanding_snoc] at waits
        exact timed.drawn other waits
      · refine ⟨?_, timed.armed.paired, timed.armed.unused⟩
        intro other
        rw [outstanding_snoc]
        exact timed.armed.timers other
    · rename_i free
      rw [timed.waiters, Bool.not_eq_true, Option.isSome_eq_false_iff,
        Option.isNone_iff_eq_none] at free
      apply timed.written free
      · intro other
        exact Table.lookup_assign _ _ _ _
      · exact allowed
      · exact Nat.le_refl _
      · rfl

theorem Timed.onAcked (timed : Timed trace stream) (deliveryId : Nat) :
    Timed (trace ++ [.acked deliveryId]) (stream.onAcked deliveryId) := by
  apply timed.popped
  · trivial
  · intro other
    rw [outstanding_snoc]
    exact if_congr eq_comm rfl rfl
  · rfl
  · rfl
  · exact timed.armed.cancelTimer deliveryId

theorem Timed.fire (timed : Timed trace stream) {handle deliveryId : Nat}
    (found : stream.expiry.scheduled.lookup handle = some deliveryId) :
    Timed (trace ++ (stream.fire handle deliveryId).2)
      (stream.fire handle deliveryId).1 := by
  have timer := (timed.armed.paired _ _).mp found
  have waits : outstanding trace deliveryId ≠ none := by
    rw [← timed.armed.timers, timer]
    rfl
  obtain ⟨waiting, isWaiting⟩ := Option.ne_none_iff_exists'.mp waits
  have message : stream.sender.waiters.lookup deliveryId = some waiting := by
    rw [timed.waiters, isWaiting]
  have fired : stream.fire handle deliveryId =
      ({ stream.popWaiter deliveryId with
          expiry :=
            { stream.expiry with
              scheduled := stream.expiry.scheduled.pop handle
              timers := stream.expiry.timers.pop deliveryId } },
        [.timedOut deliveryId (some waiting)]) := by
    simp only [MessageStream.fire, onTimeout, popWaiter, timer, message]
  rw [fired]
  apply timed.popped
  · exact ⟨waiting, rfl, isWaiting⟩
  · intro other
    rw [outstanding_snoc]
    exact if_congr eq_comm rfl rfl
  · rfl
  · rfl
  · exact timed.armed.pop found

theorem Timed.step (timed : Timed trace stream) {call : StreamCall}
    (allowed : stream.BeforeWrap call)
    (stepped : MessageStream.step stream call = some (next, events)) :
    Timed (trace ++ events) next := by
  cases call with
  | write message =>
      have result := Option.some.inj stepped
      have wrote := timed.write allowed
      rw [result] at wrote
      exact wrote
  | borrowVirtualLocalId =>
      cases stepped
      rw [List.append_nil]
      refine ⟨timed.reports, timed.waiters, ?_, timed.armed⟩
      intro other waits
      have later : stream.sender.deliveryId ≤
          (stream.sender.deliveryId + 1) % maxInt64 := by
        rw [Nat.mod_eq_of_lt allowed]
        exact Nat.le_succ _
      exact Nat.le_trans (timed.drawn other waits) later
  | onAcked deliveryId =>
      cases stepped
      exact timed.onAcked deliveryId
  | fire handle =>
      simp only [MessageStream.step] at stepped
      split at stepped
      · cases stepped
      · rename_i deliveryId found
        have result := Option.some.inj stepped
        have fired := timed.fire found
        rw [result] at fired
        exact fired

/-- The keys of the two tables are equal, nothing is written under an id that
another message waits under, and the timeout handler is called for a message
that was written, at most once, and not after its acknowledgement. -/
theorem run_retransmission
    (run : Transition.Run MessageStream.step BeforeWrap {} trace stream) :
    (∀ deliveryId,
      deliveryId ∈ stream.sender.waiters.map Prod.fst ↔
        deliveryId ∈ stream.expiry.timers.map Prod.fst) ∧
    Transition.EachEvent RightReport [] trace := by
  have timed : Timed trace stream := by
    apply run.invariant timed_new
    intro trace events stream next call timed allowed stepped
    exact timed.step allowed stepped
  refine ⟨?_, timed.reports⟩
  intro deliveryId
  rw [← not_iff_not, Table.notMem_keys, Table.notMem_keys, timed.waiters,
    ← Option.isNone_iff_eq_none (o := stream.expiry.timers.lookup _),
    ← Option.isSome_eq_false_iff, ← Bool.not_eq_true,
    timed.armed.timers, not_not]

/-- A message times out, is written again under its id, and is acknowledged;
another one still waits. -/
theorem run_retransmission_resent :
    ∃ trace stream,
      Transition.Run MessageStream.step BeforeWrap {} trace stream ∧
      stream.sender.waiters.map Prod.fst = [2] ∧
      (∀ deliveryId,
        deliveryId ∈ stream.sender.waiters.map Prod.fst ↔
          deliveryId ∈ stream.expiry.timers.map Prod.fst) ∧
      Transition.EachEvent RightReport [] trace := by
  have ran : ∃ trace stream,
      Transition.Run MessageStream.step BeforeWrap {} trace stream ∧
        stream.sender.waiters.map Prod.fst = [2] := by
    apply Transition.Run.exists_state_of_exec
      [.write ⟨1, 2, 3, none⟩, .write ⟨1, 2, 3, none⟩, .fire 0,
        .write ⟨1, 2, 3, some 1⟩, .onAcked 1]
    decide
  obtain ⟨trace, stream, run, waits⟩ := ran
  have right := run_retransmission run
  exact ⟨trace, stream, run, waits, right.1, right.2⟩

end MessageStream

end TinyChat
