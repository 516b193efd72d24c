import TinyChat.Upstream.TracerSteps

/-!
# Repeated calls for a message

Since `conflict_check` never finds a conflict, whether a message is
published again depends only on when its calls are made.
-/

namespace TinyChat

namespace Upstream

namespace UpstreamTransferServicer

open Transition

/-- A publish starts only when every earlier publish of the message has
ended and none of them was confirmed less than 30 s ago. -/
def NoSecondPublish (before : List UpstreamEvent) : UpstreamEvent → Prop
  | .publishStarted _ rsqData now =>
      ∀ call earlier time, .publishStarted call earlier time ∈ before →
        messageKey earlier = messageKey rsqData →
        (∃ outcome ended,
          .publishEnded call earlier outcome ended ∈ before) ∧
        ∀ ended, .publishEnded call earlier .confirmed ended ∈ before →
          ended + validity ≤ now
  | _ => True

/-- A call that looks for its message less than 30 s after a confirmation
returns the id of the confirmed publish. -/
def AnswersConfirmed (trace : List UpstreamEvent) : Prop :=
  ∀ first middle last call key now reply,
    trace = first ++ .checked call key now ::
      (middle ++ .replied call key reply :: last) →
    ∀ other rsqData ended,
      .publishEnded other rsqData .confirmed ended ∈ first →
      messageKey rsqData = key → now < ended + validity →
      reply.messageId = some rsqData.messageId

/-- A call begins only when no other call for its message is about to
publish it, no publish of it is in flight, and none was confirmed less than
30 s ago. -/
def Unrepeated (servicer : UpstreamTransferServicer) :
    UpstreamAction → Prop
  | .deliverMessage _ data deliveryId _ =>
      (∀ other rsqData, servicer.calls other = .flicking rsqData →
        messageKey rsqData ≠ (data.senderId, deliveryId)) ∧
      (∀ other rsqData, servicer.inFlight other = some rsqData →
        messageKey rsqData ≠ (data.senderId, deliveryId)) ∧
      ∀ ended, servicer.confirmedAt (data.senderId, deliveryId) =
        some ended → ended + validity ≤ servicer.now
  | _ => True

section

variable {servicer next : UpstreamTransferServicer}
  {action : UpstreamAction} {trace events : List UpstreamEvent}

/-- No publish of the message is in flight, and none was confirmed less than
30 s ago. -/
structure Clear (servicer : UpstreamTransferServicer) (key : MessageKey) :
    Prop where
  inFlight : ∀ call rsqData, servicer.inFlight call = some rsqData →
    messageKey rsqData ≠ key
  confirmed : ∀ ended, servicer.confirmedAt key = some ended →
    ended + validity ≤ servicer.now

/-- The calls that are about to publish are about different messages, and
each of them may publish. -/
structure Orderly (servicer : UpstreamTransferServicer) : Prop where
  unused : ∀ call, servicer.calls call = .unused →
    servicer.inFlight call = none
  ready : ∀ call rsqData, servicer.calls call = .flicking rsqData →
    servicer.inFlight call = none
  alone : ∀ first second rsqData other,
    servicer.calls first = .flicking rsqData →
    servicer.calls second = .flicking other →
    messageKey rsqData = messageKey other → first = second
  clear : ∀ call rsqData, servicer.calls call = .flicking rsqData →
    Clear servicer (messageKey rsqData)

theorem Orderly.relax (orderly : Orderly servicer)
    (unused : ∀ call, next.calls call = .unused →
      servicer.calls call = .unused)
    (flicking : ∀ call rsqData, next.calls call = .flicking rsqData →
      servicer.calls call = .flicking rsqData)
    (inFlight : ∀ call rsqData, next.inFlight call = some rsqData →
      servicer.inFlight call = some rsqData)
    (confirmedAt : next.confirmedAt = servicer.confirmedAt)
    (now : servicer.now ≤ next.now) : Orderly next := by
  have absent : ∀ call, servicer.inFlight call = none →
      next.inFlight call = none := by
    intro call nothing
    cases found : next.inFlight call with
    | none => rfl
    | some rsqData =>
        rw [inFlight call rsqData found] at nothing
        cases nothing
  constructor
  case unused =>
    intro call phase
    exact absent call (orderly.unused call (unused call phase))
  case ready =>
    intro call rsqData phase
    exact absent call
      (orderly.ready call rsqData (flicking call rsqData phase))
  case alone =>
    intro first second rsqData other firstPhase secondPhase
    exact orderly.alone first second rsqData other
      (flicking first rsqData firstPhase)
      (flicking second other secondPhase)
  case clear =>
    intro call rsqData phase
    have clear := orderly.clear call rsqData (flicking call rsqData phase)
    refine ⟨?_, ?_⟩
    · intro other published found
      exact clear.inFlight other published (inFlight other published found)
    · intro ended found
      rw [confirmedAt] at found
      exact Nat.le_trans (clear.confirmed ended found) now

theorem Orderly.begin (orderly : Orderly servicer) {call : Nat}
    {rsqData : RStreamMsgData} (unused : servicer.calls call = .unused)
    (unique : ∀ other waiting, servicer.calls other = .flicking waiting →
      messageKey waiting ≠ messageKey rsqData)
    (clear : Clear servicer (messageKey rsqData)) :
    Orderly (servicer.withCall call (.flicking rsqData)) := by
  have phases : ∀ other waiting,
      (servicer.withCall call (.flicking rsqData)).calls other =
        .flicking waiting →
      other = call ∧ waiting = rsqData ∨
        servicer.calls other = .flicking waiting := by
    intro other waiting phase
    by_cases same : other = call
    · subst same
      simp only [withCall, Function.update_self] at phase
      cases phase
      exact Or.inl ⟨rfl, rfl⟩
    · simp only [withCall, Function.update_of_ne same] at phase
      exact Or.inr phase
  constructor
  case unused =>
    intro other phase
    exact orderly.unused other
      (withCall_calls phase CallPhase.noConfusion).2
  case ready =>
    intro other waiting phase
    rcases phases other waiting phase with ⟨rfl, _⟩ | before
    · exact orderly.unused other unused
    · exact orderly.ready other waiting before
  case alone =>
    intro first second waiting other firstPhase secondPhase same
    rcases phases first waiting firstPhase with ⟨rfl, rfl⟩ | before
    · rcases phases second other secondPhase with ⟨rfl, _⟩ | earlier
      · rfl
      · exact absurd same.symm (unique second other earlier)
    · rcases phases second other secondPhase with ⟨rfl, rfl⟩ | earlier
      · exact absurd same (unique first waiting before)
      · exact orderly.alone first second waiting other before earlier same
  case clear =>
    intro other waiting phase
    rcases phases other waiting phase with ⟨_, rfl⟩ | before
    · exact ⟨clear.inFlight, clear.confirmed⟩
    · have others := orderly.clear other waiting before
      exact ⟨others.inFlight, others.confirmed⟩

theorem Orderly.publish (orderly : Orderly servicer) {call : Nat}
    {rsqData published : RStreamMsgData}
    (flicking : servicer.calls call = .flicking rsqData)
    (sameKey : messageKey published = messageKey rsqData) :
    Orderly
      { servicer.withCall call (.publishing published false) with
        inFlight :=
          Function.update servicer.inFlight call (some published) } := by
  constructor
  case unused =>
    intro other phase
    have before := withCall_calls phase CallPhase.noConfusion
    change Function.update _ _ _ _ = _
    rw [Function.update_of_ne before.1]
    exact orderly.unused other before.2
  case ready =>
    intro other waiting phase
    have before := withCall_calls phase CallPhase.noConfusion
    change Function.update _ _ _ _ = _
    rw [Function.update_of_ne before.1]
    exact orderly.ready other waiting before.2
  case alone =>
    intro first second waiting other firstPhase secondPhase
    have before := withCall_calls firstPhase CallPhase.noConfusion
    have earlier := withCall_calls secondPhase CallPhase.noConfusion
    exact orderly.alone first second waiting other before.2 earlier.2
  case clear =>
    intro other waiting phase
    have before := withCall_calls phase CallPhase.noConfusion
    have clear := orderly.clear other waiting before.2
    refine ⟨?_, clear.confirmed⟩
    intro third inFlight found
    by_cases same : third = call
    · subst same
      simp only [Function.update_self, Option.some.injEq] at found
      subst found
      rw [sameKey]
      intro equal
      exact before.1 (orderly.alone other third waiting rsqData before.2
        flicking equal.symm)
    · simp only [Function.update_of_ne same] at found
      exact clear.inFlight third inFlight found

theorem Orderly.confirm (orderly : Orderly servicer) {call : Nat}
    {rsqData : RStreamMsgData}
    (inFlight : servicer.inFlight call = some rsqData) :
    Orderly
      { (servicer.settle call).resolve call with
        tracer := servicer.tracer
        confirmedAt := Function.update servicer.confirmedAt
          (messageKey rsqData) (some servicer.now) } := by
  have unused : ∀ other,
      ((servicer.settle call).resolve call).calls other = .unused →
      (servicer.settle call).calls other = .unused :=
    fun _ phase => resolve_calls phase (fun _ _ => CallPhase.noConfusion)
  have flicking : ∀ other waiting,
      ((servicer.settle call).resolve call).calls other =
        .flicking waiting →
      (servicer.settle call).calls other = .flicking waiting :=
    fun _ _ phase => resolve_calls phase (fun _ _ => CallPhase.noConfusion)
  have settled : Orderly ((servicer.settle call).resolve call) := by
    refine orderly.relax unused flicking ?_ ?_ ?_
    · intro other published found
      rw [resolve_inFlight] at found
      exact (settle_inFlight found).2
    · unfold resolve
      split <;> rfl
    · exact Nat.le_of_eq (resolve_now (servicer.settle call) call).symm
  refine ⟨settled.unused, settled.ready, settled.alone, ?_⟩
  intro other waiting phase
  have before : servicer.calls other = .flicking waiting :=
    flicking other waiting phase
  have different := (orderly.clear other waiting before).inFlight call
    rsqData inFlight
  have clear := settled.clear other waiting phase
  refine ⟨clear.inFlight, ?_⟩
  intro ended found
  simp only [Function.update_of_ne different.symm] at found
  have late := (orderly.clear other waiting before).confirmed ended found
  exact Nat.le_trans late
    (Nat.le_of_eq (resolve_now (servicer.settle call) call).symm)

theorem Orderly.step (orderly : Orderly servicer)
    (unrepeated : Unrepeated servicer action)
    (moved : Moved servicer action next events) : Orderly next := by
  cases moved with
  | begun call data deliveryId unused =>
      refine orderly.begin unused unrepeated.1 ?_
      exact ⟨unrepeated.2.1, unrepeated.2.2⟩
  | refused call data deliveryId reply unused =>
      refine orderly.relax ?_ ?_ (fun _ _ => id) rfl (Nat.le_refl _)
      · intro other phase
        exact (withCall_calls phase CallPhase.noConfusion).2
      · intro other waiting phase
        exact (withCall_calls phase CallPhase.noConfusion).2
  | published call rsqData snowflakeId flicking =>
      exact orderly.publish flicking rfl
  | answered call replies used replied =>
      refine orderly.relax ?_ ?_ (fun _ _ => id) rfl (Nat.le_refl _)
      · intro other phase
        exact (withCall_calls phase CallPhase.noConfusion).2
      · intro other waiting phase
        exact (withCall_calls phase CallPhase.noConfusion).2
  | raised call rsqData key reply used inFlight =>
      refine orderly.relax ?_ ?_ ?_ rfl (Nat.le_refl _)
      · intro other phase
        exact (withCall_calls phase CallPhase.noConfusion).2
      · intro other waiting phase
        exact (withCall_calls phase CallPhase.noConfusion).2
      · intro other published found
        exact (settle_inFlight found).2
  | confirmed call rsqData inFlight => exact orderly.confirm inFlight
  | rejected call rsqData inFlight =>
      refine orderly.relax (fun _ => id) (fun _ _ => id) ?_ rfl
        (Nat.le_refl _)
      intro other published found
      exact (settle_inFlight found).2
  | elapsed closing now later =>
      exact orderly.relax (fun _ => id) (fun _ _ => id) (fun _ _ => id) rfl
        later

/-- The publishes of the trace are in flight or have ended, and the last
confirmations of the messages are known. -/
structure Recorded (trace : List UpstreamEvent)
    (servicer : UpstreamTransferServicer) : Prop where
  started : ∀ call rsqData time,
    .publishStarted call rsqData time ∈ trace →
    servicer.inFlight call = some rsqData ∨
      ∃ outcome ended, .publishEnded call rsqData outcome ended ∈ trace
  confirmed : ∀ call rsqData ended,
    .publishEnded call rsqData .confirmed ended ∈ trace →
    ∃ last, servicer.confirmedAt (messageKey rsqData) = some last ∧
      ended ≤ last
  past : ∀ key last, servicer.confirmedAt key = some last →
    last ≤ servicer.now

/-- Events that neither start nor confirm a publish. -/
def Quiet (events : List UpstreamEvent) : Prop :=
  ∀ event ∈ events,
    (∀ call rsqData time, event ≠ .publishStarted call rsqData time) ∧
    ∀ call rsqData ended,
      event ≠ .publishEnded call rsqData .confirmed ended

theorem Recorded.started_append (recorded : Recorded trace servicer)
    (inFlight : ∀ call rsqData, servicer.inFlight call = some rsqData →
      next.inFlight call = some rsqData ∨
        ∃ outcome ended, .publishEnded call rsqData outcome ended ∈ events)
    {call : Nat} {rsqData : RStreamMsgData} {time : Nat}
    (earlier : .publishStarted call rsqData time ∈ trace) :
    next.inFlight call = some rsqData ∨
      ∃ outcome ended,
        UpstreamEvent.publishEnded call rsqData outcome ended ∈
          trace ++ events := by
  rcases recorded.started call rsqData time earlier with
    flying | ⟨outcome, ended, settled⟩
  · rcases inFlight call rsqData flying with
      still | ⟨outcome, ended, settled⟩
    · exact Or.inl still
    · exact Or.inr ⟨outcome, ended, List.mem_append_right _ settled⟩
  · exact Or.inr ⟨outcome, ended, List.mem_append_left _ settled⟩

theorem Recorded.extend (recorded : Recorded trace servicer)
    (quiet : Quiet events)
    (inFlight : ∀ call rsqData, servicer.inFlight call = some rsqData →
      next.inFlight call = some rsqData ∨
        ∃ outcome ended, .publishEnded call rsqData outcome ended ∈ events)
    (confirmedAt : next.confirmedAt = servicer.confirmedAt)
    (now : servicer.now ≤ next.now) : Recorded (trace ++ events) next := by
  constructor
  case started =>
    intro call rsqData time member
    rcases List.mem_append.mp member with earlier | new
    · exact recorded.started_append inFlight earlier
    · exact absurd rfl ((quiet _ new).1 call rsqData time)
  case confirmed =>
    intro call rsqData ended member
    rw [confirmedAt]
    rcases List.mem_append.mp member with earlier | new
    · exact recorded.confirmed call rsqData ended earlier
    · exact absurd rfl ((quiet _ new).2 call rsqData ended)
  case past =>
    intro key last found
    rw [confirmedAt] at found
    exact Nat.le_trans (recorded.past key last found) now

theorem Recorded.publish (recorded : Recorded trace servicer) {call : Nat}
    {rsqData : RStreamMsgData} (ready : servicer.inFlight call = none)
    (phase : CallPhase) :
    Recorded (trace ++ [UpstreamEvent.publishStarted call rsqData servicer.now])
      { servicer.withCall call phase with
        inFlight :=
          Function.update servicer.inFlight call (some rsqData) } := by
  constructor
  case started =>
    intro other published time member
    rcases List.mem_append.mp member with earlier | new
    · refine recorded.started_append ?_ earlier
      intro flyingCall flyingData flying
      left
      have different : flyingCall ≠ call := by
        rintro rfl
        rw [ready] at flying
        cases flying
      change Function.update _ _ _ _ = _
      rw [Function.update_of_ne different]
      exact flying
    · cases List.mem_singleton.mp new
      left
      exact Function.update_self ..
  case confirmed =>
    intro other published ended member
    rcases List.mem_append.mp member with earlier | new
    · exact recorded.confirmed other published ended earlier
    · cases List.mem_singleton.mp new
  case past => exact recorded.past

/-- Only the publish that has ended is not in flight any more. -/
theorem settle_or_ended {call other : Nat}
    {rsqData published : RStreamMsgData}
    (inFlight : servicer.inFlight call = some rsqData)
    (flying : servicer.inFlight other = some published) :
    (servicer.settle call).inFlight other = some published ∨
      other = call ∧ published = rsqData := by
  by_cases same : other = call
  · subst same
    rw [inFlight] at flying
    cases flying
    exact Or.inr ⟨rfl, rfl⟩
  · left
    simp only [settle, Function.update_of_ne same]
    exact flying

theorem Recorded.confirm (recorded : Recorded trace servicer) {call : Nat}
    {rsqData : RStreamMsgData}
    (inFlight : servicer.inFlight call = some rsqData) :
    Recorded
      (trace ++
        [UpstreamEvent.publishEnded call rsqData .confirmed servicer.now])
      { (servicer.settle call).resolve call with
        tracer := servicer.tracer
        confirmedAt := Function.update servicer.confirmedAt
          (messageKey rsqData) (some servicer.now) } := by
  constructor
  case started =>
    intro other published time member
    rcases List.mem_append.mp member with earlier | new
    · refine recorded.started_append ?_ earlier
      intro flyingCall flyingData flying
      rcases settle_or_ended inFlight flying with still | ⟨rfl, rfl⟩
      · left
        change ((servicer.settle call).resolve call).inFlight flyingCall = _
        rw [resolve_inFlight]
        exact still
      · exact Or.inr ⟨_, _, List.mem_cons_self⟩
    · cases List.mem_singleton.mp new
  case confirmed =>
    intro other published ended member
    by_cases same : messageKey published = messageKey rsqData
    · refine ⟨servicer.now, ?_, ?_⟩
      · rw [same]
        exact Function.update_self ..
      · rcases List.mem_append.mp member with earlier | new
        · obtain ⟨last, found, le⟩ :=
            recorded.confirmed other published ended earlier
          exact Nat.le_trans le (recorded.past _ last found)
        · cases List.mem_singleton.mp new
          exact Nat.le_refl _
    · rcases List.mem_append.mp member with earlier | new
      · obtain ⟨last, found, le⟩ :=
          recorded.confirmed other published ended earlier
        refine ⟨last, ?_, le⟩
        change Function.update _ _ _ _ = _
        rw [Function.update_of_ne same]
        exact found
      · cases List.mem_singleton.mp new
        exact absurd rfl same
  case past =>
    intro key last found
    have now : ((servicer.settle call).resolve call).now = servicer.now :=
      resolve_now (servicer.settle call) call
    refine Nat.le_trans ?_ (Nat.le_of_eq now.symm)
    by_cases same : key = messageKey rsqData
    · subst same
      simp only [Function.update_self, Option.some.injEq] at found
      exact Nat.le_of_eq found.symm
    · simp only [Function.update_of_ne same] at found
      exact recorded.past key last found

theorem Recorded.step (recorded : Recorded trace servicer)
    (orderly : Orderly servicer)
    (moved : Moved servicer action next events) :
    Recorded (trace ++ events) next := by
  cases moved with
  | begun call data deliveryId unused =>
      exact recorded.extend (by simp [Quiet]) (fun _ _ => Or.inl) rfl
        (Nat.le_refl _)
  | refused call data deliveryId reply unused =>
      exact recorded.extend (by simp [Quiet]) (fun _ _ => Or.inl) rfl
        (Nat.le_refl _)
  | published call rsqData snowflakeId flicking =>
      exact recorded.publish (orderly.ready call rsqData flicking) _
  | answered call replies used replied =>
      refine recorded.extend ?_ (fun _ _ => Or.inl) rfl (Nat.le_refl _)
      intro event member
      obtain ⟨key, reply, rfl⟩ := replied event member
      simp
  | raised call rsqData key reply used inFlight =>
      refine recorded.extend (by simp [Quiet]) ?_ rfl (Nat.le_refl _)
      intro other published flying
      rcases settle_or_ended inFlight flying with still | ⟨rfl, rfl⟩
      · exact Or.inl still
      · exact Or.inr ⟨_, _, List.mem_cons_self⟩
  | confirmed call rsqData inFlight => exact recorded.confirm inFlight
  | rejected call rsqData inFlight =>
      refine recorded.extend (by simp [Quiet]) ?_ rfl (Nat.le_refl _)
      intro other published flying
      rcases settle_or_ended inFlight flying with still | ⟨rfl, rfl⟩
      · exact Or.inl still
      · exact Or.inr ⟨_, _, List.mem_cons_self⟩
  | elapsed closing now later =>
      exact recorded.extend (by simp [Quiet]) (fun _ _ => Or.inl) rfl later

/-- A call looks for its message only when no confirmation of it is recent,
and publishes only what is not published. -/
def Good (before : List UpstreamEvent) (event : UpstreamEvent) : Prop :=
  NoSecondPublish before event ∧
    ∀ call key now, event = .checked call key now →
      ∀ other rsqData ended,
        .publishEnded other rsqData .confirmed ended ∈ before →
        messageKey rsqData = key → ended + validity ≤ now

/-- Nothing is recorded that keeps the message from being published. -/
theorem Recorded.confirmed_before (recorded : Recorded trace servicer)
    {key : MessageKey}
    (late : ∀ last, servicer.confirmedAt key = some last →
      last + validity ≤ servicer.now)
    {call : Nat} {rsqData : RStreamMsgData} {ended : Nat}
    (member : .publishEnded call rsqData .confirmed ended ∈ trace)
    (same : messageKey rsqData = key) :
    ended + validity ≤ servicer.now := by
  obtain ⟨last, found, le⟩ := recorded.confirmed call rsqData ended member
  rw [same] at found
  exact Nat.le_trans (Nat.add_le_add_right le validity) (late last found)

theorem good_of_other {event : UpstreamEvent} (before : List UpstreamEvent)
    (unstarted : ∀ call rsqData time,
      event ≠ .publishStarted call rsqData time)
    (unchecked : ∀ call key now, event ≠ .checked call key now) :
    Good before event := by
  refine ⟨?_, ?_⟩
  · cases event with
    | publishStarted call rsqData time =>
        exact absurd rfl (unstarted call rsqData time)
    | checked call key now => trivial
    | publishEnded call rsqData outcome ended => trivial
    | replied call key reply => trivial
  · intro call key now same
    exact absurd same (unchecked call key now)

theorem good_step (recorded : Recorded trace servicer)
    (orderly : Orderly servicer) (unrepeated : Unrepeated servicer action)
    (moved : Moved servicer action next events) :
    EachEvent Good trace events := by
  cases moved with
  | begun call data deliveryId unused =>
      refine ⟨⟨trivial, ?_⟩, trivial⟩
      intro checked key now same other rsqData ended member sameKey
      cases same
      exact recorded.confirmed_before unrepeated.2.2 member sameKey
  | refused call data deliveryId reply unused =>
      refine ⟨⟨trivial, ?_⟩, good_of_other _ (by simp) (by simp), trivial⟩
      intro checked key now same other rsqData ended member sameKey
      cases same
      exact recorded.confirmed_before unrepeated.2.2 member sameKey
  | published call rsqData snowflakeId flicking =>
      have clear := orderly.clear call rsqData flicking
      refine ⟨⟨?_, by simp⟩, trivial⟩
      intro other earlier time member sameKey
      refine ⟨?_, ?_⟩
      · rcases recorded.started other earlier time member with
          flying | ended
        · exact absurd sameKey (clear.inFlight other earlier flying)
        · exact ended
      · intro ended settled
        exact recorded.confirmed_before clear.confirmed settled sameKey
  | answered call replies used replied =>
      apply eachEvent_of_forall
      intro before event member
      obtain ⟨key, reply, rfl⟩ := replied event member
      exact good_of_other _ (by simp) (by simp)
  | raised call rsqData key reply used inFlight =>
      exact ⟨good_of_other _ (by simp) (by simp),
        good_of_other _ (by simp) (by simp), trivial⟩
  | confirmed call rsqData inFlight =>
      exact ⟨good_of_other _ (by simp) (by simp), trivial⟩
  | rejected call rsqData inFlight =>
      exact ⟨good_of_other _ (by simp) (by simp), trivial⟩
  | elapsed closing now later => trivial

/-- The facts that hold after every run without repeated calls. -/
structure Accounted (trace : List UpstreamEvent)
    (servicer : UpstreamTransferServicer) : Prop where
  untraced : Untraced servicer
  orderly : Orderly servicer
  recorded : Recorded trace servicer
  good : EachEvent Good [] trace

theorem accounted_start : Accounted [] start where
  untraced := untraced_start
  orderly :=
    { unused := fun _ _ => rfl
      ready := fun _ _ _ => rfl
      alone := fun _ _ _ _ phase => CallPhase.noConfusion phase
      clear := fun _ _ phase => CallPhase.noConfusion phase }
  recorded :=
    { started := fun _ _ _ member => absurd member List.not_mem_nil
      confirmed := fun _ _ _ member => absurd member List.not_mem_nil
      past := fun _ _ found => by cases found }
  good := trivial

theorem Accounted.step (accounted : Accounted trace servicer)
    (unrepeated : Unrepeated servicer action)
    (stepped : UpstreamTransferServicer.step servicer action =
      some (next, events)) :
    Accounted (trace ++ events) next := by
  have moved := accounted.untraced.moved stepped
  refine ⟨accounted.untraced.step moved,
    accounted.orderly.step unrepeated moved,
    accounted.recorded.step accounted.orderly moved, ?_⟩
  rw [eachEvent_append]
  exact ⟨accounted.good,
    good_step accounted.recorded accounted.orderly unrepeated moved⟩

theorem answersConfirmed_of_good (good : EachEvent Good [] trace) :
    AnswersConfirmed trace := by
  intro first middle last call key now reply shape other rsqData ended
    member sameKey recent
  rw [shape, eachEvent_append] at good
  have late := good.2.1.2 call key now rfl other rsqData ended member sameKey
  exact absurd recent (Nat.not_lt_of_ge late)

/-- If calls for a message are not repeated too early, no message is
published twice within the period of a publish, and every answer is right. -/
theorem unrepeated_deduplicates
    (run : Run UpstreamTransferServicer.step Unrepeated start trace
      servicer) :
    EachEvent NoSecondPublish [] trace ∧ AnswersConfirmed trace := by
  have accounted : Accounted trace servicer := by
    refine run.invariant accounted_start ?_
    intro trace events state next action accounted unrepeated stepped
    exact accounted.step unrepeated stepped
  refine ⟨?_, answersConfirmed_of_good accounted.good⟩
  exact eachEvent_imp (fun _ _ good => good.1) accounted.good

end

/-- The message of the examples. -/
def hello : MsgData :=
  { sessionId := 7, senderId := 1, receiverId := 2, text := "hi" }

def helloPublished (messageId : Int) : RStreamMsgData :=
  { data := hello, deliveryId := 1, messageId := messageId }

/-- A message is sent again 30 s after its confirmation. -/
theorem unrepeated_deduplicates_later :
    ∃ trace servicer,
      Run step Unrepeated start trace servicer ∧
      .publishStarted 1 (helloPublished 101) validity ∈ trace ∧
      EachEvent NoSecondPublish [] trace ∧ AnswersConfirmed trace := by
  have begun := (Run.refl : Run step Unrepeated start _ _).act
    (.deliverMessage 0 hello 1 true)
    (by
      refine ⟨?_, ?_, ?_⟩
      · intro other rsqData phase
        cases phase
      · intro other rsqData found
        cases found
      · intro ended found
        cases found) rfl
  have flicked := begun.act (.flicked 0 (.success 100)) trivial rfl
  have confirmed := flicked.act (.confirm 0 true) trivial rfl
  have elapsed := confirmed.act (.elapse validity) trivial rfl
  have again := elapsed.act (.deliverMessage 1 hello 1 true)
    (by
      refine ⟨?_, ?_, ?_⟩
      · intro other rsqData phase
        rcases other with _ | other
        · cases phase
        · cases phase
      · intro other rsqData found
        rcases other with _ | other
        · cases found
        · cases found
      · intro ended found
        cases found
        decide) rfl
  have published := again.act (.flicked 1 (.success 101)) trivial rfl
  exact ⟨_, _, published, by decide, unrepeated_deduplicates published⟩

/-- The message is published again right after its confirmation. -/
theorem published_again_after_confirmation :
    ∃ trace servicer, AnyRun step start trace servicer ∧
      .publishStarted 0 (helloPublished 100) 0 ∈ trace ∧
      .publishEnded 0 (helloPublished 100) .confirmed 0 ∈ trace ∧
      .publishStarted 1 (helloPublished 101) 0 ∈ trace ∧
      ¬ EachEvent NoSecondPublish [] trace := by
  have executed : ((exec step (fun _ _ => True) start
      [.deliverMessage 0 hello 1 true, .flicked 0 (.success 100),
        .confirm 0 true, .deliverMessage 1 hello 1 true,
        .flicked 1 (.success 101)]).map Prod.snd) = some
      [.checked 0 (1, 1) 0,
        .publishStarted 0 (helloPublished 100) 0,
        .publishEnded 0 (helloPublished 100) .confirmed 0,
        .checked 1 (1, 1) 0,
        .publishStarted 1 (helloPublished 101) 0] := by
    decide +kernel
  obtain ⟨servicer, run⟩ := Run.exists_of_exec executed
  refine ⟨_, servicer, run, by decide, by decide, by decide, ?_⟩
  intro good
  have second := good.2.2.2.2.1 0 (helloPublished 100) 0 (by decide) rfl
  have late := second.2 0 (by decide)
  exact absurd late (by decide)

end UpstreamTransferServicer

end Upstream

end TinyChat
