import TinyChat.Push.Confirmations
import TinyChat.Push.Coverage

/-!
# Ranges of ids between a gateway and a push service

The ids of a channel are the values of a `uint32` field, and a range ends
after its last id.  So the range that has the last value of the field does
not fit the fields of a `PubEventAckFromGateway`.
-/

namespace TinyChat

open Transition LinkedRing

namespace Push

namespace GatewayChannel

/-- `on_delivery` for the ranges of a pass, one after another. -/
def onDeliveries (gateway : GatewayChannel) :
    List (Int × Int) → GatewayChannel × List Nat
  | [] => (gateway, [])
  | range :: ranges =>
      let first := gateway.onDelivery .success range.1 range.2
      let others := first.1.onDeliveries ranges
      (others.1, first.2 ++ others.2)

theorem Registered.mem_onDeliveries {gateway : GatewayChannel}
    (registered : Registered gateway) {ranges : List (Int × Int)}
    (nonneg : ∀ range ∈ ranges, 0 ≤ range.1) {position : Nat} :
    position ∈ (gateway.onDeliveries ranges).2 ↔
      gateway.Pending position ∧ ∃ range ∈ ranges,
        range.1 ≤ EventChannel.idOf position ∧
        (EventChannel.idOf position : Int) < range.2 := by
  induction ranges generalizing gateway with
  | nil => simp [onDeliveries]
  | cons range ranges induction =>
      have first : 0 ≤ range.1 := nonneg range List.mem_cons_self
      have later : ∀ range ∈ ranges, 0 ≤ range.1 := fun range member =>
        nonneg range (List.mem_cons_of_mem _ member)
      simp only [onDeliveries, List.mem_append,
        registered.mem_onDelivery first,
        induction (registered.onDelivery .success first range.2) later,
        onDelivery_pending, List.mem_cons, exists_eq_or_imp]
      constructor
      · rintro (⟨pending, within⟩ | ⟨⟨pending, _⟩, found⟩)
        · exact ⟨pending, Or.inl within⟩
        · exact ⟨pending, Or.inr found⟩
      · rintro ⟨pending, within | found⟩
        · exact Or.inl ⟨pending, within⟩
        · by_cases resolved : gateway.Pending position ∧
              range.1 ≤ EventChannel.idOf position ∧
              (EventChannel.idOf position : Int) < range.2
          · exact Or.inl resolved
          · exact Or.inr ⟨⟨pending, resolved⟩, found⟩

end GatewayChannel

namespace PushChannel

variable {channel next : PushChannel} {action : ChannelAction}
  {trace events : List ChannelEvent} {nodes : List Ref}

/-- An id that is added is not the last value of a `uint32` field. -/
def BelowLast (action : ChannelAction) : Prop :=
  ∀ deliveryId ∈ addedBy action, (deliveryId : Int) + 1 < uint32Bound

instance (action : ChannelAction) : Decidable (BelowLast action) :=
  decidable_of_iff
    (∀ deliveryId ∈ addedBy action, (deliveryId : Int) + 1 < uint32Bound)
    Iff.rfl

/-- No id is lost, and every range fits its fields. -/
def KeepsRanges (channel : PushChannel) (action : ChannelAction) : Prop :=
  (channel.SparesCursor action ∧ channel.JoinsAhead action) ∧
    BelowLast action

instance (channel : PushChannel) (action : ChannelAction) :
    Decidable (channel.KeepsRanges action) :=
  decidable_of_iff
    ((channel.SparesCursor action ∧ channel.JoinsAhead action) ∧
      BelowLast action) Iff.rfl

def sentRange : ChannelEvent → Option (Int × Int)
  | .feedback _ start end_ true => some (start, end_)
  | _ => none

/-- The ranges that were sent after the last `clear`. -/
def passRanges (trace : List ChannelEvent) : List (Int × Int) :=
  (sinceClear trace).filterMap sentRange

/-- A range that is built is sent, has only acknowledged ids, and resolves
the pending waiters with its ids; the ranges up to a `clear` resolve all
pending waiters whose ids were acknowledged, and no others. -/
def ResolvesAcked (service : GatewayChannel) (before : List ChannelEvent) :
    ChannelEvent → Prop
  | .feedback _ start end_ sent =>
      sent = true ∧ Encodable start end_ ∧
      (∀ value, start ≤ value → value < end_ → AckedSince before value) ∧
      ∀ position,
        position ∈ (service.onDelivery .success start end_).2 ↔
          service.Pending position ∧
            start ≤ EventChannel.idOf position ∧
            (EventChannel.idOf position : Int) < end_
  | .cleared => ∀ position,
      position ∈ (service.onDeliveries (passRanges before)).2 ↔
        service.Pending position ∧
          AckedSince before (EventChannel.idOf position)
  | _ => True

theorem mem_passRanges {start end_ : Int} :
    (start, end_) ∈ passRanges trace ↔
      ∃ node, .feedback node start end_ true ∈ sinceClear trace := by
  simp only [passRanges, List.mem_filterMap]
  constructor
  · rintro ⟨event, member, found⟩
    unfold sentRange at found
    split at found
    · cases found
      exact ⟨_, member⟩
    · cases found
  · rintro ⟨node, member⟩
    exact ⟨_, member, rfl⟩

/-- The acknowledged ids are below the last one, and the ranges of the pass
have only acknowledged ids. -/
structure Bounded (trace : List ChannelEvent) : Prop where
  small : ∀ value, AckedSince trace value → value + 1 < uint32Bound
  ranges : ∀ range ∈ passRanges trace, 0 ≤ range.1 ∧
    ∀ value, range.1 ≤ value → value < range.2 → AckedSince trace value

theorem bounded_initial : Bounded [] where
  small := by
    rintro value ⟨_, _, member⟩
    cases member
  ranges := fun _ member => absurd member List.not_mem_nil

theorem passRanges_append (others : .cleared ∉ events) :
    passRanges (trace ++ events) =
      passRanges trace ++ events.filterMap sentRange := by
  rw [passRanges, passRanges, sinceClear_append trace others,
    List.filterMap_append]

theorem Bounded.append (bounded : Bounded trace)
    (others : .cleared ∉ events)
    (below : ∀ deliveryId : Nat, .added deliveryId ∈ events →
      (deliveryId : Int) + 1 < uint32Bound)
    (sound : ∀ range ∈ events.filterMap sentRange, 0 ≤ range.1 ∧
      ∀ value, range.1 ≤ value → value < range.2 →
        AckedSince trace value) :
    Bounded (trace ++ events) := by
  refine ⟨?_, ?_⟩
  · intro value acked
    rcases (ackedSince_append others value).mp acked with
      before | ⟨deliveryId, rfl, added⟩
    · exact bounded.small value before
    · exact below deliveryId added
  · intro range member
    rw [passRanges_append others] at member
    have known : 0 ≤ range.1 ∧ ∀ value, range.1 ≤ value →
        value < range.2 → AckedSince trace value := by
      rcases List.mem_append.mp member with before | now
      · exact bounded.ranges range before
      · exact sound range now
    refine ⟨known.1, ?_⟩
    intro value lower upper
    exact (ackedSince_append others value).mpr
      (Or.inl (known.2 value lower upper))

theorem bounded_cleared : Bounded (trace ++ [ChannelEvent.cleared]) where
  small := by
    rintro value ⟨_, _, member⟩
    rw [sinceClear_cleared] at member
    cases member
  ranges := by
    intro range member
    rw [passRanges, sinceClear_cleared] at member
    cases member

theorem Bounded.encodable (bounded : Bounded trace) {start end_ : Int}
    {node : Ref} (sound : Sound trace channel node start end_) :
    Encodable start end_ := by
  obtain ⟨nonneg, ordered⟩ := sound.ordered
  have last := bounded.small (end_ - 1)
    (sound.acked (end_ - 1) (by omega) (by omega))
  refine ⟨⟨nonneg, ?_⟩, ?_, ?_⟩ <;> omega

theorem Bounded.moved (bounded : Bounded trace)
    (complete : Complete trace channel nodes) (below : BelowLast action)
    (moved : Moved channel action next events) :
    Bounded (trace ++ events) := by
  cases moved with
  | ended position queue phase => exact bounded_cleared
  | yielded position startEq endEq encodable queue phase =>
      have sound := complete.tracks.sound complete.onList position
      rw [startEq, endEq] at sound
      refine bounded.append (by simp) (by simp) ?_
      intro range member
      cases List.mem_singleton.mp member
      exact ⟨sound.ordered.1, sound.acked⟩
  | refused position startEq endEq queue phase =>
      refine bounded.append (by simp) (by simp) ?_
      intro range member
      cases member
  | added adds queue phase tail =>
      have kept := @Moved.added channel action next _ _ adds queue phase tail
      refine bounded.append ?_ ?_ ?_
      · rcases tail with rfl | rfl <;> simp
      · intro deliveryId member
        exact below deliveryId (kept.addedBy_eq member)
      · intro range member
        rcases tail with rfl | rfl <;> cases member
  | idle queue phase =>
      rw [List.append_nil]
      exact bounded

theorem resolves_cleared {service : GatewayChannel}
    (registered : service.Registered) (bounded : Bounded trace)
    (confirmed : ClearsConfirmed trace .cleared) :
    ResolvesAcked service trace .cleared := by
  intro position
  rw [registered.mem_onDeliveries
    (fun range member => (bounded.ranges range member).1)]
  constructor
  · rintro ⟨pending, range, member, lower, upper⟩
    exact ⟨pending, (bounded.ranges range member).2 _ lower upper⟩
  · rintro ⟨pending, acked⟩
    obtain ⟨node, start, end_, sent, lower, upper⟩ := confirmed _ acked
    exact ⟨pending, (start, end_), mem_passRanges.mpr ⟨node, sent⟩, lower,
      upper⟩

theorem resolves_feedback {service : GatewayChannel}
    (registered : service.Registered) {node : Ref} {start end_ : Int}
    (sound : Sound trace channel node start end_)
    (encodable : Encodable start end_) :
    ResolvesAcked service trace (.feedback node start end_ true) :=
  ⟨rfl, encodable, sound.acked,
    fun _ => registered.mem_onDelivery sound.ordered.1⟩

theorem resolves_step {service : GatewayChannel}
    (registered : service.Registered) (bounded : Bounded trace)
    (complete : Complete trace channel nodes)
    (confirmed : EachEvent ClearsConfirmed trace events)
    (stepped : step channel action = some (next, events)) :
    EachEvent (ResolvesAcked service) trace events := by
  have refusals : ∀ {ref start end_},
      .feedback ref start end_ false ∈ events → ¬ Encodable start end_ :=
    step_refused stepped
  cases step_moved stepped with
  | ended position queue phase =>
      exact ⟨resolves_cleared registered bounded confirmed.1, trivial⟩
  | yielded position startEq endEq encodable queue phase =>
      have sound := complete.tracks.sound complete.onList position
      rw [startEq, endEq] at sound
      exact ⟨resolves_feedback registered sound encodable, trivial⟩
  | refused position startEq endEq queue phase =>
      have sound := complete.tracks.sound complete.onList position
      rw [startEq, endEq] at sound
      exact absurd (bounded.encodable sound)
        (refusals (List.mem_singleton.mpr rfl))
  | added adds queue phase tail =>
      rcases tail with rfl | rfl
      · exact ⟨trivial, trivial⟩
      · exact ⟨trivial, trivial, trivial⟩
  | idle queue phase => trivial

/-- In every run of a gateway in which no id is lost and the last value of a
`uint32` is not acknowledged, and for every state of a push service that
reuses no id too early, the ranges fit their fields and resolve exactly the
pending waiters whose ids were acknowledged. -/
theorem ranges_resolve_acked {service : GatewayChannel} {history : List Nat}
    (served : Run GatewayChannel.step GatewayChannel.NumbersFresh {} history
      service)
    (run : Run step KeepsRanges {} trace channel) :
    EachEvent (ResolvesAcked service) [] trace := by
  have registered := GatewayChannel.registered_run served
  have resolves : (∃ nodes, Complete trace channel nodes) ∧
      Bounded trace ∧ EachEvent (ResolvesAcked service) [] trace := by
    apply run.invariant
    · exact ⟨⟨[], complete_of_not_walking tracks_initial
        (fun _ _ _ => Feedback.noConfusion)⟩, bounded_initial, trivial⟩
    · intro trace events channel next action holds permitted stepped
      obtain ⟨⟨nodes, complete⟩, bounded, earlier⟩ := holds
      have moved := step_moved stepped
      have completed := complete.moved permitted.1.1 permitted.1.2 moved
      refine ⟨completed.1, bounded.moved complete permitted.2 moved, ?_⟩
      rw [eachEvent_append]
      exact ⟨earlier, resolves_step registered bounded complete completed.2
        stepped⟩
  exact resolves.2.2

/-- Two events are acknowledged in the other order and confirmed by one
range. -/
theorem ranges_resolve_acked_two :
    ∃ service channel,
      Run GatewayChannel.step GatewayChannel.NumbersFresh {} [] service ∧
      Run step KeepsRanges {}
        [.added 2, .added 1, .feedback 1 1 3 true, .cleared] channel ∧
      EachEvent (ResolvesAcked service) []
        [.added 2, .added 1, .feedback 1 1 3 true, .cleared] := by
  have first := (Run.refl :
    Run GatewayChannel.step GatewayChannel.NumbersFresh {} _ _).act
    (.publish { kind := .notice, addressId := 7 }) rfl rfl
  have served := first.act (.publish { kind := .notice, addressId := 8 }) rfl
    rfl
  have executed : (exec step KeepsRanges {}
      [.ackLog 2, .ackLog 1, .fire 0, .wake, .resume]).map Prod.snd =
      some [.added 2, .added 1, .feedback 1 1 3 true, .cleared] := by
    decide +kernel
  obtain ⟨channel, run⟩ := Run.exists_of_exec executed
  exact ⟨_, channel, served, run, ranges_resolve_acked served run⟩

/-- The range of the last id cannot be sent. -/
theorem last_id_not_sent :
    ∃ channel, AnyRun step {}
        [.added 4294967295, .feedback 1 4294967295 4294967296 false]
        channel ∧
      channel.feedback = .stopped ∧
      ∀ service, ¬ EachEvent (ResolvesAcked service) []
        [.added 4294967295, .feedback 1 4294967295 4294967296 false] := by
  have executed : exec step (fun _ _ => True) {}
      [.ackLog 4294967295, .fire 0, .wake] =
      some (_, [.added 4294967295,
        .feedback 1 4294967295 4294967296 false]) := rfl
  refine ⟨_, Run.of_exec executed, rfl, ?_⟩
  intro service resolves
  cases resolves.2.1.1

end PushChannel

end Push

end TinyChat
