import TinyChat.Push.Collector

/-!
# Which waiters a range resolves

The dictionary of a channel has the waiters that are pending, under the ids
of their events, as long as the counter does not come round to an id that is
still in use.
-/

namespace TinyChat

namespace Push

open Transition

namespace EventChannel

variable {channel : EventChannel}

/-- One iteration resolves the waiter under its id, unless it is done. -/
theorem mem_confirm {deliveryId position : Nat} :
    position ∈ (channel.confirm deliveryId).2 ↔
      channel.done position = false ∧
        channel.confirmations deliveryId = some position := by
  unfold confirm
  split
  · rename_i missing
    simp [missing]
  · rename_i found listed
    split
    · rename_i isDone
      simp only [List.not_mem_nil, listed, Option.some.injEq, false_iff,
        not_and]
      rintro pending rfl
      rw [isDone] at pending
      cases pending
    · rename_i pending
      simp only [List.mem_singleton, listed, Option.some.injEq]
      constructor
      · rintro rfl
        exact ⟨Bool.eq_false_iff.mpr pending, rfl⟩
      · exact fun both => both.2.symm

theorem confirm_done (deliveryId position : Nat) :
    (channel.confirm deliveryId).1.done position = false ↔
      channel.done position = false ∧
        position ∉ (channel.confirm deliveryId).2 := by
  unfold confirm
  split
  · simp
  · split
    · simp
    · rename_i found _ pending
      by_cases same : position = found
      · subst same
        simp
      · simp [same]

theorem confirm_frame (channel : EventChannel) (deliveryId : Nat) :
    ∃ done,
      (channel.confirm deliveryId).1 = { channel with done := done } := by
  unfold confirm
  split
  · exact ⟨channel.done, rfl⟩
  · split
    · exact ⟨channel.done, rfl⟩
    · exact ⟨_, rfl⟩

/-- Confirmations change nothing but which waiters are done. -/
theorem confirmAll_frame (channel : EventChannel) (ids : List Nat) :
    ∃ done, (channel.confirmAll ids).1 = { channel with done := done } := by
  induction ids generalizing channel with
  | nil => exact ⟨channel.done, rfl⟩
  | cons deliveryId ids induction =>
      obtain ⟨first, changed⟩ := channel.confirm_frame deliveryId
      obtain ⟨done, rest⟩ := induction (channel.confirm deliveryId).1
      refine ⟨done, ?_⟩
      simp only [confirmAll]
      rw [rest, changed]

theorem confirm_confirmations (deliveryId : Nat) :
    (channel.confirm deliveryId).1.confirmations =
      channel.confirmations := by
  obtain ⟨done, changed⟩ := channel.confirm_frame deliveryId
  rw [changed]

theorem mem_confirmAll {ids : List Nat} {position : Nat} :
    position ∈ (channel.confirmAll ids).2 ↔
      channel.done position = false ∧
        ∃ deliveryId ∈ ids,
          channel.confirmations deliveryId = some position := by
  induction ids generalizing channel with
  | nil => simp [confirmAll]
  | cons deliveryId ids induction =>
      simp only [confirmAll, List.mem_append, mem_confirm, induction,
        confirm_done, confirm_confirmations, List.mem_cons,
        exists_eq_or_imp]
      tauto

theorem confirmAll_done (ids : List Nat) (position : Nat) :
    (channel.confirmAll ids).1.done position = false ↔
      channel.done position = false ∧
        position ∉ (channel.confirmAll ids).2 := by
  induction ids generalizing channel with
  | nil => simp [confirmAll]
  | cons deliveryId ids induction =>
      simp only [confirmAll, List.mem_append, induction, confirm_done]
      tauto

theorem mem_range {start end_ : Int} (nonneg : 0 ≤ start)
    {deliveryId : Nat} :
    deliveryId ∈ range start end_ ↔
      start ≤ deliveryId ∧ (deliveryId : Int) < end_ := by
  rw [range, List.mem_range'_1]
  omega

/-- The counter is the number of events, and an entry of the dictionary is
under the id of its event. -/
structure Numbered (channel : EventChannel) : Prop where
  counter : channel.deliveryId = channel.events.length % maxInt32
  entries : ∀ deliveryId position,
    channel.confirmations deliveryId = some position →
    deliveryId = idOf position

theorem numbered_initial : Numbered {} := ⟨rfl, nofun⟩

theorem Numbered.publish (numbered : Numbered channel) (event : PushEvent) :
    Numbered (channel.publish event) := by
  have next : (channel.deliveryId + 1) % maxInt32 =
      idOf channel.events.length := by
    rw [numbered.counter, idOf, Nat.mod_add_mod]
  constructor
  · simp only [EventChannel.publish, next, idOf, List.length_append,
      List.length_singleton]
  · intro deliveryId position found
    simp only [EventChannel.publish, Function.update_apply] at found
    split at found
    · rename_i same
      cases found
      rw [same, next]
    · exact numbered.entries deliveryId position found

theorem Numbered.onDelivery (numbered : Numbered channel)
    (start end_ : Int) : Numbered (channel.onDelivery start end_).1 := by
  obtain ⟨done, changed⟩ := channel.confirmAll_frame (range start end_)
  rw [EventChannel.onDelivery, changed]
  exact ⟨numbered.counter, numbered.entries⟩

theorem Numbered.forget (numbered : Numbered channel) (position : Nat) :
    Numbered (channel.forget position) := by
  refine ⟨numbered.counter, ?_⟩
  intro deliveryId other found
  simp only [EventChannel.forget, Function.update_apply] at found
  split at found
  · cases found
  · exact numbered.entries deliveryId other found

end EventChannel

namespace GatewayChannel

variable {gateway : GatewayChannel}

/-- The waiter of a published event has no result yet. -/
def Pending (gateway : GatewayChannel) (position : Nat) : Prop :=
  position < gateway.channel.events.length ∧
    gateway.channel.done position = false

/-- Every waiter that is pending, or whose callback has still to run, is in
the dictionary under the id of its event. -/
structure Registered (gateway : GatewayChannel) : Prop where
  numbered : gateway.channel.Numbered
  known : ∀ deliveryId position,
    gateway.channel.confirmations deliveryId = some position →
    position < gateway.channel.events.length
  pending : ∀ position, gateway.Pending position →
    gateway.channel.confirmations (EventChannel.idOf position) =
      some position
  callbacks : ∀ position ∈ gateway.callbacks,
    gateway.channel.confirmations (EventChannel.idOf position) =
      some position ∧ gateway.channel.done position = true
  undone : ∀ position, gateway.channel.events.length ≤ position →
    gateway.channel.done position = false

theorem registered_initial : Registered {} where
  numbered := EventChannel.numbered_initial
  known := nofun
  pending := fun _ pending => absurd pending.1 (Nat.not_lt_zero _)
  callbacks := fun _ member => absurd member List.not_mem_nil
  undone := fun _ _ => rfl

theorem Registered.nextId_eq (registered : Registered gateway) :
    gateway.nextId =
      EventChannel.idOf gateway.channel.events.length := by
  rw [nextId, registered.numbered.counter, EventChannel.idOf,
    Nat.mod_add_mod]

theorem Registered.mem_onDelivery (registered : Registered gateway)
    {status : PubStatus} {start end_ : Int} (nonneg : 0 ≤ start)
    {position : Nat} :
    position ∈ (gateway.onDelivery status start end_).2 ↔
      gateway.Pending position ∧
        start ≤ EventChannel.idOf position ∧
        (EventChannel.idOf position : Int) < end_ := by
  simp only [onDelivery, EventChannel.onDelivery,
    EventChannel.mem_confirmAll, EventChannel.mem_range nonneg]
  constructor
  · rintro ⟨undone, deliveryId, inRange, listed⟩
    rw [registered.numbered.entries deliveryId position listed] at inRange
    exact ⟨⟨registered.known deliveryId position listed, undone⟩, inRange⟩
  · rintro ⟨pending, inRange⟩
    exact ⟨pending.2, EventChannel.idOf position, inRange,
      registered.pending position pending⟩

theorem Registered.publish (registered : Registered gateway)
    (event : PushEvent)
    (fresh : gateway.channel.confirmations gateway.nextId = none) :
    Registered (gateway.publish event) := by
  have next := registered.nextId_eq
  have others : ∀ position,
      gateway.channel.confirmations (EventChannel.idOf position) =
        some position →
      Function.update gateway.channel.confirmations gateway.nextId
        (some gateway.channel.events.length)
        (EventChannel.idOf position) = some position := by
    intro position listed
    have different : EventChannel.idOf position ≠ gateway.nextId := by
      intro same
      rw [same, fresh] at listed
      cases listed
    rw [Function.update_of_ne different]
    exact listed
  constructor
  case numbered => exact registered.numbered.publish event
  case known =>
    intro deliveryId position listed
    simp only [GatewayChannel.publish, EventChannel.publish,
      Function.update_apply, List.length_append,
      List.length_singleton] at listed ⊢
    split at listed
    · cases listed
      exact Nat.lt_succ_self _
    · exact Nat.lt_succ_of_lt (registered.known deliveryId position listed)
  case pending =>
    intro position pending
    obtain ⟨bound, undone⟩ := pending
    simp only [GatewayChannel.publish, EventChannel.publish,
      List.length_append, List.length_singleton] at bound undone ⊢
    rcases Nat.lt_succ_iff_lt_or_eq.mp bound with earlier | now
    · exact others position (registered.pending position ⟨earlier, undone⟩)
    · rw [now, ← next]
      exact Function.update_self ..
  case callbacks =>
    intro position member
    obtain ⟨listed, isDone⟩ := registered.callbacks position member
    exact ⟨others position listed, isDone⟩
  case undone =>
    intro position bound
    simp only [GatewayChannel.publish, EventChannel.publish,
      List.length_append, List.length_singleton] at bound
    exact registered.undone position (Nat.le_of_succ_le bound)

theorem Registered.resolve (registered : Registered gateway)
    {done : Nat → Bool} {status : Nat → Option PubStatus}
    {resolved : List Nat}
    (doneIff : ∀ position, done position = false ↔
      gateway.channel.done position = false ∧ position ∉ resolved)
    (pending : ∀ position ∈ resolved, gateway.Pending position) :
    Registered
      { channel := { gateway.channel with done := done }
        status := status
        callbacks := gateway.callbacks ++ resolved } := by
  constructor
  case numbered =>
    exact ⟨registered.numbered.counter, registered.numbered.entries⟩
  case known => exact registered.known
  case pending =>
    intro position still
    exact registered.pending position
      ⟨still.1, ((doneIff position).mp still.2).1⟩
  case callbacks =>
    intro position member
    rcases List.mem_append.mp member with earlier | now
    · obtain ⟨listed, isDone⟩ := registered.callbacks position earlier
      refine ⟨listed, ?_⟩
      cases changed : done position with
      | true => exact changed
      | false =>
          rw [((doneIff position).mp changed).1] at isDone
          cases isDone
    · refine ⟨registered.pending position (pending position now), ?_⟩
      cases changed : done position with
      | true => exact changed
      | false => exact absurd now ((doneIff position).mp changed).2
  case undone =>
    intro position bound
    refine (doneIff position).mpr ⟨registered.undone position bound, ?_⟩
    intro member
    exact absurd (pending position member).1 (Nat.not_lt_of_le bound)

theorem onDelivery_done (status : PubStatus) (start end_ : Int)
    (position : Nat) :
    (gateway.onDelivery status start end_).1.channel.done position =
        false ↔
      gateway.channel.done position = false ∧
        position ∉ (gateway.onDelivery status start end_).2 :=
  EventChannel.confirmAll_done _ _

theorem onDelivery_status (status : PubStatus) (start end_ : Int)
    (position : Nat) :
    (gateway.onDelivery status start end_).1.status position =
      if position ∈ (gateway.onDelivery status start end_).2 then
        some status
      else gateway.status position :=
  rfl

theorem onDelivery_events (status : PubStatus) (start end_ : Int) :
    (gateway.onDelivery status start end_).1.channel.events =
      gateway.channel.events := by
  obtain ⟨done, changed⟩ :=
    gateway.channel.confirmAll_frame (EventChannel.range start end_)
  simp only [GatewayChannel.onDelivery, EventChannel.onDelivery, changed]

theorem onDelivery_pending (status : PubStatus) (start end_ : Int)
    (position : Nat) :
    (gateway.onDelivery status start end_).1.Pending position ↔
      gateway.Pending position ∧
        position ∉ (gateway.onDelivery status start end_).2 := by
  simp only [Pending, onDelivery_done, onDelivery_events, and_assoc]

theorem Registered.onDelivery (registered : Registered gateway)
    (status : PubStatus) {start : Int} (nonneg : 0 ≤ start) (end_ : Int) :
    Registered (gateway.onDelivery status start end_).1 := by
  obtain ⟨done, changed⟩ :=
    gateway.channel.confirmAll_frame (EventChannel.range start end_)
  have resolved : Registered
      { channel := { gateway.channel with done := done }
        status := (gateway.onDelivery status start end_).1.status
        callbacks := gateway.callbacks ++
          (gateway.onDelivery status start end_).2 } := by
    refine registered.resolve ?_ ?_
    · intro position
      have doneIff := @EventChannel.confirmAll_done gateway.channel
        (EventChannel.range start end_) position
      rw [changed] at doneIff
      exact doneIff
    · intro position member
      exact ((registered.mem_onDelivery nonneg).mp member).1
  have same : (gateway.onDelivery status start end_).1 =
      { channel := { gateway.channel with done := done }
        status := (gateway.onDelivery status start end_).1.status
        callbacks := gateway.callbacks ++
          (gateway.onDelivery status start end_).2 } := by
    simp only [GatewayChannel.onDelivery, EventChannel.onDelivery, changed]
  rw [same]
  exact resolved

theorem Registered.giveUp (registered : Registered gateway)
    {position : Nat} (known : position < gateway.channel.events.length)
    (status : Option PubStatus) :
    Registered (gateway.giveUp position status) := by
  unfold GatewayChannel.giveUp
  split
  · exact registered
  · rename_i undone
    refine registered.resolve ?_ ?_
    · intro other
      by_cases same : other = position
      · subst same
        simp
      · simp [same]
    · intro other member
      rw [List.mem_singleton.mp member]
      exact ⟨known, Bool.eq_false_iff.mpr undone⟩

theorem Registered.callback (registered : Registered gateway)
    {position : Nat} (scheduled : position ∈ gateway.callbacks) :
    Registered (gateway.callback position) := by
  obtain ⟨entry, isDone⟩ := registered.callbacks position scheduled
  have kept : ∀ other, other ≠ position →
      gateway.channel.confirmations (EventChannel.idOf other) =
        some other →
      Function.update gateway.channel.confirmations
        (EventChannel.idOf position) none (EventChannel.idOf other) =
        some other := by
    intro other different listed
    have apart :
        EventChannel.idOf other ≠ EventChannel.idOf position := by
      intro same
      rw [same, entry] at listed
      exact different (Option.some.inj listed).symm
    rw [Function.update_of_ne apart]
    exact listed
  constructor
  case numbered => exact registered.numbered.forget position
  case known =>
    intro deliveryId other listed
    simp only [GatewayChannel.callback, EventChannel.forget,
      Function.update_apply] at listed
    split at listed
    · cases listed
    · exact registered.known deliveryId other listed
  case pending =>
    intro other pending
    refine kept other ?_ (registered.pending other pending)
    rintro rfl
    have undone : gateway.channel.done other = false := pending.2
    rw [isDone] at undone
    cases undone
  case callbacks =>
    intro other member
    obtain ⟨listed, different⟩ := List.mem_filter.mp member
    obtain ⟨found, otherDone⟩ := registered.callbacks other listed
    exact ⟨kept other (by simpa using different) found, otherDone⟩
  case undone => exact registered.undone

theorem Registered.dispatch (registered : Registered gateway) :
    Registered gateway.dispatch where
  numbered := ⟨registered.numbered.counter, registered.numbered.entries⟩
  known := registered.known
  pending := registered.pending
  callbacks := registered.callbacks
  undone := registered.undone

/-- An event gets an id that is not in use any more, and only published
events are given up. -/
def NumbersFresh (gateway : GatewayChannel) : GatewayAction → Prop
  | .publish _ => gateway.channel.confirmations gateway.nextId = none
  | .giveUp position _ => position < gateway.channel.events.length
  | _ => True

theorem registered_run {history : List Nat}
    (run : Run step NumbersFresh {} history gateway) :
    Registered gateway := by
  refine run.state_invariant registered_initial ?_
  intro events gateway next action registered fresh stepped
  cases action with
  | publish event =>
      cases stepped
      exact registered.publish event fresh
  | onDelivery status start end_ =>
      cases stepped
      exact registered.onDelivery status (Int.natCast_nonneg start) end_
  | giveUp position status =>
      cases stepped
      exact registered.giveUp fresh status
  | callback position =>
      simp only [step] at stepped
      split at stepped
      · rename_i scheduled
        cases stepped
        exact registered.callback scheduled
      · cases stepped
  | dispatch =>
      cases stepped
      exact registered.dispatch

end GatewayChannel

end Push

end TinyChat
