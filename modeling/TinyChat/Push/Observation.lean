import TinyChat.Push.Confirmations

/-!
# What the waiters of a handler know

The first feedback of a gateway that covers the event of a handler decides
how the gateway has confirmed it.  As long as a handler has not given up, the
waiter of its event knows this feedback.
-/

namespace TinyChat

open Transition

namespace Push

theorem GatewayChannel.Registered.onDelivery_result
    {gateway : GatewayChannel} (registered : gateway.Registered)
    (status : PubStatus) {start position : Nat} (end_ : Nat)
    {before : Option PubStatus}
    (bound : position < gateway.channel.events.length)
    (done : gateway.channel.done position = before.isSome)
    (result : gateway.status position = before) :
    let after := before.or
      (if start ≤ EventChannel.idOf position ∧
          EventChannel.idOf position < end_ then some status
        else none)
    (gateway.onDelivery status start end_).1.channel.done position =
        after.isSome ∧
      (gateway.onDelivery status start end_).1.status position =
        after := by
  have resolved : position ∈ (gateway.onDelivery status start end_).2 ↔
      before = none ∧ start ≤ EventChannel.idOf position ∧
        EventChannel.idOf position < end_ := by
    rw [registered.mem_onDelivery (Int.natCast_nonneg start), Pending, done]
    simp [bound]
  have stillDone := @onDelivery_done gateway status start end_ position
  intro after
  rw [onDelivery_status]
  cases before with
  | some known =>
      have skipped : position ∉
          (gateway.onDelivery status start end_).2 := by
        rw [resolved]
        rintro ⟨missing, -⟩
        cases missing
      rw [if_neg skipped, result]
      refine ⟨?_, rfl⟩
      cases changed :
        (gateway.onDelivery status start end_).1.channel.done position with
      | true => rfl
      | false =>
          rw [(stillDone.mp changed).1] at done
          cases done
  | none =>
      by_cases covers : start ≤ EventChannel.idOf position ∧
          EventChannel.idOf position < end_
      · have member := resolved.mpr ⟨rfl, covers⟩
        have now : after = some status := if_pos covers
        rw [if_pos member, now]
        refine ⟨?_, rfl⟩
        cases changed :
          (gateway.onDelivery status start end_).1.channel.done
            position with
        | true => rfl
        | false => exact absurd member (stillDone.mp changed).2
      · have skipped : position ∉
            (gateway.onDelivery status start end_).2 :=
          fun member => covers (resolved.mp member).2
        have now : after = none := if_neg covers
        rw [if_neg skipped, result, now]
        exact ⟨stillDone.mpr ⟨done, skipped⟩, rfl⟩

namespace PushServicer

variable {Addr : Type} [DecidableEq Addr]

/-- The position of the event that a handler has published to a gateway, and
the status in the first feedback of the gateway that covers its id. -/
def observe (handler : Nat) (addr : Addr) :
    Option (Nat × Option PubStatus) → ServicerEvent Addr →
      Option (Nat × Option PubStatus)
  | none, .published other target position =>
      if other = handler ∧ target = addr then some (position, none)
      else none
  | some (position, none), .feedback source status start end_ =>
      if source = addr ∧ start ≤ EventChannel.idOf position ∧
          EventChannel.idOf position < end_ then
        some (position, some status)
      else some (position, none)
  | seen, _ => seen

def observed (trace : List (ServicerEvent Addr)) (handler : Nat)
    (addr : Addr) : Option (Nat × Option PubStatus) :=
  trace.foldl (observe handler addr) none

/-- How a gateway has confirmed the event of a handler. -/
def confirmation (trace : List (ServicerEvent Addr)) (handler : Nat)
    (addr : Addr) : Option PubStatus :=
  (observed trace handler addr).bind Prod.snd

theorem observed_snoc (trace : List (ServicerEvent Addr))
    (event : ServicerEvent Addr) (handler : Nat) (addr : Addr) :
    observed (trace ++ [event]) handler addr =
      observe handler addr (observed trace handler addr) event := by
  rw [observed, List.foldl_append]
  rfl

/-- The events that change nothing of what was observed. -/
def Quiet : ServicerEvent Addr → Prop
  | .published _ _ _ | .feedback _ _ _ _ => False
  | _ => True

theorem observed_quiet {event : ServicerEvent Addr} (quiet : Quiet event)
    (trace : List (ServicerEvent Addr)) :
    observed (trace ++ [event]) = observed trace := by
  funext handler addr
  rw [observed_snoc]
  cases observed trace handler addr with
  | none =>
      cases event with
      | published => exact quiet.elim
      | started | feedback | deadline | returned | raised => rfl
  | some seen =>
      obtain ⟨position, status⟩ := seen
      cases status with
      | none =>
          cases event with
          | feedback => exact quiet.elim
          | started | published | deadline | returned | raised => rfl
      | some status => rfl

theorem observed_published (trace : List (ServicerEvent Addr))
    (handler other : Nat) (addr target : Addr) (position : Nat) :
    observed (trace ++ [ServicerEvent.published other target position])
        handler addr =
      match observed trace handler addr with
      | none =>
          if other = handler ∧ target = addr then some (position, none)
          else none
      | some seen => some seen := by
  rw [observed_snoc]
  cases observed trace handler addr with
  | none => rfl
  | some seen =>
      obtain ⟨position, status⟩ := seen
      cases status with
      | none | some => rfl

theorem observed_of_published {trace : List (ServicerEvent Addr)}
    {handler other : Nat} {addr target : Addr} {position place : Nat}
    {status : Option PubStatus}
    (found : observed (trace ++ [ServicerEvent.published other target place])
      handler addr = some (position, status)) :
    observed trace handler addr = some (position, status) ∨
      handler = other ∧ addr = target ∧ position = place ∧
        status = none := by
  rw [observed_published] at found
  split at found
  · split at found
    · rename_i both
      cases found
      exact .inr ⟨both.1.symm, both.2.symm, rfl, rfl⟩
    · cases found
  · rename_i before same
    exact .inl (same.trans found)

theorem observed_feedback (trace : List (ServicerEvent Addr))
    (handler : Nat) (addr source : Addr) (status : PubStatus)
    (start end_ : Nat) :
    observed (trace ++ [ServicerEvent.feedback source status start end_])
        handler addr =
      (observed trace handler addr).map (fun seen =>
        (seen.1, seen.2.or
          (if source = addr ∧ start ≤ EventChannel.idOf seen.1 ∧
              EventChannel.idOf seen.1 < end_ then some status
            else none))) := by
  rw [observed_snoc]
  cases observed trace handler addr with
  | none => rfl
  | some seen =>
      obtain ⟨position, confirmed⟩ := seen
      cases confirmed with
      | some confirmed => rfl
      | none =>
          simp only [observe, Option.map_some, Option.none_or]
          split <;> rfl

theorem observed_of_feedback {trace : List (ServicerEvent Addr)}
    {handler : Nat} {addr source : Addr} {status : PubStatus}
    {start end_ position : Nat} {result : Option PubStatus}
    (found : observed
      (trace ++ [ServicerEvent.feedback source status start end_]) handler
        addr = some (position, result)) :
    ∃ before, observed trace handler addr = some (position, before) ∧
      result = before.or
        (if source = addr ∧ start ≤ EventChannel.idOf position ∧
            EventChannel.idOf position < end_ then some status
          else none) := by
  rw [observed_feedback] at found
  obtain ⟨⟨place, before⟩, seen, same⟩ := Option.map_eq_some_iff.mp found
  simp only [Prod.mk.injEq] at same
  obtain ⟨rfl, rfl⟩ := same
  exact ⟨before, seen, rfl⟩

/-- Every observed event is at its gateway, and belongs to one handler; the
waiters of the handlers that have not given up know its first feedback. -/
structure Agrees (active : Nat → Prop)
    (seen : Nat → Addr → Option (Nat × Option PubStatus))
    (channels : Addr → Option GatewayChannel) : Prop where
  registered : ∀ addr gateway, channels addr = some gateway →
    gateway.Registered
  unresolved : ∀ addr gateway position, channels addr = some gateway →
    gateway.channel.events.length ≤ position →
    gateway.status position = none
  owner : ∀ handler other addr position first second,
    seen handler addr = some (position, first) →
    seen other addr = some (position, second) → handler = other
  known : ∀ handler addr position status,
    seen handler addr = some (position, status) →
    ∃ gateway, channels addr = some gateway ∧
      position < gateway.channel.events.length ∧
      (active handler →
        gateway.channel.done position = status.isSome ∧
          gateway.status position = status)

namespace Agrees

variable {active : Nat → Prop}
  {seen : Nat → Addr → Option (Nat × Option PubStatus)}
  {channels : Addr → Option GatewayChannel}

omit [DecidableEq Addr] in
theorem mono {fewer : Nat → Prop} (agrees : Agrees active seen channels)
    (implies : ∀ handler, fewer handler → active handler) :
    Agrees fewer seen channels where
  registered := agrees.registered
  unresolved := agrees.unresolved
  owner := agrees.owner
  known := by
    intro handler addr position status found
    obtain ⟨gateway, listed, bound, knows⟩ :=
      agrees.known handler addr position status found
    exact ⟨gateway, listed, bound, fun still => knows (implies _ still)⟩

theorem withChannel (agrees : Agrees active seen channels) (addr : Addr)
    {following : GatewayChannel} (registered : following.Registered)
    (unresolved : ∀ position,
      following.channel.events.length ≤ position →
      following.status position = none)
    (grown : ∀ gateway, channels addr = some gateway →
      gateway.channel.events.length ≤ following.channel.events.length)
    (kept : ∀ gateway handler position status,
      channels addr = some gateway → active handler →
      seen handler addr = some (position, status) →
      following.channel.done position = gateway.channel.done position ∧
        following.status position = gateway.status position) :
    Agrees active seen
      (Function.update channels addr (some following)) := by
  constructor
  case registered =>
    intro other gateway listed
    by_cases same : other = addr
    · rw [same, Function.update_self] at listed
      cases listed
      exact registered
    · rw [Function.update_of_ne same] at listed
      exact agrees.registered other gateway listed
  case unresolved =>
    intro other gateway position listed bound
    by_cases same : other = addr
    · rw [same, Function.update_self] at listed
      cases listed
      exact unresolved position bound
    · rw [Function.update_of_ne same] at listed
      exact agrees.unresolved other gateway position listed bound
  case owner => exact agrees.owner
  case known =>
    intro handler other position status found
    obtain ⟨gateway, listed, bound, knows⟩ :=
      agrees.known handler other position status found
    by_cases same : other = addr
    · subst same
      refine ⟨following, Function.update_self .., ?_, ?_⟩
      · exact Nat.lt_of_lt_of_le bound (grown gateway listed)
      · intro still
        obtain ⟨done, result⟩ :=
          kept gateway handler position status listed still found
        rw [done, result]
        exact knows still
    · refine ⟨gateway, ?_, bound, knows⟩
      rw [Function.update_of_ne same]
      exact listed

theorem subscribe (agrees : Agrees active seen channels) {addr : Addr}
    (missing : channels addr = none) :
    Agrees active seen (Function.update channels addr (some {})) := by
  refine agrees.withChannel addr GatewayChannel.registered_initial
    (fun _ _ => rfl) ?_ ?_
  · intro gateway listed
    rw [missing] at listed
    cases listed
  · intro gateway handler position status listed
    rw [missing] at listed
    cases listed

theorem replace (agrees : Agrees active seen channels) {addr : Addr}
    {gateway following : GatewayChannel}
    (listed : channels addr = some gateway)
    (registered : following.Registered)
    (unresolved : ∀ position,
      following.channel.events.length ≤ position →
      following.status position = none)
    (grown : gateway.channel.events.length ≤
      following.channel.events.length)
    (kept : ∀ handler position status, active handler →
      seen handler addr = some (position, status) →
      following.channel.done position = gateway.channel.done position ∧
        following.status position = gateway.status position) :
    Agrees active seen
      (Function.update channels addr (some following)) := by
  refine agrees.withChannel addr registered unresolved ?_ ?_
  · intro other found
    rw [listed] at found
    cases found
    exact grown
  · intro other handler position status found
    rw [listed] at found
    cases found
    exact kept handler position status

theorem dispatch (agrees : Agrees active seen channels) {addr : Addr}
    {gateway : GatewayChannel} (listed : channels addr = some gateway) :
    Agrees active seen
      (Function.update channels addr (some gateway.dispatch)) :=
  agrees.replace listed (agrees.registered addr gateway listed).dispatch
    (fun position => agrees.unresolved addr gateway position listed)
    (Nat.le_refl _) (fun _ _ _ _ _ => ⟨rfl, rfl⟩)

theorem callback (agrees : Agrees active seen channels) {addr : Addr}
    {gateway : GatewayChannel} (listed : channels addr = some gateway)
    {position : Nat} (scheduled : position ∈ gateway.callbacks) :
    Agrees active seen
      (Function.update channels addr (some (gateway.callback position))) :=
  agrees.replace listed
    ((agrees.registered addr gateway listed).callback scheduled)
    (fun position => agrees.unresolved addr gateway position listed)
    (Nat.le_refl _) (fun _ _ _ _ _ => ⟨rfl, rfl⟩)

omit [DecidableEq Addr] in
theorem bound (agrees : Agrees active seen channels) {addr : Addr}
    {gateway : GatewayChannel} (listed : channels addr = some gateway)
    {handler position : Nat} {status : Option PubStatus}
    (found : seen handler addr = some (position, status)) :
    position < gateway.channel.events.length := by
  obtain ⟨other, same, bound, -⟩ :=
    agrees.known handler addr position status found
  rw [listed] at same
  cases same
  exact bound

theorem giveUp (agrees : Agrees active seen channels) {addr : Addr}
    {gateway : GatewayChannel} (listed : channels addr = some gateway)
    {handler position : Nat} {status : Option PubStatus}
    (own : seen handler addr = some (position, status))
    (inactive : ¬ active handler) (result : Option PubStatus) :
    Agrees active seen (Function.update channels addr
      (some (gateway.giveUp position result))) := by
  have bound := agrees.bound listed own
  have events : (gateway.giveUp position result).channel.events =
      gateway.channel.events := by
    unfold GatewayChannel.giveUp
    split <;> rfl
  have others : ∀ other, other ≠ position →
      (gateway.giveUp position result).channel.done other =
          gateway.channel.done other ∧
        (gateway.giveUp position result).status other =
          gateway.status other := by
    intro other different
    unfold GatewayChannel.giveUp
    split
    · exact ⟨rfl, rfl⟩
    · exact ⟨Function.update_of_ne different ..,
        Function.update_of_ne different ..⟩
  refine agrees.replace listed
    ((agrees.registered addr gateway listed).giveUp bound result) ?_ ?_ ?_
  · intro other outside
    rw [events] at outside
    rw [(others other (by omega)).2]
    exact agrees.unresolved addr gateway other listed outside
  · rw [events]
  · intro waiting place confirmed still observed
    refine others place ?_
    rintro rfl
    have same := agrees.owner _ _ _ _ _ _ observed own
    exact inactive (same ▸ still)

theorem publish {trace : List (ServicerEvent Addr)}
    (agrees : Agrees active (observed trace) channels) {addr : Addr}
    {gateway : GatewayChannel} (listed : channels addr = some gateway)
    (fresh : gateway.channel.confirmations gateway.nextId = none)
    (handler : Nat) (event : PushEvent) :
    Agrees active
      (observed (trace ++
        [ServicerEvent.published handler addr gateway.channel.events.length]))
      (Function.update channels addr (some (gateway.publish event))) := by
  have length : (gateway.publish event).channel.events.length =
      gateway.channel.events.length + 1 := by
    simp [GatewayChannel.publish, EventChannel.publish]
  have changed : Agrees active (observed trace)
      (Function.update channels addr (some (gateway.publish event))) := by
    refine agrees.replace listed
      ((agrees.registered addr gateway listed).publish event fresh)
      ?_ ?_ (fun _ _ _ _ _ => ⟨rfl, rfl⟩)
    · intro position outside
      rw [length] at outside
      exact agrees.unresolved addr gateway position listed (by omega)
    · omega
  constructor
  case registered => exact changed.registered
  case unresolved => exact changed.unresolved
  case owner =>
    intro first second target position one two found also
    rcases observed_of_published found with old | ⟨rfl, rfl, rfl, rfl⟩
    · rcases observed_of_published also with older | ⟨rfl, rfl, rfl, rfl⟩
      · exact agrees.owner _ _ _ _ _ _ old older
      · exact absurd (agrees.bound listed old) (Nat.lt_irrefl _)
    · rcases observed_of_published also with older | ⟨rfl, -, -, -⟩
      · exact absurd (agrees.bound listed older) (Nat.lt_irrefl _)
      · rfl
  case known =>
    intro other target position status found
    rcases observed_of_published found with old | ⟨rfl, rfl, rfl, rfl⟩
    · exact changed.known _ _ _ _ old
    · refine ⟨gateway.publish event, Function.update_self .., ?_, ?_⟩
      · rw [length]
        exact Nat.lt_succ_self _
      · intro _
        exact ⟨(agrees.registered target gateway listed).undone _
            (Nat.le_refl _),
          agrees.unresolved target gateway _ listed (Nat.le_refl _)⟩

/-- A feedback is the first one that covers an event exactly if it resolves
the waiter. -/
theorem feedback {trace : List (ServicerEvent Addr)}
    (agrees : Agrees active (observed trace) channels) {addr : Addr}
    {gateway : GatewayChannel} (listed : channels addr = some gateway)
    (status : PubStatus) (start end_ : Nat) :
    Agrees active
      (observed (trace ++ [ServicerEvent.feedback addr status start end_]))
      (Function.update channels addr
        (some (gateway.onDelivery status start end_).1)) := by
  have registered := agrees.registered addr gateway listed
  have nonneg : (0 : Int) ≤ start := Int.natCast_nonneg start
  constructor
  case registered =>
    intro other found member
    by_cases same : other = addr
    · rw [same, Function.update_self] at member
      cases member
      exact registered.onDelivery status nonneg end_
    · rw [Function.update_of_ne same] at member
      exact agrees.registered other found member
  case unresolved =>
    intro other found position member outside
    by_cases same : other = addr
    · rw [same, Function.update_self] at member
      cases member
      rw [GatewayChannel.onDelivery_events] at outside
      have skipped : position ∉
          (gateway.onDelivery status start end_).2 := by
        intro resolved
        have pending := ((registered.mem_onDelivery nonneg).mp resolved).1
        exact absurd pending.1 (Nat.not_lt_of_le outside)
      rw [GatewayChannel.onDelivery_status, if_neg skipped]
      exact agrees.unresolved addr gateway position listed outside
    · rw [Function.update_of_ne same] at member
      exact agrees.unresolved other found position member outside
  case owner =>
    intro first second target position one two found also
    obtain ⟨before, seen, -⟩ := observed_of_feedback found
    obtain ⟨earlier, known, -⟩ := observed_of_feedback also
    exact agrees.owner _ _ _ _ _ _ seen known
  case known =>
    intro handler target position result found
    obtain ⟨before, seen, rfl⟩ := observed_of_feedback found
    obtain ⟨other, member, bound, knows⟩ := agrees.known _ _ _ _ seen
    by_cases same : target = addr
    · subst same
      rw [listed] at member
      cases member
      refine ⟨_, Function.update_self .., ?_, ?_⟩
      · rw [GatewayChannel.onDelivery_events]
        exact bound
      · intro still
        obtain ⟨done, current⟩ := knows still
        simpa only [true_and] using
          registered.onDelivery_result status end_ bound done current
    · refine ⟨other, ?_, bound, ?_⟩
      · rw [Function.update_of_ne same]
        exact member
      · rw [if_neg (fun both => same both.1.symm), Option.or_none]
        exact knows

end Agrees

end PushServicer

end Push

end TinyChat
