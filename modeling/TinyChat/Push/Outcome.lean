import Mathlib.Data.List.TakeWhile
import TinyChat.Push.Observation

/-!
# The outcome of a push

A handler returns what its waiters know of the confirmations of all gateways,
provided that all of them have subscribed and that its events get into the
queues before its deadline.
-/

namespace TinyChat

open Transition

namespace Push

namespace PushServicer

variable {Addr : Type} [DecidableEq Addr]

/-- A handler that has found gateways returns `PUSH_SUCCESS` exactly if all
of them have confirmed its event with it, and `PUSH_TIMEOUT` if one of them
has not confirmed it; no handler raises. -/
def ReturnsOutcome (before : List (ServicerEvent Addr)) :
    ServicerEvent Addr → Prop
  | .returned handler status => ∀ addrs,
      .started handler addrs ∈ before → addrs ≠ [] →
      (status = .success ↔ ∀ addr ∈ addrs,
        confirmation before handler addr = some .success) ∧
      ((∃ addr ∈ addrs, confirmation before handler addr = none) →
        status = .timeout)
  | .raised _ => False
  | _ => True

/-- A handler has returned when its deadline has passed. -/
def ReturnsInTime (trace : List (ServicerEvent Addr))
    (servicer : PushServicer Addr) : Prop :=
  ∀ handler, .deadline handler ∈ trace →
    ∃ status, servicer.handlers handler = .returned status

/-- The next event of a gateway gets an id that is not in use any more. -/
def FreshId (servicer : PushServicer Addr) (addr : Addr) : Prop :=
  ∀ gateway ∈ servicer.channels addr,
    gateway.channel.confirmations gateway.nextId = none

/-- All gateways of the hash have subscribed, no id is reused while it is in
use, and no deadline passes while an event waits to be put into a queue. -/
def Served (servicer : PushServicer Addr) : ServicerAction Addr → Prop
  | .handle _ _ (.success _) addrs =>
      ∀ addr ∈ addrs, (servicer.channels addr).isSome ∧
        (addrs.length = 1 → servicer.FreshId addr)
  | .publish _ _ addr => servicer.FreshId addr
  | .deadline handler => ∀ single unsent waiters,
      servicer.handlers handler ≠ .sending single unsent waiters
  | _ => True

/-- What a handler that collects confirmations has done: it has begun with
the addresses, has published to those that are not left and has their
waiters. -/
structure Collects (trace : List (ServicerEvent Addr)) (handler : Nat)
    (addrs unsent : List Addr) (waiters : List (Waiter Addr)) : Prop where
  started : ∀ others, .started handler others ∈ trace → others = addrs
  inTime : .deadline handler ∉ trace
  distinct : unsent.Nodup
  unobserved : ∀ addr ∈ unsent, observed trace handler addr = none
  awaited : ∀ waiter ∈ waiters, ∃ status,
    observed trace handler waiter.1 = some (waiter.2, status)
  members : ∀ addr, addr ∈ addrs ↔
    addr ∈ unsent ∨ ∃ position, (addr, position) ∈ waiters

/-- A handler with one address has one waiter. -/
def Sole (single : Bool) (unsent : List Addr)
    (waiters : List (Waiter Addr)) : Prop :=
  single = true → unsent = [] ∧ ∃ waiter, waiters = [waiter]

def PhaseHolds (trace : List (ServicerEvent Addr)) (handler : Nat) :
    HandlerPhase Addr → Prop
  | .unused => (∀ addrs, .started handler addrs ∉ trace) ∧
      .deadline handler ∉ trace ∧
      ∀ addr, observed trace handler addr = none
  | .sending single unsent waiters =>
      (∃ addrs, Collects trace handler addrs unsent waiters) ∧
        Sole single unsent waiters
  | .waiting single waiters =>
      (∃ addrs, Collects trace handler addrs [] waiters) ∧
        Sole single [] waiters
  | .returned _ => True
  | .raised _ => False

/-- The events of no handler, or of another one. -/
def Foreign (handler : Nat) : ServicerEvent Addr → Prop
  | .started other _ | .published other _ _ | .deadline other
  | .returned other _ | .raised other => other ≠ handler
  | .feedback _ _ _ _ => True

theorem observed_foreign {handler : Nat} {event : ServicerEvent Addr}
    (foreign : Foreign handler event) (trace : List (ServicerEvent Addr))
    (addr : Addr) :
    (observed trace handler addr = none →
      observed (trace ++ [event]) handler addr = none) ∧
    ∀ position status,
      observed trace handler addr = some (position, status) →
      ∃ later, observed (trace ++ [event]) handler addr =
        some (position, later) := by
  by_cases quiet : Quiet event
  · rw [observed_quiet quiet]
    exact ⟨id, fun _ status found => ⟨status, found⟩⟩
  cases event with
  | started | deadline | returned | raised => exact absurd trivial quiet
  | published other target place =>
      rw [observed_published]
      constructor
      · intro missing
        rw [missing]
        exact if_neg (fun both => foreign both.1)
      · intro position status found
        rw [found]
        exact ⟨status, rfl⟩
  | feedback source status start end_ =>
      rw [observed_feedback]
      constructor
      · intro missing
        rw [missing]
        rfl
      · intro position before found
        rw [found]
        exact ⟨_, rfl⟩

omit [DecidableEq Addr] in
theorem mem_of_mem_foreign {trace : List (ServicerEvent Addr)}
    {handler : Nat} {event own : ServicerEvent Addr}
    (foreign : Foreign handler event) (isOwn : ¬ Foreign handler own)
    (member : own ∈ trace ++ [event]) : own ∈ trace := by
  rcases List.mem_append.mp member with earlier | now
  · exact earlier
  · rw [← List.mem_singleton.mp now] at foreign
    exact absurd foreign isOwn

theorem Collects.foreign {trace : List (ServicerEvent Addr)} {handler : Nat}
    {addrs unsent : List Addr} {waiters : List (Waiter Addr)}
    (collects : Collects trace handler addrs unsent waiters)
    {event : ServicerEvent Addr} (foreign : Foreign handler event) :
    Collects (trace ++ [event]) handler addrs unsent waiters := by
  constructor
  case started =>
    intro others member
    exact collects.started others
      (mem_of_mem_foreign foreign (absurd rfl) member)
  case inTime =>
    intro member
    exact collects.inTime (mem_of_mem_foreign foreign (absurd rfl) member)
  case distinct => exact collects.distinct
  case unobserved =>
    intro addr member
    exact (observed_foreign foreign trace addr).1
      (collects.unobserved addr member)
  case awaited =>
    intro waiter member
    obtain ⟨status, found⟩ := collects.awaited waiter member
    exact (observed_foreign foreign trace waiter.1).2 _ _ found
  case members => exact collects.members

theorem PhaseHolds.foreign {trace : List (ServicerEvent Addr)}
    {handler : Nat} {phase : HandlerPhase Addr}
    (holds : PhaseHolds trace handler phase)
    {event : ServicerEvent Addr} (foreign : Foreign handler event) :
    PhaseHolds (trace ++ [event]) handler phase := by
  cases phase with
  | unused =>
      obtain ⟨unstarted, inTime, unobserved⟩ := holds
      refine ⟨?_, ?_, ?_⟩
      · intro addrs member
        exact unstarted addrs
          (mem_of_mem_foreign foreign (absurd rfl) member)
      · intro member
        exact inTime (mem_of_mem_foreign foreign (absurd rfl) member)
      · intro addr
        exact (observed_foreign foreign trace addr).1 (unobserved addr)
  | sending single unsent waiters =>
      obtain ⟨⟨addrs, collects⟩, sole⟩ := holds
      exact ⟨⟨addrs, collects.foreign foreign⟩, sole⟩
  | waiting single waiters =>
      obtain ⟨⟨addrs, collects⟩, sole⟩ := holds
      exact ⟨⟨addrs, collects.foreign foreign⟩, sole⟩
  | returned => trivial
  | raised => exact holds

/-- A handler that has neither returned nor raised. -/
def Active (servicer : PushServicer Addr) (handler : Nat) : Prop :=
  ∀ status, servicer.handlers handler ≠ .returned status

structure Tracks (trace : List (ServicerEvent Addr))
    (servicer : PushServicer Addr) : Prop where
  agrees : Agrees servicer.Active (observed trace) servicer.channels
  phases : ∀ handler, PhaseHolds trace handler (servicer.handlers handler)

section

variable {trace events : List (ServicerEvent Addr)}
  {servicer : PushServicer Addr} {handler : Nat}

theorem PhaseHolds.foreign_all {phase : HandlerPhase Addr}
    (holds : PhaseHolds trace handler phase)
    (foreign : ∀ event ∈ events, Foreign handler event) :
    PhaseHolds (trace ++ events) handler phase := by
  induction events generalizing trace with
  | nil =>
      rw [List.append_nil]
      exact holds
  | cons event events induction =>
      rw [List.append_cons]
      refine induction (holds.foreign (foreign event List.mem_cons_self)) ?_
      intro later member
      exact foreign later (List.mem_cons_of_mem _ member)

theorem observed_quiet_all (quiet : ∀ event ∈ events, Quiet event) :
    observed (trace ++ events) = observed trace := by
  induction events generalizing trace with
  | nil => rw [List.append_nil]
  | cons event events induction =>
      rw [List.append_cons, induction, observed_quiet]
      · exact quiet event List.mem_cons_self
      · intro later member
        exact quiet later (List.mem_cons_of_mem _ member)

omit [DecidableEq Addr] in
theorem withHandler_self (phase : HandlerPhase Addr) :
    (servicer.withHandler handler phase).handlers handler = phase :=
  Function.update_self ..

omit [DecidableEq Addr] in
theorem withHandler_of_ne {phase : HandlerPhase Addr} {other : Nat}
    (different : other ≠ handler) :
    (servicer.withHandler handler phase).handlers other =
      servicer.handlers other :=
  Function.update_of_ne different ..

omit [DecidableEq Addr] in
theorem active_of_phase {phase : HandlerPhase Addr}
    (current : servicer.handlers handler = phase)
    (unfinished : ∀ status, phase ≠ .returned status) :
    servicer.Active handler := by
  intro status
  rw [current]
  exact unfinished status

omit [DecidableEq Addr] in
theorem active_withHandler (active : servicer.Active handler)
    (phase : HandlerPhase Addr) (other : Nat)
    (still : (servicer.withHandler handler phase).Active other) :
    servicer.Active other := by
  by_cases same : other = handler
  · rw [same]
    exact active
  · intro status
    have kept := still status
    rw [withHandler_of_ne same] at kept
    exact kept

theorem Tracks.withHandler (tracks : Tracks trace servicer)
    (active : servicer.Active handler) {phase : HandlerPhase Addr}
    {channels : Addr → Option GatewayChannel}
    (agrees : Agrees servicer.Active (observed (trace ++ events)) channels)
    (foreign : ∀ other, other ≠ handler →
      ∀ event ∈ events, Foreign other event)
    (own : PhaseHolds (trace ++ events) handler phase) :
    Tracks (trace ++ events)
      ({ servicer with channels := channels }.withHandler handler
        phase) := by
  constructor
  case agrees =>
    refine agrees.mono ?_
    intro other still
    exact active_withHandler active phase other still
  case phases =>
    intro other
    by_cases same : other = handler
    · subst same
      rw [withHandler_self]
      exact own
    · rw [withHandler_of_ne same]
      exact (tracks.phases other).foreign_all (foreign other same)

theorem Tracks.withChannels (tracks : Tracks trace servicer)
    {channels : Addr → Option GatewayChannel}
    (agrees : Agrees servicer.Active (observed (trace ++ events)) channels)
    (foreign : ∀ other, ∀ event ∈ events, Foreign other event) :
    Tracks (trace ++ events) { servicer with channels := channels } where
  agrees := agrees
  phases := fun other =>
    (tracks.phases other).foreign_all (foreign other)

theorem Tracks.finish (tracks : Tracks trace servicer)
    (active : servicer.Active handler) (status : PubStatus)
    (quiet : ∀ event ∈ events, Quiet event)
    (foreign : ∀ other, other ≠ handler →
      ∀ event ∈ events, Foreign other event) :
    Tracks (trace ++ events)
      (servicer.withHandler handler (.returned status)) := by
  refine tracks.withHandler active ?_ foreign trivial
  rw [observed_quiet_all quiet]
  exact tracks.agrees

theorem Tracks.waiter (tracks : Tracks trace servicer)
    (active : servicer.Active handler) {addrs unsent : List Addr}
    {waiters : List (Waiter Addr)}
    (collects : Collects trace handler addrs unsent waiters)
    {waiter : Waiter Addr} (member : waiter ∈ waiters) :
    ∃ gateway, servicer.channels waiter.1 = some gateway ∧
      gateway.channel.done waiter.2 =
        (confirmation trace handler waiter.1).isSome ∧
      gateway.status waiter.2 = confirmation trace handler waiter.1 := by
  obtain ⟨status, found⟩ := collects.awaited waiter member
  obtain ⟨gateway, listed, -, knows⟩ := tracks.agrees.known _ _ _ _ found
  have same : confirmation trace handler waiter.1 = status := by
    rw [confirmation, found]
    rfl
  rw [same]
  exact ⟨gateway, listed, knows active⟩

theorem Tracks.done_eq (tracks : Tracks trace servicer)
    (active : servicer.Active handler) {addrs unsent : List Addr}
    {waiters : List (Waiter Addr)}
    (collects : Collects trace handler addrs unsent waiters)
    {waiter : Waiter Addr} (member : waiter ∈ waiters) :
    servicer.done waiter =
      (confirmation trace handler waiter.1).isSome := by
  obtain ⟨gateway, listed, done, -⟩ :=
    tracks.waiter active collects member
  rw [PushServicer.done, listed]
  exact done

theorem Tracks.outcome_success (tracks : Tracks trace servicer)
    (active : servicer.Active handler) {addrs : List Addr}
    {single : Bool} {waiters : List (Waiter Addr)}
    (collects : Collects trace handler addrs [] waiters)
    (sole : Sole single [] waiters) :
    servicer.outcome single waiters = .success ↔
      ∀ waiter ∈ waiters,
        confirmation trace handler waiter.1 = some .success := by
  unfold outcome
  split
  · rename_i isSingle
    obtain ⟨-, waiter, rfl⟩ := sole isSingle
    obtain ⟨gateway, listed, -, status⟩ :=
      tracks.waiter active collects List.mem_cons_self
    simp only [listed, status, List.mem_singleton, forall_eq]
    cases confirmation trace handler waiter.1 with
    | none => simp
    | some result => simp
  · have succeeded : waiters.all servicer.succeeded = true ↔
        ∀ waiter ∈ waiters,
          confirmation trace handler waiter.1 = some .success := by
      rw [List.all_eq_true]
      refine forall₂_congr ?_
      intro waiter member
      obtain ⟨gateway, listed, -, status⟩ :=
        tracks.waiter active collects member
      rw [PushServicer.succeeded, listed, ← status]
      exact decide_eq_true_iff
    rw [← succeeded]
    split
    · rename_i all
      exact ⟨fun _ => all, fun _ => rfl⟩
    · rename_i failed
      exact ⟨fun same => PubStatus.noConfusion same,
        fun all => absurd all failed⟩

theorem Collects.forall_addrs {addrs : List Addr}
    {waiters : List (Waiter Addr)}
    (collects : Collects trace handler addrs [] waiters)
    (holds : Addr → Prop) :
    (∀ addr ∈ addrs, holds addr) ↔ ∀ waiter ∈ waiters, holds waiter.1 := by
  constructor
  · intro all waiter member
    exact all waiter.1
      ((collects.members waiter.1).mpr (.inr ⟨waiter.2, member⟩))
  · intro all addr member
    rcases (collects.members addr).mp member with left | ⟨position, sent⟩
    · cases left
    · exact all (addr, position) sent

theorem Tracks.returns_outcome (tracks : Tracks trace servicer)
    (active : servicer.Active handler) {addrs : List Addr}
    {single : Bool} {waiters : List (Waiter Addr)}
    (collects : Collects trace handler addrs [] waiters)
    (sole : Sole single [] waiters)
    (done : waiters.all servicer.done = true) :
    ReturnsOutcome trace
      (.returned handler (servicer.outcome single waiters)) := by
  intro others started _
  rw [collects.started others started, collects.forall_addrs]
  refine ⟨tracks.outcome_success active collects sole, ?_⟩
  rintro ⟨addr, member, missing⟩
  have confirmed : ∀ other ∈ addrs,
      (confirmation trace handler other).isSome = true := by
    rw [collects.forall_addrs]
    intro waiter member
    rw [← tracks.done_eq active collects member]
    exact List.all_eq_true.mp done waiter member
  have some := confirmed addr member
  rw [missing] at some
  cases some

theorem Tracks.returns_timeout (tracks : Tracks trace servicer)
    (active : servicer.Active handler) {addrs : List Addr}
    {waiters : List (Waiter Addr)}
    (collects : Collects trace handler addrs [] waiters)
    (pending : ¬ waiters.all servicer.done = true) :
    ReturnsOutcome trace (.returned handler .timeout) := by
  intro others started _
  rw [collects.started others started]
  refine ⟨⟨fun same => PubStatus.noConfusion same, ?_⟩, fun _ => rfl⟩
  intro all
  refine absurd ?_ pending
  rw [collects.forall_addrs] at all
  rw [List.all_eq_true]
  intro waiter member
  rw [tracks.done_eq active collects member, all waiter member]
  rfl

theorem ReturnsOutcome.deadline {status : PubStatus}
    (returns : ReturnsOutcome trace (.returned handler status))
    (other : Nat) :
    ReturnsOutcome (trace ++ [ServicerEvent.deadline other])
      (.returned handler status) := by
  intro addrs started
  have quiet : Quiet (.deadline other : ServicerEvent Addr) := trivial
  have same : confirmation (trace ++ [ServicerEvent.deadline other]) =
      confirmation trace := by
    funext handler addr
    rw [confirmation, observed_quiet quiet]
    rfl
  rw [same]
  refine returns addrs ?_
  rcases List.mem_append.mp started with earlier | now
  · exact earlier
  · cases List.mem_singleton.mp now

theorem giveUpAll_handlers (servicer : PushServicer Addr)
    (result : Option PubStatus) (waiters : List (Waiter Addr)) :
    (servicer.giveUpAll result waiters).handlers = servicer.handlers := by
  induction waiters generalizing servicer with
  | nil => rfl
  | cons waiter waiters induction =>
      rw [giveUpAll]
      split
      · exact induction servicer
      · exact induction _

theorem Agrees.giveUpAll (servicer : PushServicer Addr)
    {active : Nat → Prop}
    {seen : Nat → Addr → Option (Nat × Option PubStatus)}
    (agrees : Agrees active seen servicer.channels)
    (inactive : ¬ active handler) (result : Option PubStatus)
    {waiters : List (Waiter Addr)}
    (own : ∀ waiter ∈ waiters, ∃ status,
      seen handler waiter.1 = some (waiter.2, status)) :
    Agrees active seen
      (servicer.giveUpAll result waiters).channels := by
  induction waiters generalizing servicer with
  | nil => exact agrees
  | cons waiter waiters induction =>
      have rest : ∀ other ∈ waiters, ∃ status,
          seen handler other.1 = some (other.2, status) :=
        fun other member => own other (List.mem_cons_of_mem _ member)
      rw [PushServicer.giveUpAll]
      split
      · exact induction _ agrees rest
      · rename_i gateway listed
        obtain ⟨status, found⟩ := own waiter List.mem_cons_self
        exact induction _ (agrees.giveUp listed found inactive result) rest

theorem Tracks.giveUp (tracks : Tracks trace servicer)
    (active : servicer.Active handler) {addrs : List Addr}
    {waiters : List (Waiter Addr)}
    (collects : Collects trace handler addrs [] waiters)
    (result : Option PubStatus) :
    Tracks
      (trace ++ [ServicerEvent.deadline handler, .returned handler .timeout])
      ((servicer.giveUpAll result waiters).withHandler handler
        (.returned .timeout)) := by
  have quiet : ∀ event ∈ ([.deadline handler,
      .returned handler .timeout] : List (ServicerEvent Addr)),
      Quiet event := by
    simp [Quiet]
  have foreign : ∀ other, other ≠ handler → ∀ event ∈ ([.deadline handler,
      .returned handler .timeout] : List (ServicerEvent Addr)),
      Foreign other event := by
    intro other different
    simp [Foreign, different.symm]
  have finished := tracks.finish active .timeout quiet foreign
  have inactive :
      ¬ (servicer.withHandler handler (.returned .timeout)).Active
        handler := by
    intro still
    exact still .timeout (withHandler_self _)
  have same : ((servicer.giveUpAll result waiters).withHandler handler
      (.returned .timeout)).handlers =
      (servicer.withHandler handler (.returned .timeout)).handlers := by
    simp only [PushServicer.withHandler, giveUpAll_handlers]
  constructor
  case agrees =>
    have given := Agrees.giveUpAll servicer finished.agrees inactive result
      (by rw [observed_quiet_all quiet]; exact collects.awaited)
    refine given.mono ?_
    intro other still status
    rw [← same]
    exact still status
  case phases =>
    rw [same]
    exact finished.phases

theorem Collects.publish {addrs unsent : List Addr}
    {waiters : List (Waiter Addr)}
    (collects : Collects trace handler addrs unsent waiters) {addr : Addr}
    (left : addr ∈ unsent) (position : Nat) :
    Collects (trace ++ [ServicerEvent.published handler addr position])
      handler addrs (unsent.erase addr) (waiters ++ [(addr, position)]) := by
  constructor
  case started =>
    intro others member
    rcases List.mem_append.mp member with earlier | now
    · exact collects.started others earlier
    · cases List.mem_singleton.mp now
  case inTime =>
    intro member
    rcases List.mem_append.mp member with earlier | now
    · exact collects.inTime earlier
    · cases List.mem_singleton.mp now
  case distinct => exact collects.distinct.erase addr
  case unobserved =>
    intro other member
    have different : other ≠ addr := by
      rintro rfl
      exact collects.distinct.not_mem_erase member
    rw [observed_published,
      collects.unobserved other (List.mem_of_mem_erase member)]
    exact if_neg (fun both => different both.2.symm)
  case awaited =>
    intro waiter member
    rw [observed_published]
    rcases List.mem_append.mp member with earlier | now
    · obtain ⟨status, found⟩ := collects.awaited waiter earlier
      rw [found]
      exact ⟨status, rfl⟩
    · rw [List.mem_singleton.mp now, collects.unobserved addr left]
      exact ⟨none, if_pos ⟨rfl, rfl⟩⟩
  case members =>
    intro other
    rw [collects.members other]
    simp only [List.mem_append, List.mem_singleton, Prod.mk.injEq]
    by_cases same : other = addr
    · subst same
      exact ⟨fun _ => .inr ⟨position, .inr ⟨rfl, rfl⟩⟩, fun _ => .inl left⟩
    · simp [List.mem_erase_of_ne same, same]

theorem collects_started {addrs : List Addr}
    (unused : PhaseHolds trace handler .unused) (distinct : addrs.Nodup) :
    Collects (trace ++ [ServicerEvent.started handler addrs]) handler addrs
      addrs [] := by
  obtain ⟨unstarted, inTime, unobserved⟩ := unused
  have quiet : Quiet (.started handler addrs) := trivial
  constructor
  case started =>
    intro others member
    rcases List.mem_append.mp member with earlier | now
    · exact absurd earlier (unstarted others)
    · cases List.mem_singleton.mp now
      rfl
  case inTime =>
    intro member
    rcases List.mem_append.mp member with earlier | now
    · exact inTime earlier
    · cases List.mem_singleton.mp now
  case distinct => exact distinct
  case unobserved =>
    intro addr _
    rw [observed_quiet quiet]
    exact unobserved addr
  case awaited => exact fun _ member => absurd member List.not_mem_nil
  case members => simp

omit [DecidableEq Addr] in
theorem foreign_pair {first second : ServicerEvent Addr}
    (one : ∀ other, other ≠ handler → Foreign other first)
    (two : ∀ other, other ≠ handler → Foreign other second)
    (other : Nat) (different : other ≠ handler) :
    ∀ event ∈ [first, second], Foreign other event := by
  intro event member
  rcases List.mem_pair.mp member with rfl | rfl
  · exact one other different
  · exact two other different

/-- What a step keeps, and what it reports. -/
def Keeps (trace : List (ServicerEvent Addr))
    (result : PushServicer Addr × List (ServicerEvent Addr)) : Prop :=
  Tracks (trace ++ result.2) result.1 ∧
    EachEvent ReturnsOutcome trace result.2

theorem Tracks.finish_unstarted (tracks : Tracks trace servicer)
    (unused : servicer.handlers handler = .unused) (status : PubStatus) :
    Keeps trace (servicer.finish handler status) := by
  have holds := tracks.phases handler
  rw [unused] at holds
  have active := active_of_phase unused (by simp)
  refine ⟨tracks.finish active status ?_ ?_, ?_, trivial⟩
  · simp [PushServicer.finish, Quiet]
  · intro other different
    simp [PushServicer.finish, Foreign, different.symm]
  · intro addrs started
    exact absurd started (holds.1 addrs)

theorem Tracks.send (tracks : Tracks trace servicer)
    (unused : servicer.handlers handler = .unused) {addrs : List Addr}
    (distinct : addrs.Nodup) (event : PushEvent)
    (subscribed : ∀ addr ∈ addrs, (servicer.channels addr).isSome ∧
      (addrs.length = 1 → servicer.FreshId addr)) :
    Keeps trace
      ((servicer.send handler event addrs).1,
        .started handler addrs ::
          (servicer.send handler event addrs).2) := by
  have holds := tracks.phases handler
  rw [unused] at holds
  have active := active_of_phase unused (by simp)
  have quiet : Quiet (.started handler addrs) := trivial
  have collects := collects_started holds distinct
  have begins : ∀ other, other ≠ handler →
      Foreign other (.started handler addrs) :=
    fun _ different => different.symm
  have agrees : Agrees servicer.Active
      (observed (trace ++ [ServicerEvent.started handler addrs]))
      servicer.channels := by
    rw [observed_quiet quiet]
    exact tracks.agrees
  unfold PushServicer.send
  split
  · refine ⟨tracks.finish active .offline ?_ ?_, trivial, ?_, trivial⟩
    · simp [PushServicer.finish, Quiet]
    · exact foreign_pair begins (fun _ different => different.symm)
    · intro others started nonempty
      exact absurd (collects.started others started) nonempty
  · rename_i addr
    obtain ⟨present, fresh⟩ := subscribed addr List.mem_cons_self
    split
    · rename_i missing
      rw [missing] at present
      cases present
    · rename_i gateway listed
      refine ⟨tracks.withHandler active ?_ ?_ ?_, trivial, trivial,
        trivial⟩
      · rw [List.append_cons]
        exact agrees.publish listed (fresh rfl gateway listed) handler event
      · exact foreign_pair begins (fun _ different => different.symm)
      · rw [List.append_cons]
        have published := collects.publish List.mem_cons_self
          gateway.channel.events.length
        rw [List.erase_cons_head] at published
        exact ⟨⟨[addr], published⟩, fun _ => ⟨rfl, _, rfl⟩⟩
  · have all : servicer.subscribed addrs = addrs :=
      List.takeWhile_eq_self_iff.mpr
        (fun addr member => (subscribed addr member).1)
    rw [if_pos all]
    refine ⟨tracks.withHandler active agrees ?_ ?_, trivial, trivial⟩
    · intro other different
      simpa using begins other different
    · exact ⟨⟨addrs, collects⟩, fun same => Bool.noConfusion same⟩

theorem Tracks.finish_outcome (tracks : Tracks trace servicer)
    {single : Bool} {waiters : List (Waiter Addr)}
    (waiting : servicer.handlers handler = .waiting single waiters)
    (done : waiters.all servicer.done = true) :
    ReturnsOutcome trace
        (.returned handler (servicer.outcome single waiters)) ∧
      Tracks (trace ++ [ServicerEvent.returned handler
          (servicer.outcome single waiters)])
        (servicer.withHandler handler
          (.returned (servicer.outcome single waiters))) ∧
      Tracks (trace ++ [ServicerEvent.deadline handler,
          .returned handler (servicer.outcome single waiters)])
        (servicer.withHandler handler
          (.returned (servicer.outcome single waiters))) := by
  have holds := tracks.phases handler
  rw [waiting] at holds
  obtain ⟨⟨addrs, collects⟩, sole⟩ := holds
  have active := active_of_phase waiting (by simp)
  refine ⟨tracks.returns_outcome active collects sole done,
    tracks.finish active _ ?_ ?_, tracks.finish active _ ?_ ?_⟩
  · simp [Quiet]
  · intro other different
    simp [Foreign, different.symm]
  · simp [Quiet]
  · exact foreign_pair (fun _ different => different.symm)
      (fun _ different => different.symm)

theorem Tracks.deadline (tracks : Tracks trace servicer)
    {next : PushServicer Addr}
    (served : Served servicer (.deadline handler))
    (stepped : step servicer (.deadline handler) = some (next, events)) :
    Keeps trace (next, events) := by
  simp only [step] at stepped
  split at stepped
  · rename_i sending
    exact absurd sending (served _ _ _)
  · rename_i single waiters waiting
    split at stepped
    · rename_i done
      obtain ⟨returns, -, finished⟩ := tracks.finish_outcome waiting done
      cases stepped
      exact ⟨finished, trivial, returns.deadline handler, trivial⟩
    · rename_i pending
      have holds := tracks.phases handler
      rw [waiting] at holds
      obtain ⟨⟨addrs, collects⟩, -⟩ := holds
      have active := active_of_phase waiting (by simp)
      have returns := tracks.returns_timeout active collects pending
      cases stepped
      exact ⟨tracks.giveUp active collects _, trivial,
        returns.deadline handler, trivial⟩
  · cases stepped

theorem Tracks.publish (tracks : Tracks trace servicer)
    {next : PushServicer Addr} {event : PushEvent} {addr : Addr}
    (fresh : servicer.FreshId addr)
    (stepped : step servicer (.publish handler event addr) =
      some (next, events)) :
    Keeps trace (next, events) := by
  have holds := tracks.phases handler
  simp only [step] at stepped
  split at stepped
  · rename_i single unsent waiters gateway sending listed
    rw [sending] at holds
    obtain ⟨⟨addrs, collects⟩, sole⟩ := holds
    split at stepped
    · rename_i left
      have active := active_of_phase sending (by simp)
      cases stepped
      refine ⟨tracks.withHandler active ?_ ?_ ?_, trivial, trivial⟩
      · exact tracks.agrees.publish listed (fresh gateway listed) handler
          event
      · intro other different
        simp [Foreign, different.symm]
      · refine ⟨⟨addrs, collects.publish left _⟩, ?_⟩
        intro isSingle
        obtain ⟨rfl, -⟩ := sole isSingle
        cases left
    · cases stepped
  · rename_i raised _
    rw [raised] at holds
    exact holds.elim
  · cases stepped

theorem Tracks.step (tracks : Tracks trace servicer)
    {action : ServicerAction Addr} {next : PushServicer Addr}
    (served : Served servicer action)
    (stepped : PushServicer.step servicer action = some (next, events)) :
    Keeps trace (next, events) := by
  have unchanged : ∀ {channels : Addr → Option GatewayChannel},
      Agrees servicer.Active (observed trace) channels →
      Keeps trace ({ servicer with channels := channels }, []) := by
    intro channels agrees
    refine ⟨tracks.withChannels ?_ ?_, trivial⟩
    · rw [List.append_nil]
      exact agrees
    · exact fun _ _ member => absurd member List.not_mem_nil
  cases action with
  | subscribe addr =>
      simp only [PushServicer.step] at stepped
      split at stepped
      · cases stepped
        exact unchanged tracks.agrees
      · rename_i missing
        cases stepped
        exact unchanged (tracks.agrees.subscribe missing)
  | handle handler event reply addrs =>
      simp only [PushServicer.step] at stepped
      split at stepped
      · rename_i values unused
        split at stepped
        · rename_i listed
          cases stepped
          exact tracks.send unused listed.1 event served
        · cases stepped
      · rename_i unused
        cases stepped
        exact tracks.finish_unstarted unused .timeout
      · rename_i unused
        cases stepped
        exact tracks.finish_unstarted unused .failed
      · cases stepped
  | publish handler event addr => exact tracks.publish served stepped
  | sent handler =>
      have holds := tracks.phases handler
      simp only [PushServicer.step] at stepped
      split at stepped
      · rename_i single waiters sending
        rw [sending] at holds
        split at stepped
        · cases stepped
        · have active := active_of_phase sending (by simp)
          cases stepped
          refine ⟨tracks.withHandler active ?_ ?_ ?_, trivial⟩
          · rw [List.append_nil]
            exact tracks.agrees
          · exact fun _ _ _ member => absurd member List.not_mem_nil
          · rw [List.append_nil]
            exact holds
      · cases stepped
  | wake handler =>
      simp only [PushServicer.step] at stepped
      split at stepped
      · rename_i single waiters waiting
        split at stepped
        · rename_i done
          obtain ⟨returns, finished, -⟩ :=
            tracks.finish_outcome waiting done
          cases stepped
          exact ⟨finished, returns, trivial⟩
        · cases stepped
      · cases stepped
  | deadline handler => exact tracks.deadline served stepped
  | dispatch addr =>
      obtain ⟨gateway, listed, same⟩ := Option.map_eq_some_iff.mp stepped
      cases same
      exact unchanged (tracks.agrees.dispatch listed)
  | feedback addr status start end_ =>
      obtain ⟨gateway, listed, same⟩ := Option.map_eq_some_iff.mp stepped
      cases same
      refine ⟨tracks.withChannels
        (tracks.agrees.feedback listed status start end_) ?_, trivial,
        trivial⟩
      intro other event member
      rw [List.mem_singleton.mp member]
      trivial
  | callback addr position =>
      simp only [PushServicer.step] at stepped
      split at stepped
      · cases stepped
      · rename_i gateway listed
        split at stepped
        · rename_i scheduled
          cases stepped
          exact unchanged (tracks.agrees.callback listed scheduled)
        · cases stepped

theorem tracks_initial : Tracks [] ({} : PushServicer Addr) := by
  refine ⟨⟨?_, ?_, ?_, ?_⟩, ?_⟩
  · intro addr gateway listed
    cases listed
  · intro addr gateway position listed
    cases listed
  · intro handler other addr position first second found
    cases found
  · intro handler addr position status found
    cases found
  · intro handler
    exact ⟨fun _ => List.not_mem_nil, List.not_mem_nil, fun _ => rfl⟩

theorem Tracks.returns_in_time (tracks : Tracks trace servicer) :
    ReturnsInTime trace servicer := by
  intro handler passed
  have holds := tracks.phases handler
  cases phase : servicer.handlers handler with
  | unused =>
      rw [phase] at holds
      exact absurd passed holds.2.1
  | sending single unsent waiters =>
      rw [phase] at holds
      obtain ⟨⟨addrs, collects⟩, -⟩ := holds
      exact absurd passed collects.inTime
  | waiting single waiters =>
      rw [phase] at holds
      obtain ⟨⟨addrs, collects⟩, -⟩ := holds
      exact absurd passed collects.inTime
  | returned status => exact ⟨status, rfl⟩
  | raised unsent =>
      rw [phase] at holds
      exact holds.elim

/-- In every run in which the gateways of a hash have subscribed, and no
deadline passes before the events are in the queues, every handler returns
the outcome of its push. -/
theorem returns_outcome_of_served
    (run : Run PushServicer.step Served {} trace servicer) :
    EachEvent ReturnsOutcome [] trace ∧ ReturnsInTime trace servicer := by
  have both : Tracks trace servicer ∧
      EachEvent ReturnsOutcome [] trace := by
    refine @Run.invariant _ _ _ _ _ _ _ _
      (fun trace servicer => Tracks trace servicer ∧
        EachEvent ReturnsOutcome [] trace)
      run ⟨tracks_initial, trivial⟩ ?_
    intro trace events servicer next action earlier served stepped
    obtain ⟨tracks, each⟩ := earlier
    obtain ⟨after, now⟩ := tracks.step served stepped
    exact ⟨after, (eachEvent_append [] trace events).mpr ⟨each, now⟩⟩
  exact ⟨both.2, both.1.returns_in_time⟩

end

/-- Two devices of a user are at one gateway, a third is at another; both
gateways confirm. -/
theorem returns_outcome_of_served_two_gateways :
    ∃ servicer : PushServicer Nat,
      Run PushServicer.step Served {}
        [.started 0 [1, 2], .published 0 2 0, .published 0 1 0,
          .feedback 1 .success 1 2, .feedback 2 .success 1 2,
          .returned 0 .success] servicer ∧
      EachEvent ReturnsOutcome []
        [.started 0 [1, 2], .published 0 2 0, .published 0 1 0,
          .feedback 1 .success 1 2, .feedback 2 .success 1 2,
          .returned 0 .success] := by
  have fresh : ∀ servicer : PushServicer Nat, ∀ addr,
      servicer.channels addr = some {} → servicer.FreshId addr := by
    intro servicer addr listed gateway member
    rw [Option.mem_def, listed] at member
    cases member
    rfl
  have hashed : ∀ servicer : PushServicer Nat,
      servicer.channels 1 = some {} → servicer.channels 2 = some {} →
      Served servicer (.handle 0 { kind := .notice, addressId := 7 }
        (.success [1, 1, 2]) [1, 2]) := by
    intro servicer first second addr member
    rcases List.mem_pair.mp member with rfl | rfl
    · exact ⟨first ▸ rfl, fun _ => fresh _ _ first⟩
    · exact ⟨second ▸ rfl, fun _ => fresh _ _ second⟩
  have subscribed := ((Run.refl :
    Run PushServicer.step Served ({} : PushServicer Nat) _ _).act
      (.subscribe 1) trivial rfl).act (.subscribe 2) trivial rfl
  have handled := subscribed.act
    (.handle 0 { kind := .notice, addressId := 7 } (.success [1, 1, 2])
      [1, 2]) (hashed _ rfl rfl) rfl
  have published := (handled.act
    (.publish 0 { kind := .notice, addressId := 7 } 2)
      (fresh _ _ rfl) rfl).act
    (.publish 0 { kind := .notice, addressId := 7 } 1) (fresh _ _ rfl) rfl
  have confirmed := ((published.act (.sent 0) trivial rfl).act
    (.feedback 1 .success 1 2) trivial rfl).act
    (.feedback 2 .success 1 2) trivial rfl
  have run := confirmed.act (.wake 0) trivial rfl
  exact ⟨_, run, (returns_outcome_of_served run).1⟩

/-- A gateway in the hash has not subscribed: the lookup of its channel
fails, after the task for the other one was created. -/
theorem unsubscribed_gateway_raises :
    ∃ servicer : PushServicer Nat,
      AnyRun PushServicer.step {} [.started 0 [1, 2], .raised 0] servicer ∧
      ¬ EachEvent ReturnsOutcome []
        [(.started 0 [1, 2] : ServicerEvent Nat), .raised 0] := by
  have executed : exec PushServicer.step (fun _ _ => True)
      ({} : PushServicer Nat)
      [.subscribe 1, .handle 0 { kind := .notice, addressId := 7 }
        (.success [1, 2]) [1, 2]] =
      some (_, [.started 0 [1, 2], .raised 0]) := rfl
  refine ⟨_, Run.of_exec executed, ?_⟩
  intro returns
  exact returns.2.1

end PushServicer

end Push

end TinyChat
