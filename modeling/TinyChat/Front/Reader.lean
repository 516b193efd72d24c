import Mathlib.Data.List.Pairwise
import Mathlib.Logic.Function.Basic
import TinyChat.Gateway.Deliver
import TinyChat.Lib.Transition
import TinyChat.Message.QueueRuns

/-!
# The reader of a client

The reader of a `UserSession` filters the events that it receives with a log
of the delivery ids for every channel number.  The log lives as long as the
session, over all its connections, while a channel number says neither which
gateway has sent an event nor whether it is an acknowledgement.
-/

namespace TinyChat

namespace Front

open Gateway
open Transition

/-- Where an event comes from: it acknowledges a message of this client, or
it was pushed by a channel of a gateway process.  The channels of a process
are counted in the order of their creation. -/
inductive Origin where
  | own
  | push (gateway channel : Nat)
  deriving DecidableEq

/-- The channel number in the log of an event: the one that
`on_user_push_message` writes, or the number that the channel was given by
`channel_number_generator`. -/
def Origin.channelNumber : Origin → Int
  | .own => 0
  | .push _ channel => (channel % Push.maxInt32 : Nat)

/-- An event that is received; `accepted` tells whether its handler, if it
is called, returns without an exception. -/
structure Arrival where
  origin : Origin
  evtTp : PubEventType
  deliveryId : Nat
  accepted : Bool := true
  deriving DecidableEq

/-- The `ack_tp` of the types in the table of the handlers. -/
def handlers : PubEventType → Option (Option PubEventType)
  | .pushFriendRequest => some (some .ackFriendRequest)
  | .pushFriendConfirm => some (some .ackFriendConfirm)
  | .pushUserMessage => some (some .ackUserMessage)
  | .ackUserMessage => some none
  | _ => none

/-- What the reader does with an event.  A type without a handler and an
exception of a handler end the connection. -/
inductive Reception where
  | unknown
  | handled
  | raised
  | skipped
  deriving DecidableEq

/-- `operation_log`, where a missing queue is an empty one. -/
abbrev OperationLog := Int → AckQueue

def OperationLog.new : OperationLog := fun _ => AckQueue.new

/-- A `MessageLog` that the reader queues to be sent back. -/
structure AckLog where
  evtTp : PubEventType
  channelNumber : Int
  deliveryId : Nat
  deriving DecidableEq

namespace Arrival

def channelNumber (arrival : Arrival) : Int := arrival.origin.channelNumber

/-- The body of the loop of `reader`. -/
def receive (arrival : Arrival) (logs : OperationLog) :
    OperationLog × Reception × Option AckLog :=
  match handlers arrival.evtTp with
  | none => (logs, .unknown, none)
  | some ackTp =>
      let ack := ackTp.map (fun evtTp =>
        { evtTp := evtTp
          channelNumber := arrival.channelNumber
          deliveryId := arrival.deliveryId })
      let log := logs arrival.channelNumber
      if log.contains arrival.deliveryId then (logs, .skipped, ack)
      else if arrival.accepted then
        (Function.update logs arrival.channelNumber
          (log.add arrival.deliveryId), .handled, ack)
      else (logs, .raised, none)

end Arrival

/-- The log after a life of a session, and what it did with each event. -/
def read : OperationLog → List Arrival →
    OperationLog × List (Arrival × Reception)
  | logs, [] => (logs, [])
  | logs, arrival :: arrivals =>
      let received := arrival.receive logs
      let later := read received.1 arrivals
      (later.1, (arrival, received.2.1) :: later.2)

/-- An event is skipped only if one with the same origin and the same id was
handled before. -/
def SkipsHandled (before : List (Arrival × Reception))
    (event : Arrival × Reception) : Prop :=
  event.2 = .skipped → ∃ earlier, (earlier, .handled) ∈ before ∧
    earlier.origin = event.1.origin ∧
    earlier.deliveryId = event.1.deliveryId

/-- Of two events with the same channel number and the same id, of which the
first can be handled, both have the same origin. -/
def Arrival.Consistent (first second : Arrival) : Prop :=
  (handlers first.evtTp).isSome → first.accepted →
  (handlers second.evtTp).isSome →
  first.channelNumber = second.channelNumber →
  first.deliveryId = second.deliveryId → first.origin = second.origin

/-- An event that enters the log if it is not in it. -/
def Arrival.Loggable (arrival : Arrival) : Prop :=
  (handlers arrival.evtTp).isSome ∧ arrival.accepted

section

variable {logs : OperationLog} {life : List Arrival} {arrival : Arrival}

theorem read_append (logs : OperationLog) (life : List Arrival)
    (arrival : Arrival) :
    read logs (life ++ [arrival]) =
      ((arrival.receive (read logs life).1).1,
        (read logs life).2 ++
          [(arrival, (arrival.receive (read logs life).1).2.1)]) := by
  induction life generalizing logs with
  | nil => rfl
  | cons first life induction =>
      simp only [List.cons_append, read, induction]

theorem receive_cases (logs : OperationLog) (arrival : Arrival) :
    (handlers arrival.evtTp = none ∧ (arrival.receive logs).1 = logs ∧
      (arrival.receive logs).2.1 = .unknown) ∨
    ((handlers arrival.evtTp).isSome ∧
      (logs arrival.channelNumber).contains arrival.deliveryId = true ∧
      (arrival.receive logs).1 = logs ∧
      (arrival.receive logs).2.1 = .skipped) ∨
    ((handlers arrival.evtTp).isSome ∧ arrival.accepted = true ∧
      (arrival.receive logs).1 =
        Function.update logs arrival.channelNumber
          ((logs arrival.channelNumber).add arrival.deliveryId) ∧
      (arrival.receive logs).2.1 = .handled) ∨
    (arrival.accepted = false ∧ (arrival.receive logs).1 = logs ∧
      (arrival.receive logs).2.1 = .raised) := by
  unfold Arrival.receive
  cases known : handlers arrival.evtTp with
  | none => simp
  | some ackTp =>
      right
      by_cases logged :
          (logs arrival.channelNumber).contains arrival.deliveryId = true
      · left
        simp [logged]
      · right
        cases accepted : arrival.accepted with
        | true => simp [logged]
        | false => simp [logged]

/-- The log has the events that can be handled, and the first of each kind
was handled. -/
structure Logged (life : List Arrival) (logs : OperationLog)
    (receptions : List (Arrival × Reception)) : Prop where
  wf : ∀ number, ∃ nodes, AckQueue.Wf (logs number) nodes
  contains_iff : ∀ number (deliveryId : Nat),
    (logs number).contains deliveryId = true ↔
      ∃ arrival ∈ life, arrival.Loggable ∧
        arrival.channelNumber = number ∧ arrival.deliveryId = deliveryId
  handled : ∀ number (deliveryId : Nat),
    (logs number).contains deliveryId = true →
      ∃ arrival, (arrival, .handled) ∈ receptions ∧
        arrival.channelNumber = number ∧ arrival.deliveryId = deliveryId
  loggable : ∀ arrival, (arrival, .handled) ∈ receptions →
    arrival ∈ life ∧ arrival.Loggable

theorem Logged.keep {receptions : List (Arrival × Reception)}
    (logged : Logged life logs receptions) {reception : Reception}
    (unhandled : reception ≠ .handled)
    (known : arrival.Loggable →
      (logs arrival.channelNumber).contains arrival.deliveryId = true) :
    Logged (life ++ [arrival]) logs
      (receptions ++ [(arrival, reception)]) := by
  refine ⟨logged.wf, ?_, ?_, ?_⟩
  · intro number deliveryId
    rw [logged.contains_iff]
    constructor
    · rintro ⟨earlier, member, rest⟩
      exact ⟨earlier, List.mem_append_left _ member, rest⟩
    · rintro ⟨earlier, member, loggable, sameNumber, sameId⟩
      rcases List.mem_append.mp member with before | new
      · exact ⟨earlier, before, loggable, sameNumber, sameId⟩
      · cases List.mem_singleton.mp new
        have found := (logged.contains_iff _ _).mp (known loggable)
        rw [sameNumber, sameId] at found
        exact found
  · intro number deliveryId contained
    obtain ⟨earlier, member, rest⟩ :=
      logged.handled number deliveryId contained
    exact ⟨earlier, List.mem_append_left _ member, rest⟩
  · intro earlier member
    rcases List.mem_append.mp member with before | new
    · obtain ⟨listed, loggable⟩ := logged.loggable earlier before
      exact ⟨List.mem_append_left _ listed, loggable⟩
    · cases List.mem_singleton.mp new
      exact absurd rfl unhandled

theorem Logged.log {receptions : List (Arrival × Reception)}
    (logged : Logged life logs receptions) (loggable : arrival.Loggable) :
    Logged (life ++ [arrival])
      (Function.update logs arrival.channelNumber
        ((logs arrival.channelNumber).add arrival.deliveryId))
      (receptions ++ [(arrival, .handled)]) := by
  obtain ⟨nodes, wf⟩ := logged.wf arrival.channelNumber
  have contains : ∀ number (deliveryId : Nat),
      (Function.update logs arrival.channelNumber
        ((logs arrival.channelNumber).add arrival.deliveryId)
        number).contains deliveryId = true ↔
      (logs number).contains deliveryId = true ∨
        arrival.channelNumber = number ∧
          arrival.deliveryId = deliveryId := by
    intro number deliveryId
    by_cases same : number = arrival.channelNumber
    · subst same
      rw [Function.update_self, wf.contains_add, Int.ofNat_inj,
        eq_comm (a := deliveryId)]
      simp
    · rw [Function.update_of_ne same]
      simp [Ne.symm same]
  refine ⟨?_, ?_, ?_, ?_⟩
  · intro number
    by_cases same : number = arrival.channelNumber
    · subst same
      obtain ⟨later, added⟩ := wf.add_cases arrival.deliveryId
      rw [Function.update_self]
      exact ⟨later, wf.added added⟩
    · rw [Function.update_of_ne same]
      exact logged.wf number
  · intro number deliveryId
    rw [contains, logged.contains_iff]
    constructor
    · rintro (⟨earlier, member, rest⟩ | same)
      · exact ⟨earlier, List.mem_append_left _ member, rest⟩
      · exact ⟨arrival, by simp, loggable, same⟩
    · rintro ⟨earlier, member, rest⟩
      rcases List.mem_append.mp member with before | new
      · exact Or.inl ⟨earlier, before, rest⟩
      · cases List.mem_singleton.mp new
        exact Or.inr rest.2
  · intro number deliveryId contained
    rcases (contains number deliveryId).mp contained with before | same
    · obtain ⟨earlier, member, rest⟩ :=
        logged.handled number deliveryId before
      exact ⟨earlier, List.mem_append_left _ member, rest⟩
    · exact ⟨arrival, by simp, same⟩
  · intro earlier member
    rcases List.mem_append.mp member with before | new
    · obtain ⟨listed, others⟩ := logged.loggable earlier before
      exact ⟨List.mem_append_left _ listed, others⟩
    · cases List.mem_singleton.mp new
      exact ⟨by simp, loggable⟩

theorem read_logged (life : List Arrival) :
    Logged life (read .new life).1 (read .new life).2 := by
  induction life using List.reverseRecOn with
  | nil =>
      refine ⟨fun _ => ⟨[], AckQueue.new_wf⟩, ?_, ?_, ?_⟩
      · intro number deliveryId
        have empty : (OperationLog.new number).contains deliveryId =
            false := rfl
        simp [read, empty]
      · intro number deliveryId contained
        cases contained
      · intro arrival member
        cases member
  | append_singleton life arrival logged =>
      rw [read_append]
      rcases receive_cases (read .new life).1 arrival with
        ⟨unknown, same, outcome⟩ | ⟨known, contained, same, outcome⟩ |
        ⟨known, accepted, added, outcome⟩ | ⟨refused, same, outcome⟩
      · rw [same, outcome]
        refine logged.keep Reception.noConfusion ?_
        intro loggable
        have isSome := loggable.1
        rw [unknown] at isSome
        cases isSome
      · rw [same, outcome]
        exact logged.keep Reception.noConfusion (fun _ => contained)
      · rw [added, outcome]
        exact logged.log ⟨known, accepted⟩
      · rw [same, outcome]
        refine logged.keep Reception.noConfusion ?_
        intro loggable
        have accepted := loggable.2
        rw [refused] at accepted
        cases accepted

/-- Events that can be handled and have the same channel number and id have
the same origin, in whichever order they arrive. -/
theorem consistent_loggable (consistent : life.Pairwise Arrival.Consistent)
    {first second : Arrival} (firstListed : first ∈ life)
    (secondListed : second ∈ life) (firstLoggable : first.Loggable)
    (secondLoggable : second.Loggable)
    (number : first.channelNumber = second.channelNumber)
    (sameId : first.deliveryId = second.deliveryId) :
    first.origin = second.origin := by
  by_cases same : first = second
  · rw [same]
  · have symmetric : Std.Symm (fun first second : Arrival =>
        first.Consistent second ∨ second.Consistent first) :=
      ⟨fun _ _ => Or.symm⟩
    have either : life.Pairwise (fun first second =>
        first.Consistent second ∨ second.Consistent first) :=
      consistent.imp Or.inl
    rcases either.forall firstListed secondListed same with
      forward | backward
    · exact forward firstLoggable.1 firstLoggable.2 secondLoggable.1 number
        sameId
    · exact (backward secondLoggable.1 secondLoggable.2 firstLoggable.1
        number.symm sameId.symm).symm

/-- The last event of a life is treated right exactly if it is consistent
with the earlier ones. -/
theorem skipsHandled_last
    (consistent : life.Pairwise Arrival.Consistent) :
    SkipsHandled (read .new life).2
        (arrival, (arrival.receive (read .new life).1).2.1) ↔
      ∀ earlier ∈ life, earlier.Consistent arrival := by
  have logged := read_logged life
  constructor
  · intro skips earlier member known accepted arrivalKnown number sameId
    have contained : ((read .new life).1 arrival.channelNumber).contains
        arrival.deliveryId = true :=
      (logged.contains_iff _ _).mpr
        ⟨earlier, member, ⟨known, accepted⟩, number, sameId⟩
    have skipped :
        (arrival.receive (read .new life).1).2.1 = .skipped := by
      obtain ⟨ackTp, found⟩ := Option.isSome_iff_exists.mp arrivalKnown
      simp [Arrival.receive, found, contained]
    obtain ⟨first, handled, origin, firstId⟩ := skips skipped
    obtain ⟨listed, loggable⟩ := logged.loggable first handled
    have sameNumber : earlier.channelNumber = first.channelNumber := by
      rw [number, Arrival.channelNumber, Arrival.channelNumber, origin]
    rw [consistent_loggable consistent member listed ⟨known, accepted⟩
      loggable sameNumber (sameId.trans firstId.symm), origin]
  · intro all skipped
    rcases receive_cases (read .new life).1 arrival with
      ⟨_, _, outcome⟩ | ⟨known, contained, _, _⟩ | ⟨_, _, _, outcome⟩ |
      ⟨_, _, outcome⟩
    · exact absurd (outcome.symm.trans skipped) Reception.noConfusion
    · obtain ⟨first, handled, number, sameId⟩ :=
        logged.handled _ _ contained
      obtain ⟨listed, loggable⟩ := logged.loggable first handled
      exact ⟨first, handled, all first listed loggable.1 loggable.2 known
        number sameId, sameId⟩
    · exact absurd (outcome.symm.trans skipped) Reception.noConfusion
    · exact absurd (outcome.symm.trans skipped) Reception.noConfusion

/-- Over a life of a session, events are skipped only if they were handled
before, exactly if no two events of different origins have the same channel
number and the same id. -/
theorem reader_skips_handled_iff (life : List Arrival) :
    EachEvent SkipsHandled [] (read .new life).2 ↔
      life.Pairwise Arrival.Consistent := by
  induction life using List.reverseRecOn with
  | nil => simp [read]
  | append_singleton life arrival induction =>
      rw [read_append, eachEvent_append, List.pairwise_append, induction]
      constructor
      · rintro ⟨consistent, last, _⟩
        refine ⟨consistent, List.pairwise_singleton _ _, ?_⟩
        intro earlier member second new
        cases List.mem_singleton.mp new
        exact (skipsHandled_last consistent).mp last earlier member
      · rintro ⟨consistent, _, all⟩
        refine ⟨consistent, ?_, trivial⟩
        refine (skipsHandled_last consistent).mpr ?_
        intro earlier member
        exact all earlier member arrival (List.mem_singleton.mpr rfl)

end

/-- The first acknowledgement of a message of this client, and the first
event of the first push channel of its gateway. -/
theorem push_skipped_after_ack :
    (read .new
      [{ origin := .own, evtTp := .ackUserMessage, deliveryId := 1 },
        { origin := .push 0 0, evtTp := .pushUserMessage,
          deliveryId := 1 }]).2 =
      [({ origin := .own, evtTp := .ackUserMessage, deliveryId := 1 },
          .handled),
        ({ origin := .push 0 0, evtTp := .pushUserMessage,
            deliveryId := 1 }, .skipped)] ∧
    ¬ EachEvent SkipsHandled [] (read .new
      [{ origin := .own, evtTp := .ackUserMessage, deliveryId := 1 },
        { origin := .push 0 0, evtTp := .pushUserMessage,
          deliveryId := 1 }]).2 := by
  have outcome : (read .new
      [{ origin := .own, evtTp := .ackUserMessage, deliveryId := 1 },
        { origin := .push 0 0, evtTp := .pushUserMessage,
          deliveryId := 1 }]).2 =
      [({ origin := .own, evtTp := .ackUserMessage, deliveryId := 1 },
          .handled),
        ({ origin := .push 0 0, evtTp := .pushUserMessage,
            deliveryId := 1 }, .skipped)] := by
    decide +kernel
  refine ⟨outcome, ?_⟩
  rw [outcome]
  intro good
  obtain ⟨earlier, member, origin, _⟩ := good.2.1 rfl
  simp only [List.nil_append, List.mem_singleton, Prod.mk.injEq] at member
  rw [member.1] at origin
  cases origin

end Front

end TinyChat
