import Mathlib.Data.List.Nodup
import Mathlib.Logic.Function.Basic
import TinyChat.Lib.Transition

/-!
# The producer of the super stream

`RMQStreamProducer` routes every message to a partition and numbers it with
the sequence of the publisher of that partition.  The messages whose
confirmation has to be passed on wait in one table under their numbers,
whatever their partition is.
-/

namespace TinyChat

namespace Rmq

open Transition

/-- What the broker says about a message; `messageId` is the publishing id
that the message has in its partition. -/
structure ConfirmationStatus where
  messageId : Nat
  isConfirmed : Bool
  responseCode : Option Nat := none
  deriving DecidableEq

/-- A message on its way to the broker. -/
structure Publication (Stream Message : Type) where
  stream : Stream
  publishingId : Nat
  message : Message
  deriving DecidableEq

/-- The `MonotonicSeq` of every partition, the table of the messages that
wait, and what was published with a callback and not confirmed yet. -/
structure RMQStreamProducer (Stream Message : Type) where
  sequenceRecorder : Stream → Nat
  sendWaiters : Nat → Option Message := fun _ => none
  unconfirmed : List (Publication Stream Message) := []

/-- A message is sent to the partition to which it was routed, with a
callback or without one, and `rstream` takes it or raises; a frame of the
broker confirms or rejects publishing ids of a partition. -/
inductive ProducerAction (Stream Message : Type) where
  | send (message : Message) (stream : Stream) (taken : Bool)
  | sendPlain (stream : Stream)
  | confirm (stream : Stream) (frame : List ConfirmationStatus)

/-- A confirmation is reported together with the arguments of the callback,
if there was a call. -/
inductive ProducerEvent (Stream Message : Type) where
  | published (publication : Publication Stream Message)
  | confirmed (publication : Publication Stream Message)
      (confirmation : ConfirmationStatus)
      (called : Option (ConfirmationStatus × Message))
  deriving DecidableEq

section

variable {Stream Message : Type}

/-- The partition of a publication and its number there. -/
def Publication.key (publication : Publication Stream Message) :
    Stream × Nat :=
  (publication.stream, publication.publishingId)

/-- The number of the next message of a partition, `MonotonicSeq.next`. -/
def RMQStreamProducer.nextId (producer : RMQStreamProducer Stream Message)
    (stream : Stream) : Nat :=
  producer.sequenceRecorder stream + 1

end

namespace RMQStreamProducer

section

variable {Stream Message : Type} [DecidableEq Stream]

def start (sequences : Stream → Nat) : RMQStreamProducer Stream Message :=
  { sequenceRecorder := sequences }

/-- `send` with a callback, after the message was routed. -/
def send (producer : RMQStreamProducer Stream Message) (message : Message)
    (stream : Stream) (taken : Bool) :
    RMQStreamProducer Stream Message × List (ProducerEvent Stream Message) :=
  let publishingId := producer.nextId stream
  let publication : Publication Stream Message :=
    { stream := stream, publishingId := publishingId, message := message }
  let waiting :=
    { producer with
      sequenceRecorder :=
        Function.update producer.sequenceRecorder stream publishingId
      sendWaiters :=
        Function.update producer.sendWaiters publishingId (some message) }
  if taken then
    ({ waiting with
        unconfirmed := publication :: producer.unconfirmed },
      [.published publication])
  else (waiting, [])

/-- `send` without a callback: `rstream` numbers the message itself. -/
def sendPlain (producer : RMQStreamProducer Stream Message)
    (stream : Stream) : RMQStreamProducer Stream Message :=
  { producer with
    sequenceRecorder := Function.update producer.sequenceRecorder stream
      (producer.nextId stream) }

/-- `publish_cb_wrapper`. -/
def publishCbWrapper (producer : RMQStreamProducer Stream Message)
    (confirmation : ConfirmationStatus) :
    RMQStreamProducer Stream Message ×
      Option (ConfirmationStatus × Message) :=
  match producer.sendWaiters confirmation.messageId with
  | none => (producer, none)
  | some message =>
      ({ producer with
          sendWaiters := Function.update producer.sendWaiters
            confirmation.messageId none },
        some (confirmation, message))

/-- The publication that a confirmation of a partition is about. -/
def pending (producer : RMQStreamProducer Stream Message) (stream : Stream)
    (publishingId : Nat) : Option (Publication Stream Message) :=
  producer.unconfirmed.find?
    (fun publication => publication.key = (stream, publishingId))

def settle (producer : RMQStreamProducer Stream Message)
    (key : Stream × Nat) : RMQStreamProducer Stream Message :=
  { producer with
    unconfirmed := producer.unconfirmed.filter
      (fun publication => publication.key ≠ key) }

/-- `await cb(confirmation, message)` with the plain `publish_confirm_cb`:
what it returns is `None`, so that the `await` raises a `TypeError`. -/
def awaitRaises (called : Option (ConfirmationStatus × Message)) : Bool :=
  called.isSome

/-- `rstream` calls back for the numbers of a frame one after the other.  An
exception ends that; the numbers behind are confirmed, but not passed on. -/
def onPublishConfirm (stream : Stream) :
    Bool → RMQStreamProducer Stream Message → List ConfirmationStatus →
      RMQStreamProducer Stream Message × List (ProducerEvent Stream Message)
  | _, producer, [] => (producer, [])
  | ended, producer, confirmation :: frame =>
      match producer.pending stream confirmation.messageId with
      | none => onPublishConfirm stream ended producer frame
      | some publication =>
          let passed :=
            if ended then (producer, none)
            else producer.publishCbWrapper confirmation
          let later := onPublishConfirm stream
            (ended || awaitRaises passed.2)
            (passed.1.settle publication.key) frame
          (later.1, .confirmed publication confirmation passed.2 :: later.2)

/-- The broker confirms every publication once. -/
def step : Step (RMQStreamProducer Stream Message)
    (ProducerAction Stream Message) (ProducerEvent Stream Message)
  | producer, .send message stream taken =>
      some (producer.send message stream taken)
  | producer, .sendPlain stream => some (producer.sendPlain stream, [])
  | producer, .confirm stream frame =>
      some (onPublishConfirm stream false producer frame)

/-- The publication that an event confirms. -/
def confirmedKey : ProducerEvent Stream Message → Option (Stream × Nat)
  | .published _ => none
  | .confirmed publication _ _ => some publication.key

def confirmedKeys (trace : List (ProducerEvent Stream Message)) :
    List (Stream × Nat) :=
  trace.filterMap confirmedKey

/-- Every confirmation is passed on once, with the message that was
published. -/
structure Faithful (trace : List (ProducerEvent Stream Message)) : Prop where
  exact : ∀ publication confirmation called,
    .confirmed publication confirmation called ∈ trace →
    called = some (confirmation, publication.message)
  once : (confirmedKeys trace).Nodup

/-- A message gets a publishing id under which no message of another
partition is still waiting for its confirmation. -/
def NumbersApart (producer : RMQStreamProducer Stream Message) :
    ProducerAction Stream Message → Prop
  | .send _ stream _ => ∀ publication ∈ producer.unconfirmed,
      publication.stream ≠ stream →
      publication.publishingId ≠ producer.nextId stream
  | _ => True

/-- The number of messages that a frame confirms. -/
def confirmedBy (producer : RMQStreamProducer Stream Message)
    (stream : Stream) (frame : List ConfirmationStatus) : Nat :=
  (frame.filter (fun confirmation =>
    (producer.pending stream confirmation.messageId).isSome)).length

/-- A message gets a number of its own, and no frame confirms more than one
message. -/
def OneByOne (producer : RMQStreamProducer Stream Message) :
    ProducerAction Stream Message → Prop
  | .confirm stream frame => producer.confirmedBy stream frame ≤ 1
  | action => NumbersApart producer action

/-- What is not confirmed waits under its own number, and the sequences have
passed all numbers. -/
structure Listed (trace : List (ProducerEvent Stream Message))
    (producer : RMQStreamProducer Stream Message) : Prop where
  waiting : ∀ publication ∈ producer.unconfirmed,
    producer.sendWaiters publication.publishingId =
      some publication.message
  apart : ∀ first ∈ producer.unconfirmed, ∀ second ∈ producer.unconfirmed,
    first.publishingId = second.publishingId → first.key = second.key
  numbered : ∀ publication ∈ producer.unconfirmed,
    publication.publishingId ≤ producer.sequenceRecorder publication.stream
  passed : ∀ key ∈ confirmedKeys trace,
    key.2 ≤ producer.sequenceRecorder key.1
  settled : ∀ key ∈ confirmedKeys trace,
    ∀ publication ∈ producer.unconfirmed, publication.key ≠ key
  faithful : Faithful trace

end

section

variable {Stream Message : Type}

theorem confirmedKeys_append
    (first second : List (ProducerEvent Stream Message)) :
    confirmedKeys (first ++ second) =
      confirmedKeys first ++ confirmedKeys second :=
  List.filterMap_append

theorem listed_start (sequences : Stream → Nat) :
    Listed [] (start sequences : RMQStreamProducer Stream Message) where
  waiting := fun _ member => absurd member List.not_mem_nil
  apart := fun _ member => absurd member List.not_mem_nil
  numbered := fun _ member => absurd member List.not_mem_nil
  passed := fun _ member => absurd member List.not_mem_nil
  settled := fun _ member => absurd member List.not_mem_nil
  faithful :=
    { exact := fun _ _ _ member => absurd member List.not_mem_nil
      once := List.nodup_nil }

theorem Listed.publishCbWrapper_eq {producer : RMQStreamProducer Stream Message}
    {trace : List (ProducerEvent Stream Message)}
    (listed : Listed trace producer)
    {publication : Publication Stream Message}
    {confirmation : ConfirmationStatus}
    (member : publication ∈ producer.unconfirmed)
    (number : publication.publishingId = confirmation.messageId) :
    producer.publishCbWrapper confirmation =
      ({ producer with
          sendWaiters := Function.update producer.sendWaiters
            publication.publishingId none },
        some (confirmation, publication.message)) := by
  have found := listed.waiting publication member
  simp only [publishCbWrapper, ← number, found]

end

section

variable {Stream Message : Type} [DecidableEq Stream]
  {producer : RMQStreamProducer Stream Message}
  {trace : List (ProducerEvent Stream Message)} {stream : Stream}
  {message : Message}

/-- The sequence of a partition only grows. -/
theorem sequence_le_update (other : Stream) :
    producer.sequenceRecorder other ≤
      Function.update producer.sequenceRecorder stream
        (producer.nextId stream) other := by
  by_cases same : other = stream
  · subst same
    rw [Function.update_self]
    exact Nat.le_succ _
  · exact Nat.le_of_eq (Function.update_of_ne same _ _).symm

theorem Listed.nextId_ne (listed : Listed trace producer)
    (apart : NumbersApart producer (.send message stream true))
    {publication : Publication Stream Message}
    (member : publication ∈ producer.unconfirmed) :
    publication.publishingId ≠ producer.nextId stream := by
  by_cases same : publication.stream = stream
  · have bounded := listed.numbered publication member
    rw [same] at bounded
    exact Nat.ne_of_lt (Nat.lt_succ_of_le bounded)
  · exact apart publication member same

theorem Listed.sendPlain (listed : Listed trace producer)
    (stream : Stream) : Listed trace (producer.sendPlain stream) where
  waiting := listed.waiting
  apart := listed.apart
  numbered := fun publication member =>
    Nat.le_trans (listed.numbered publication member)
      (sequence_le_update _)
  passed := fun key member =>
    Nat.le_trans (listed.passed key member) (sequence_le_update _)
  settled := listed.settled
  faithful := listed.faithful

/-- A message that `rstream` did not take waits in vain, but harms nobody
under its number. -/
theorem Listed.send_refused (listed : Listed trace producer)
    (apart : NumbersApart producer (.send message stream true)) :
    Listed trace (producer.send message stream false).1 where
  waiting := by
    intro publication member
    change Function.update _ _ _ _ = _
    rw [Function.update_of_ne (listed.nextId_ne apart member)]
    exact listed.waiting publication member
  apart := listed.apart
  numbered := fun publication member =>
    Nat.le_trans (listed.numbered publication member)
      (sequence_le_update _)
  passed := fun key member =>
    Nat.le_trans (listed.passed key member) (sequence_le_update _)
  settled := listed.settled
  faithful := listed.faithful

theorem Listed.send_taken (listed : Listed trace producer)
    (apart : NumbersApart producer (.send message stream true)) :
    Listed (trace ++ (producer.send message stream true).2)
      (producer.send message stream true).1 := by
  have waits := listed.send_refused apart
  have keys : confirmedKeys (trace ++
      (producer.send message stream true).2) = confirmedKeys trace := by
    rw [confirmedKeys_append]
    exact List.append_nil _
  have own : Function.update producer.sequenceRecorder stream
      (producer.nextId stream) stream = producer.nextId stream :=
    Function.update_self ..
  constructor
  case waiting =>
    intro publication member
    rcases List.mem_cons.mp member with rfl | earlier
    · exact Function.update_self ..
    · exact waits.waiting publication earlier
  case apart =>
    intro first firstMember second secondMember same
    rcases List.mem_cons.mp firstMember with rfl | firstEarlier
    · rcases List.mem_cons.mp secondMember with rfl | secondEarlier
      · rfl
      · exact absurd same.symm (listed.nextId_ne apart secondEarlier)
    · rcases List.mem_cons.mp secondMember with rfl | secondEarlier
      · exact absurd same (listed.nextId_ne apart firstEarlier)
      · exact listed.apart first firstEarlier second secondEarlier same
  case numbered =>
    intro publication member
    rcases List.mem_cons.mp member with rfl | earlier
    · exact Nat.le_of_eq own.symm
    · exact waits.numbered publication earlier
  case passed =>
    rw [keys]
    exact waits.passed
  case settled =>
    rw [keys]
    intro key settled publication member same
    rcases List.mem_cons.mp member with rfl | earlier
    · subst same
      have bounded := listed.passed _ settled
      exact absurd bounded (Nat.not_succ_le_self _)
    · exact listed.settled key settled publication earlier same
  case faithful =>
    refine ⟨?_, ?_⟩
    · intro publication confirmation called member
      rcases List.mem_append.mp member with earlier | now
      · exact listed.faithful.exact publication confirmation called earlier
      · cases List.mem_singleton.mp now
    · rw [keys]
      exact listed.faithful.once

theorem Listed.miss (listed : Listed trace producer)
    (key : Stream × Nat) : Listed trace (producer.settle key) := by
  have kept : ∀ publication ∈ (producer.settle key).unconfirmed,
      publication ∈ producer.unconfirmed :=
    fun _ still => (List.mem_filter.mp still).1
  constructor
  case waiting =>
    intro publication still
    exact listed.waiting publication (kept publication still)
  case apart =>
    intro first firstStill second secondStill
    exact listed.apart first (kept first firstStill) second
      (kept second secondStill)
  case numbered =>
    intro publication still
    exact listed.numbered publication (kept publication still)
  case passed => exact listed.passed
  case settled =>
    intro settled confirmed publication still
    exact listed.settled settled confirmed publication
      (kept publication still)
  case faithful => exact listed.faithful

theorem Listed.confirm (listed : Listed trace producer)
    {publication : Publication Stream Message}
    {confirmation : ConfirmationStatus}
    (member : publication ∈ producer.unconfirmed) :
    Listed
      (trace ++ [ProducerEvent.confirmed publication confirmation
        (some (confirmation, publication.message))])
      (settle
        { producer with
          sendWaiters := Function.update producer.sendWaiters
            publication.publishingId none }
        publication.key) := by
  have keys : confirmedKeys (trace ++ [ProducerEvent.confirmed publication
      confirmation (some (confirmation, publication.message))]) =
      confirmedKeys trace ++ [publication.key] :=
    confirmedKeys_append ..
  have kept : ∀ other ∈ producer.unconfirmed.filter
      (fun other => other.key ≠ publication.key),
      other ∈ producer.unconfirmed ∧ other.key ≠ publication.key := by
    intro other listedStill
    simpa using List.mem_filter.mp listedStill
  constructor
  case waiting =>
    intro other listedStill
    obtain ⟨before, different⟩ := kept other listedStill
    have apart : other.publishingId ≠ publication.publishingId := by
      intro same
      exact different (listed.apart other before publication member same)
    change Function.update _ _ _ _ = _
    rw [Function.update_of_ne apart]
    exact listed.waiting other before
  case apart =>
    intro first firstStill second secondStill
    exact listed.apart first (kept first firstStill).1 second
      (kept second secondStill).1
  case numbered =>
    intro other listedStill
    exact listed.numbered other (kept other listedStill).1
  case passed =>
    intro key settled
    rw [keys] at settled
    rcases List.mem_append.mp settled with earlier | now
    · exact listed.passed key earlier
    · rw [List.mem_singleton.mp now]
      exact listed.numbered publication member
  case settled =>
    intro key settled other listedStill
    obtain ⟨before, different⟩ := kept other listedStill
    rw [keys] at settled
    rcases List.mem_append.mp settled with earlier | now
    · exact listed.settled key earlier other before
    · rw [List.mem_singleton.mp now]
      exact different
  case faithful =>
    refine ⟨?_, ?_⟩
    · intro other status called reported
      rcases List.mem_append.mp reported with earlier | now
      · exact listed.faithful.exact other status called earlier
      · cases List.mem_singleton.mp now
        rfl
    · rw [keys]
      refine List.Nodup.append listed.faithful.once
        (List.nodup_singleton _) ?_
      intro key settled now
      exact listed.settled key settled publication member
        (List.mem_singleton.mp now).symm

theorem pending_settle {key : Stream × Nat} {number : Nat}
    (waits : Nat → Option Message)
    (nothing : producer.pending stream number = none) :
    (settle { producer with sendWaiters := waits } key).pending stream
      number = none := by
  apply List.find?_eq_none.mpr
  intro publication member
  exact List.find?_eq_none.mp nothing publication
    (List.mem_filter.mp member).1

theorem onPublishConfirm_nothing (ended : Bool)
    {frame : List ConfirmationStatus}
    (nothing : ∀ confirmation ∈ frame,
      producer.pending stream confirmation.messageId = none) :
    onPublishConfirm stream ended producer frame = (producer, []) := by
  induction frame with
  | nil => rfl
  | cons confirmation frame induction =>
      rw [onPublishConfirm, nothing confirmation List.mem_cons_self]
      exact induction (fun other member =>
        nothing other (List.mem_cons_of_mem _ member))

/-- A frame that confirms one message has no effect but that. -/
theorem Listed.onPublishConfirm_single (listed : Listed trace producer)
    {frame : List ConfirmationStatus}
    (single : producer.confirmedBy stream frame ≤ 1) :
    onPublishConfirm stream false producer frame = (producer, []) ∨
      ∃ confirmation, ∃ publication ∈ producer.unconfirmed,
        onPublishConfirm stream false producer frame =
          (settle
            { producer with
              sendWaiters := Function.update producer.sendWaiters
                publication.publishingId none }
            publication.key,
          [.confirmed publication confirmation
            (some (confirmation, publication.message))]) := by
  induction frame with
  | nil => exact .inl rfl
  | cons confirmation frame induction =>
      unfold confirmedBy at single induction
      rw [List.filter_cons] at single
      rw [onPublishConfirm]
      cases found : producer.pending stream confirmation.messageId with
      | none =>
          rw [found] at single
          exact induction single
      | some publication =>
          right
          rw [found] at single
          have member : publication ∈ producer.unconfirmed :=
            List.mem_of_find?_eq_some found
          have key : publication.key = (stream, confirmation.messageId) := by
            simpa using List.find?_some found
          have others : ∀ other ∈ frame,
              producer.pending stream other.messageId = none := by
            intro other behind
            by_contra waits
            have counted : other ∈ frame.filter (fun confirmation =>
                (producer.pending stream confirmation.messageId).isSome) :=
              List.mem_filter.mpr
                ⟨behind, Option.isSome_iff_ne_none.mpr waits⟩
            have positive := List.length_pos_of_mem counted
            simp only [Option.isSome_some, if_true, List.length_cons]
              at single
            omega
          refine ⟨confirmation, publication, member, ?_⟩
          simp only [Bool.false_eq_true, if_false]
          rw [listed.publishCbWrapper_eq member (congrArg Prod.snd key)]
          simp only
          rw [onPublishConfirm_nothing]
          intro other behind
          exact pending_settle _ (others other behind)

/-- Behind an exception nothing is passed on. -/
theorem onPublishConfirm_ended {frame : List ConfirmationStatus}
    {confirmation : ConfirmationStatus} (member : confirmation ∈ frame)
    {publication : Publication Stream Message}
    (found : producer.pending stream confirmation.messageId =
      some publication) :
    ∃ missed status, .confirmed missed status none ∈
      (onPublishConfirm stream true producer frame).2 := by
  induction frame with
  | nil => cases member
  | cons first frame induction =>
      rw [onPublishConfirm]
      cases waits : producer.pending stream first.messageId with
      | some missed => exact ⟨missed, first, List.mem_cons_self⟩
      | none =>
          rcases List.mem_cons.mp member with same | behind
          · rw [← same, found] at waits
            cases waits
          · exact induction behind

theorem Listed.second_missed (listed : Listed trace producer)
    {frame : List ConfirmationStatus}
    (distinct : (frame.map ConfirmationStatus.messageId).Nodup)
    (two : 1 < producer.confirmedBy stream frame) :
    ∃ missed status, .confirmed missed status none ∈
      (onPublishConfirm stream false producer frame).2 := by
  induction frame with
  | nil => cases two
  | cons first frame induction =>
      unfold confirmedBy at two induction
      rw [List.filter_cons] at two
      rw [List.map_cons, List.nodup_cons] at distinct
      rw [onPublishConfirm]
      cases waits : producer.pending stream first.messageId with
      | none =>
          rw [waits] at two
          exact induction distinct.2 two
      | some publication =>
          rw [waits] at two
          simp only [Option.isSome_some, if_true, List.length_cons] at two
          obtain ⟨second, counted⟩ :=
            List.exists_mem_of_length_pos (Nat.lt_of_succ_lt_succ two)
          obtain ⟨behind, still⟩ := List.mem_filter.mp counted
          obtain ⟨other, found⟩ := Option.isSome_iff_exists.mp still
          have member : publication ∈ producer.unconfirmed :=
            List.mem_of_find?_eq_some waits
          have key : publication.key = (stream, first.messageId) := by
            simpa using List.find?_some waits
          have otherKey : other.key = (stream, second.messageId) := by
            simpa using List.find?_some found
          have apart : other.key ≠ publication.key := by
            rw [otherKey, key]
            intro same
            have number : second.messageId = first.messageId :=
              congrArg Prod.snd same
            apply distinct.1
            rw [← number]
            exact List.mem_map_of_mem behind
          simp only [Bool.false_eq_true, if_false]
          rw [listed.publishCbWrapper_eq member (congrArg Prod.snd key)]
          have remains : (settle
              { producer with
                sendWaiters := Function.update producer.sendWaiters
                  publication.publishingId none }
              publication.key).pending stream second.messageId ≠ none := by
            intro nothing
            have left := List.find?_eq_none.mp nothing other
              (List.mem_filter.mpr ⟨List.mem_of_find?_eq_some found,
                decide_eq_true apart⟩)
            exact left (decide_eq_true otherKey)
          obtain ⟨left, held⟩ := Option.ne_none_iff_exists'.mp remains
          obtain ⟨missed, status, reported⟩ :=
            onPublishConfirm_ended behind held
          exact ⟨missed, status, List.mem_cons_of_mem _ reported⟩

theorem Listed.step (listed : Listed trace producer)
    {action : ProducerAction Stream Message}
    {events : List (ProducerEvent Stream Message)}
    {next : RMQStreamProducer Stream Message}
    (allowed : OneByOne producer action)
    (stepped : RMQStreamProducer.step producer action =
      some (next, events)) :
    Listed (trace ++ events) next := by
  cases action with
  | send message stream taken =>
      cases taken with
      | true =>
          cases stepped
          exact listed.send_taken allowed
      | false =>
          cases stepped
          rw [List.append_nil]
          exact listed.send_refused allowed
  | sendPlain stream =>
      cases stepped
      rw [List.append_nil]
      exact listed.sendPlain stream
  | confirm stream frame =>
      rcases listed.onPublishConfirm_single allowed with same |
        ⟨confirmation, publication, member, settled⟩
      · rw [RMQStreamProducer.step, same] at stepped
        cases stepped
        rw [List.append_nil]
        exact listed
      · rw [RMQStreamProducer.step, settled] at stepped
        cases stepped
        exact listed.confirm member

/-- In every run in which no number collides with that of a message of
another partition, and messages are confirmed one by one, every confirmation
is passed on once with the message that it confirms. -/
theorem confirmations_faithful (sequences : Stream → Nat)
    {final : RMQStreamProducer Stream Message}
    (run : Run RMQStreamProducer.step OneByOne (start sequences) trace
      final) : Faithful trace := by
  have listed : Listed trace final := by
    refine run.invariant (listed_start sequences) ?_
    intro trace events state next action listed allowed stepped
    exact listed.step allowed stepped
  exact listed.faithful

end

instance (producer : RMQStreamProducer Nat Nat)
    (action : ProducerAction Nat Nat) :
    Decidable (OneByOne producer action) :=
  match action with
  | .send _ stream _ => decidable_of_iff
      (∀ publication ∈ producer.unconfirmed,
        publication.stream ≠ stream →
        publication.publishingId ≠ producer.nextId stream) Iff.rfl
  | .sendPlain _ => .isTrue trivial
  | .confirm stream frame =>
      decidable_of_iff (producer.confirmedBy stream frame ≤ 1) Iff.rfl

/-- Two partitions whose sequences are apart, confirmed in the other
order. -/
theorem confirmations_faithful_two_partitions :
    ∃ trace : List (ProducerEvent Nat Nat),
      .confirmed { stream := 1, publishingId := 6, message := 20 }
        { messageId := 6, isConfirmed := true }
        (some ({ messageId := 6, isConfirmed := true }, 20)) ∈ trace ∧
      Faithful trace := by
  have executed : ((exec step OneByOne
      (start (fun stream => 5 * stream) : RMQStreamProducer Nat Nat)
      [.send 10 0 true, .send 20 1 true,
        .confirm 1 [{ messageId := 6, isConfirmed := true }],
        .confirm 0 [{ messageId := 1, isConfirmed := true }]]).map
      Prod.snd) = some
      [.published { stream := 0, publishingId := 1, message := 10 },
        .published { stream := 1, publishingId := 6, message := 20 },
        .confirmed { stream := 1, publishingId := 6, message := 20 }
          { messageId := 6, isConfirmed := true }
          (some ({ messageId := 6, isConfirmed := true }, 20)),
        .confirmed { stream := 0, publishingId := 1, message := 10 }
          { messageId := 1, isConfirmed := true }
          (some ({ messageId := 1, isConfirmed := true }, 10))] := by
    decide +kernel
  obtain ⟨state, run⟩ := Run.exists_of_exec executed
  exact ⟨_, by decide, confirmations_faithful _ run⟩

/-- The first messages of two partitions have the same number: the
confirmation of the first is passed on with the second message, and that of
the second with none. -/
theorem confirmation_of_other_partition :
    ∃ (trace : List (ProducerEvent Nat Nat))
      (state : RMQStreamProducer Nat Nat),
      AnyRun step (start (fun _ => 0)) trace state ∧
      .confirmed { stream := 0, publishingId := 1, message := 10 }
        { messageId := 1, isConfirmed := true }
        (some ({ messageId := 1, isConfirmed := true }, 20)) ∈ trace ∧
      .confirmed { stream := 1, publishingId := 1, message := 20 }
        { messageId := 1, isConfirmed := true } none ∈ trace ∧
      ¬ Faithful trace := by
  have executed : ((exec step (fun _ _ => True)
      (start (fun _ => 0) : RMQStreamProducer Nat Nat)
      [.send 10 0 true, .send 20 1 true,
        .confirm 0 [{ messageId := 1, isConfirmed := true }],
        .confirm 1 [{ messageId := 1, isConfirmed := true }]]).map
      Prod.snd) = some
      [.published { stream := 0, publishingId := 1, message := 10 },
        .published { stream := 1, publishingId := 1, message := 20 },
        .confirmed { stream := 0, publishingId := 1, message := 10 }
          { messageId := 1, isConfirmed := true }
          (some ({ messageId := 1, isConfirmed := true }, 20)),
        .confirmed { stream := 1, publishingId := 1, message := 20 }
          { messageId := 1, isConfirmed := true } none] := by
    decide +kernel
  obtain ⟨state, run⟩ := Run.exists_of_exec executed
  refine ⟨_, state, run, by decide, by decide, ?_⟩
  intro faithful
  have lost := faithful.exact
    { stream := 1, publishingId := 1, message := 20 }
    { messageId := 1, isConfirmed := true } none (by decide)
  cases lost

end RMQStreamProducer

end Rmq

end TinyChat
