import TinyChat.Relay.Origin

/-!
# What is acknowledged is in the stream

A client gets an acknowledgement only after the broker has stored its
message, provided that the producer passes every confirmation on to the
message it is about.  So a message that was acknowledged to its sender can be
pulled by its receiver in the end.
-/

namespace TinyChat

namespace Relay

open Transition Auth Gateway Upstream Rmq Worker Downstream

/-- The record of a message under an id. -/
def recordFor (item : UserMsgData) (messageId : Int) : RStreamMsgData where
  data := item.data
  deliveryId := item.deliveryId
  messageId := messageId

variable {Stream : Type}

/-! ## Instances -/

/-- The producer knows what waits for a confirmation and for which call, and
a waiter is resolved only for a message that is stored. -/
structure UpstreamInstance.Vouched (stored : RStreamMsgData → Prop)
    (servant : UpstreamInstance Stream) : Prop where
  listed : ∃ happened,
    RMQStreamProducer.Listed happened servant.producer
  sent : ∀ call ∈ servant.sent,
    servant.servicer.calls call = .finished ∨ ∃ rsqData confirmed,
      servant.servicer.calls call = .publishing rsqData confirmed
  own : ∀ publication ∈ servant.producer.unconfirmed,
    publication.message.1 ∈ servant.sent ∧ ∀ rsqData confirmed,
      servant.servicer.calls publication.message.1 =
        .publishing rsqData confirmed → rsqData = publication.message.2
  confirmed : ∀ call rsqData,
    servant.servicer.calls call = .publishing rsqData true → stored rsqData

namespace UpstreamInstance.Vouched

variable {stored more : RStreamMsgData → Prop}
  {servant : UpstreamInstance Stream} {next : UpstreamTransferServicer}
  {events : List UpstreamEvent}

theorem mono (vouched : servant.Vouched stored)
    (grows : ∀ record, stored record → more record) :
    servant.Vouched more where
  listed := vouched.listed
  sent := vouched.sent
  own := vouched.own
  confirmed := fun call rsqData found =>
    grows rsqData (vouched.confirmed call rsqData found)

theorem sent_ne (vouched : servant.Vouched stored) {call : Nat}
    (member : call ∈ servant.sent) :
    servant.servicer.calls call ≠ .unused ∧
      ∀ rsqData, servant.servicer.calls call ≠ .flicking rsqData := by
  rcases vouched.sent call member with finished | ⟨rsqData, settled, phase⟩
  · rw [finished]
    exact ⟨CallPhase.noConfusion, fun _ => CallPhase.noConfusion⟩
  · rw [phase]
    exact ⟨CallPhase.noConfusion, fun _ => CallPhase.noConfusion⟩

theorem ownStep (vouched : servant.Vouched stored)
    (serving : OwnServing servant.servicer next events) :
    { servant with servicer := next }.Vouched stored := by
  refine ⟨vouched.listed, ?_, ?_, ?_⟩
  · intro call member
    rcases serving.calls call with
      same | ⟨_, finished⟩ | ⟨before, _, _, flicking, _⟩
    · rw [same]
      exact vouched.sent call member
    · exact .inl finished
    · exact absurd flicking ((vouched.sent_ne member).2 before)
  · intro publication member
    obtain ⟨sent, same⟩ := vouched.own publication member
    refine ⟨sent, ?_⟩
    intro rsqData settled found
    rcases serving.calls publication.message.1 with
      kept | ⟨_, finished⟩ | ⟨before, _, _, flicking, _⟩
    · rw [kept] at found
      exact same rsqData settled found
    · rw [finished] at found
      cases found
    · exact absurd flicking ((vouched.sent_ne sent).2 before)
  · intro call rsqData found
    rcases serving.calls call with
      same | ⟨_, finished⟩ | ⟨_, _, _, _, published, _⟩
    · rw [same] at found
      exact vouched.confirmed call rsqData found
    · rw [finished] at found
      cases found
    · rw [published] at found
      cases found

theorem request (vouched : servant.Vouched stored) {call : Nat}
    {data : MsgData} {deliveryId : Int}
    (taken : RequestTaken servant.servicer next call data deliveryId
      events) :
    { servant with servicer := next }.Vouched stored := by
  obtain ⟨phase, calls, kind⟩ := taken.calls
  have kept : ∀ other ∈ servant.sent,
      next.calls other = servant.servicer.calls other := by
    intro other member
    rw [calls, Function.update_of_ne]
    rintro rfl
    exact (vouched.sent_ne member).1 taken.unused
  refine ⟨vouched.listed, ?_, ?_, ?_⟩
  · intro other member
    rw [kept other member]
    exact vouched.sent other member
  · intro publication member
    obtain ⟨sent, same⟩ := vouched.own publication member
    refine ⟨sent, ?_⟩
    intro rsqData settled found
    rw [kept _ sent] at found
    exact same rsqData settled found
  · intro other rsqData found
    rw [calls, Function.update_apply] at found
    split at found
    · rcases kind with rfl | rfl
      · cases found
      · cases found
    · exact vouched.confirmed other rsqData found

theorem confirm (vouched : servant.Vouched stored) {call : Nat}
    {success : Bool}
    (taken : ConfirmationTaken servant.servicer next call success events)
    (right : success = true → ∀ rsqData confirmed,
      servant.servicer.calls call = .publishing rsqData confirmed →
        stored rsqData) :
    { servant with servicer := next }.Vouched stored := by
  refine ⟨vouched.listed, ?_, ?_, ?_⟩
  · intro other member
    rcases taken.calls other with same | ⟨rfl, _, rsqData, _, _, after⟩
    · rw [same]
      exact vouched.sent other member
    · exact .inr ⟨rsqData, true, after⟩
  · intro publication member
    obtain ⟨sent, same⟩ := vouched.own publication member
    refine ⟨sent, ?_⟩
    intro rsqData settled found
    rcases taken.calls publication.message.1 with
      kept | ⟨here, _, published, before, phase, after⟩
    · rw [kept] at found
      exact same rsqData settled found
    · rw [here] at found same
      rw [after] at found
      cases found
      exact same _ before phase
  · intro other rsqData found
    rcases taken.calls other with
      same | ⟨rfl, succeeded, published, before, phase, after⟩
    · rw [same] at found
      exact vouched.confirmed other rsqData found
    · rw [after] at found
      cases found
      exact right succeeded _ before phase

variable [DecidableEq Stream]

theorem send (vouched : servant.Vouched stored) {call : Nat}
    {rsqData : RStreamMsgData} {stream : Stream} {taken : Bool}
    (publishing : servant.servicer.calls call = .publishing rsqData false)
    (apart : RMQStreamProducer.NumbersApart servant.producer
      (.send (call, rsqData) stream taken)) :
    (servant.send call rsqData stream taken).Vouched stored := by
  obtain ⟨happened, listed⟩ := vouched.listed
  have earlier : ∀ publication ∈ servant.producer.unconfirmed,
      publication.message.1 ∈ call :: servant.sent ∧
        ∀ other confirmed, servant.servicer.calls publication.message.1 =
          .publishing other confirmed → other = publication.message.2 := by
    intro publication member
    obtain ⟨sent, same⟩ := vouched.own publication member
    exact ⟨List.mem_cons_of_mem _ sent, same⟩
  refine ⟨?_, ?_, ?_, vouched.confirmed⟩
  · cases taken with
    | true => exact ⟨_, listed.send_taken apart⟩
    | false => exact ⟨_, listed.send_refused apart⟩
  · intro other member
    rcases List.mem_cons.mp member with rfl | before
    · exact .inr ⟨rsqData, false, publishing⟩
    · exact vouched.sent other before
  · intro publication member
    cases taken with
    | false => exact earlier publication member
    | true =>
        rcases List.mem_cons.mp member with rfl | before
        · refine ⟨List.mem_cons_self, ?_⟩
          intro other confirmed found
          cases publishing.symm.trans found
          rfl
        · exact earlier publication before

theorem settle (vouched : servant.Vouched stored)
    {publication : Publication Stream MessageWrapper}
    {confirmation : ConfirmationStatus}
    (member : publication ∈ servant.producer.unconfirmed)
    (number : publication.publishingId = confirmation.messageId) :
    (servant.settle confirmation publication.key).Vouched stored ∧
      (servant.producer.publishCbWrapper confirmation).2 =
        some (confirmation, publication.message) := by
  obtain ⟨happened, listed⟩ := vouched.listed
  have passed := listed.publishCbWrapper_eq member number
  refine ⟨⟨?_, vouched.sent, ?_, vouched.confirmed⟩, ?_⟩
  · have settled := @RMQStreamProducer.Listed.confirm _ _ _ _ _ listed
      publication confirmation member
    unfold UpstreamInstance.settle
    rw [passed]
    exact ⟨_, settled⟩
  · intro other still
    apply vouched.own
    have kept := (List.mem_filter.mp still).1
    rw [passed] at kept
    exact kept
  · rw [passed]

/-- A publication is confirmed, but nobody is told. -/
theorem miss (vouched : servant.Vouched stored) (key : Stream × Nat) :
    (servant.miss key).Vouched stored := by
  obtain ⟨happened, listed⟩ := vouched.listed
  exact ⟨⟨happened, listed.miss key⟩, vouched.sent,
    fun publication still =>
      vouched.own publication (List.mem_filter.mp still).1,
    vouched.confirmed⟩

end UpstreamInstance.Vouched

/-! ## The system -/

theorem reply_of_ne_zero {system : ChatSystem Stream} {session : Nat}
    {transport : Transport} (nonzero : deliverMessage
      (transport.carry (system.reply session)) ≠ 0) :
    ∃ place call reply, system.serving session = some (place, call) ∧
      ((place, call), reply) ∈ system.replies ∧
      reply.messageId = some (deliverMessage
        (transport.carry (system.reply session))) := by
  cases answered : system.reply session with
  | none =>
      rw [answered] at nonzero
      cases transport with
      | _ => exact absurd rfl nonzero
  | some reply =>
      rw [answered] at nonzero
      cases transport with
      | timedOut => exact absurd rfl nonzero
      | failed => exact absurd rfl nonzero
      | answered =>
          obtain ⟨⟨place, call⟩, served, found⟩ :=
            Option.bind_eq_some_iff.mp answered
          obtain ⟨entry, first, rfl⟩ := Option.map_eq_some_iff.mp found
          have key : entry.1 = (place, call) := by
            simpa using List.find?_some first
          have listed := List.mem_of_find?_eq_some first
          rw [← key] at served
          refine ⟨_, _, entry.2, served, listed, ?_⟩
          cases named : entry.2.messageId with
          | none =>
              simp [Transport.carry, deliverMessage, named] at nonzero
          | some messageId =>
              simp [Transport.carry, deliverMessage, named]

/-- A call is for the message of a session, and has named only an id under
which that message is stored. -/
structure Serves (system : ChatSystem Stream) (item : UserMsgData)
    (place call : Nat) : Prop where
  used : (system.instances place).servicer.calls call ≠ .unused
  record : ∀ rsqData,
    recordOf ((system.instances place).servicer.calls call) =
      some rsqData →
    rsqData.data = item.data ∧ rsqData.deliveryId = item.deliveryId
  replied : ∀ reply messageId, ((place, call), reply) ∈ system.replies →
    reply.messageId = some messageId →
      system.HasRecord (recordFor item messageId)

/-- The calls serve the messages for which they were made, and what was
acknowledged is in the stream. -/
structure Vouched (trace : List ChatEvent) (system : ChatSystem Stream) :
    Prop where
  instances : ∀ place,
    (system.instances place).Vouched system.HasRecord
  idle : ∀ session, (system.readers session).deliverTask = .waiting →
    system.serving session = none
  serving : ∀ session item place call,
    (system.readers session).deliverTask = .calling item →
    system.serving session = some (place, call) →
      Serves system item place call
  replied : ∀ place call reply, ((place, call), reply) ∈ system.replies →
    (system.instances place).servicer.calls call ≠ .unused
  acknowledged : ∀ session item ack,
    .reader session (.acknowledged item ack) ∈ trace →
      system.HasRecord (recordFor item ack.messageId)

namespace Vouched

variable {trace : List ChatEvent} {system next : ChatSystem Stream}
  {events : List ChatEvent} {formats : Formats}

/-- More happens that acknowledges nothing. -/
theorem note (vouched : Vouched trace system)
    (silent : ∀ session item ack,
      .reader session (.acknowledged item ack) ∉ events) :
    Vouched (trace ++ events) system where
  instances := vouched.instances
  idle := vouched.idle
  serving := vouched.serving
  replied := vouched.replied
  acknowledged := by
    intro session item ack member
    rcases List.mem_append.mp member with earlier | new
    · exact vouched.acknowledged session item ack earlier
    · exact absurd new (silent session item ack)

theorem own (vouched : Vouched trace system) {session : Nat}
    {reader : MessageReader} {happened : List ReaderEvent}
    (reading : OwnReading formats (system.readers session) reader
      happened) :
    Vouched (trace ++ happened.map (.reader session))
      (system.setReader session reader) where
  instances := vouched.instances
  idle := by
    intro other waiting
    simp only [ChatSystem.setReader, Function.update_apply] at waiting
    split at waiting
    · rename_i same
      rw [same]
      apply vouched.idle
      rcases reading.task with kept | ended | ⟨_, _, _, calling⟩
      · rw [← kept]
        exact waiting
      · rw [ended] at waiting
        cases waiting
      · rw [calling] at waiting
        cases waiting
    · exact vouched.idle other waiting
  serving := by
    intro other item place call calling served
    simp only [ChatSystem.setReader, Function.update_apply] at calling
    have before : (system.readers other).deliverTask = .calling item := by
      split at calling
      · rename_i same
        rw [same] at served ⊢
        rcases reading.task with kept | ended | ⟨waiting, _⟩
        · rw [← kept]
          exact calling
        · rw [ended] at calling
          cases calling
        · have nothing := vouched.idle session waiting
          cases nothing.symm.trans served
      · exact calling
    obtain ⟨used, record, replied⟩ :=
      vouched.serving other item place call before served
    exact ⟨used, record, replied⟩
  replied := vouched.replied
  acknowledged := by
    intro other item ack member
    rcases List.mem_append.mp member with earlier | new
    · exact vouched.acknowledged other item ack earlier
    · obtain ⟨event, listed, equality⟩ := List.mem_map.mp new
      cases equality
      exact absurd listed (reading.silent item ack)

theorem delivered (vouched : Vouched trace system) {session : Nat}
    {reader : MessageReader} {happened : List ReaderEvent}
    {transport : Transport}
    (returned : Delivered (system.readers session) reader
      (deliverMessage (transport.carry (system.reply session))) happened) :
    Vouched (trace ++ happened.map (.reader session))
      ((system.setReader session reader).setServing session none) where
  instances := vouched.instances
  idle := by
    intro other waiting
    simp only [ChatSystem.setServing, ChatSystem.setReader,
      Function.update_apply] at waiting ⊢
    split at waiting
    · rename_i same
      exact if_pos same
    · rename_i different
      rw [if_neg different]
      exact vouched.idle other waiting
  serving := by
    intro other item place call calling served
    simp only [ChatSystem.setServing, ChatSystem.setReader,
      Function.update_apply] at calling served
    split at calling
    · exact absurd calling (returned.task item)
    · rename_i different
      rw [if_neg different] at served
      obtain ⟨used, record, replied⟩ :=
        vouched.serving other item place call calling served
      exact ⟨used, record, replied⟩
  replied := vouched.replied
  acknowledged := by
    intro other item ack member
    rcases List.mem_append.mp member with earlier | new
    · exact vouched.acknowledged other item ack earlier
    · obtain ⟨event, listed, equality⟩ := List.mem_map.mp new
      cases equality
      obtain ⟨calling, nonzero, same⟩ :=
        returned.acknowledged item ack listed
      obtain ⟨place, call, reply, served, listed, named⟩ :=
        reply_of_ne_zero nonzero
      have stored := (vouched.serving session item place call calling
        served).replied reply _ listed named
      rw [same]
      exact stored

/-- An instance goes on without another request. -/
theorem serve (vouched : Vouched trace system) {place : Nat}
    {result : UpstreamTransferServicer × List UpstreamEvent}
    (sound : { system.instances place with
      servicer := result.1 }.Vouched system.HasRecord)
    (keeps : ∀ call,
      (system.instances place).servicer.calls call ≠ .unused →
      result.1.calls call ≠ .unused ∧ ∀ rsqData,
        recordOf (result.1.calls call) = some rsqData → ∃ before,
          recordOf ((system.instances place).servicer.calls call) =
            some before ∧
          rsqData.data = before.data ∧
          rsqData.deliveryId = before.deliveryId)
    (names : ∀ call key reply, .replied call key reply ∈ result.2 →
      result.1.calls call ≠ .unused ∧ ∀ messageId,
        reply.messageId = some messageId → ∃ rsqData,
          recordOf ((system.instances place).servicer.calls call) =
            some rsqData ∧
          rsqData.messageId = messageId ∧ system.HasRecord rsqData) :
    Vouched (trace ++ (system.serve place result).2)
      (system.serve place result).1 := by
  have calls : ∀ other,
      ((system.serve place result).1.instances other).servicer.calls =
        if other = place then result.1.calls
        else (system.instances other).servicer.calls := by
    intro other
    simp only [ChatSystem.serve, ChatSystem.setInstance,
      Function.update_apply]
    split
    · rfl
    · rfl
  have new : ∀ other call reply, ((other, call), reply) ∈
      result.2.filterMap (replyOf place) →
        other = place ∧ ∃ key, .replied call key reply ∈ result.2 := by
    intro other call reply member
    obtain ⟨event, listed, found⟩ := List.mem_filterMap.mp member
    cases event with
    | replied named key given =>
        cases found
        exact ⟨rfl, key, listed⟩
    | checked named key now => cases found
    | publishStarted named rsqData now => cases found
    | publishEnded named rsqData outcome now => cases found
  refine ⟨?_, vouched.idle, ?_, ?_, ?_⟩
  · intro other
    simp only [ChatSystem.serve, ChatSystem.setInstance,
      Function.update_apply]
    split
    · exact sound
    · exact vouched.instances other
  · intro session item other call calling served
    obtain ⟨used, record, replied⟩ :=
      vouched.serving session item other call calling served
    refine ⟨?_, ?_, ?_⟩
    · rw [calls]
      split
      · rename_i same
        rw [same] at used
        exact (keeps call used).1
      · exact used
    · intro rsqData found
      rw [calls] at found
      split at found
      · rename_i same
        rw [same] at used record
        obtain ⟨before, held, data, number⟩ :=
          (keeps call used).2 rsqData found
        obtain ⟨first, second⟩ := record before held
        exact ⟨data.trans first, number.trans second⟩
      · exact record rsqData found
    · intro reply messageId member named
      rcases List.mem_append.mp member with earlier | now
      · exact replied reply messageId earlier named
      · obtain ⟨rfl, key, listed⟩ := new other call reply now
        obtain ⟨rsqData, held, number, stored⟩ :=
          (names call key reply listed).2 messageId named
        obtain ⟨data, sequence⟩ := record rsqData held
        have same : recordFor item messageId = rsqData := by
          unfold recordFor
          rw [← data, ← sequence, ← number]
        rw [same]
        exact stored
  · intro other call reply member
    rw [calls]
    rcases List.mem_append.mp member with earlier | now
    · have used := vouched.replied other call reply earlier
      split
      · rename_i same
        rw [same] at used
        exact (keeps call used).1
      · exact used
    · obtain ⟨rfl, key, listed⟩ := new other call reply now
      rw [if_pos rfl]
      exact (names call key reply listed).1
  · intro session item ack member
    rcases List.mem_append.mp member with earlier | now
    · exact vouched.acknowledged session item ack earlier
    · obtain ⟨event, _, equality⟩ := List.mem_map.mp now
      cases equality

theorem request (vouched : Vouched trace system)
    {session place call : Nat} {item : UserMsgData}
    (calling : (system.readers session).deliverTask = .calling item)
    {result : UpstreamTransferServicer × List UpstreamEvent}
    (taken : RequestTaken (system.instances place).servicer result.1 call
      item.data item.deliveryId result.2) :
    Vouched (trace ++ (system.serve place result).2)
      ((system.serve place result).1.setServing session
        (some (place, call))) := by
  obtain ⟨phase, calls, kind⟩ := taken.calls
  have used : phase ≠ .unused := by
    rcases kind with rfl | rfl
    · exact CallPhase.noConfusion
    · exact CallPhase.noConfusion
  have served : Vouched (trace ++ (system.serve place result).2)
      (system.serve place result).1 := by
    apply vouched.serve ((vouched.instances place).request taken)
    · intro other before
      have different : other ≠ call := by
        rintro rfl
        exact before taken.unused
      rw [calls, Function.update_of_ne different]
      exact ⟨before, fun rsqData found => ⟨rsqData, found, rfl, rfl⟩⟩
    · intro other key reply member
      obtain ⟨rfl, nothing⟩ := taken.replied other key reply member
      rw [calls, Function.update_self, nothing]
      refine ⟨used, ?_⟩
      intro messageId named
      cases named
  have phases : ((system.serve place result).1.instances
      place).servicer.calls = result.1.calls := by
    simp only [ChatSystem.serve, ChatSystem.setInstance,
      Function.update_self]
  refine ⟨served.instances, ?_, ?_, served.replied, served.acknowledged⟩
  · intro other waiting
    simp only [ChatSystem.setServing, Function.update_apply]
    split
    · rename_i same
      rw [same] at waiting
      cases waiting.symm.trans calling
    · exact served.idle other waiting
  · intro other given at_place number now serving
    simp only [ChatSystem.setServing, Function.update_apply] at serving
    split at serving
    · rename_i same
      rw [same] at now
      cases serving
      cases calling.symm.trans now
      refine ⟨?_, ?_, ?_⟩
      · change ((system.serve place result).1.instances
          place).servicer.calls call ≠ .unused
        rw [phases, calls, Function.update_self]
        exact used
      · intro rsqData found
        change recordOf (((system.serve place result).1.instances
          place).servicer.calls call) = some rsqData at found
        rw [phases, calls, Function.update_self] at found
        rcases kind with rfl | rfl
        · cases found
        · cases found
          exact ⟨rfl, rfl⟩
      · intro reply messageId member named
        rcases List.mem_append.mp member with earlier | new
        · exact absurd taken.unused
            (vouched.replied place call reply earlier)
        · obtain ⟨event, listed, found⟩ := List.mem_filterMap.mp new
          cases event with
          | replied other key given =>
              cases found
              rw [(taken.replied call key reply listed).2] at named
              cases named
          | checked other key now => cases found
          | publishStarted other rsqData now => cases found
          | publishEnded other rsqData outcome now => cases found
    · obtain ⟨inUse, record, replied⟩ :=
        served.serving other given at_place number now serving
      exact ⟨inUse, record, replied⟩

theorem setPipeline (vouched : Vouched trace system) {pipeline : Pipeline}
    (grows : ∀ entry ∈ system.pipeline.log, entry ∈ pipeline.log) :
    Vouched trace { system with pipeline := pipeline } := by
  have more : ∀ record, system.HasRecord record →
      ChatSystem.HasRecord { system with pipeline := pipeline }
        record := by
    rintro record ⟨entry, member, same⟩
    exact ⟨entry, grows entry member, same⟩
  refine ⟨?_, vouched.idle, ?_, vouched.replied, ?_⟩
  · intro place
    exact (vouched.instances place).mono more
  · intro session item place call calling served
    obtain ⟨used, record, replied⟩ :=
      vouched.serving session item place call calling served
    exact ⟨used, record, fun reply messageId member named =>
      more _ (replied reply messageId member named)⟩
  · intro session item ack member
    exact more _ (vouched.acknowledged session item ack member)

/-- Only the producer of an instance changes. -/
theorem setInstance (vouched : Vouched trace system) {place : Nat}
    {changed : UpstreamInstance Stream}
    (sound : changed.Vouched system.HasRecord)
    (same : changed.servicer = (system.instances place).servicer) :
    Vouched trace (system.setInstance place changed) := by
  have servicers : ∀ other,
      ((system.setInstance place changed).instances other).servicer =
        (system.instances other).servicer := by
    intro other
    simp only [ChatSystem.setInstance, Function.update_apply]
    split
    · rename_i here
      rw [here, same]
    · rfl
  refine ⟨?_, vouched.idle, ?_, ?_, vouched.acknowledged⟩
  · intro other
    simp only [ChatSystem.setInstance, Function.update_apply]
    split
    · exact sound
    · exact vouched.instances other
  · intro session item other call calling served
    obtain ⟨used, record, replied⟩ :=
      vouched.serving session item other call calling served
    exact ⟨servicers other ▸ used, servicers other ▸ record, replied⟩
  · intro other call reply member
    rw [servicers]
    exact vouched.replied other call reply member

theorem upstream (vouched : Vouched trace system) {place : Nat}
    {result : UpstreamTransferServicer × List UpstreamEvent}
    (serving : OwnServing (system.instances place).servicer result.1
      result.2) :
    Vouched (trace ++ (system.serve place result).2)
      (system.serve place result).1 := by
  have keeps : ∀ call,
      (system.instances place).servicer.calls call ≠ .unused →
        result.1.calls call ≠ .unused := by
    intro call used
    rcases serving.calls call with
      same | ⟨_, finished⟩ | ⟨_, _, _, _, published, _⟩
    · rw [same]
      exact used
    · rw [finished]
      exact CallPhase.noConfusion
    · rw [published]
      exact CallPhase.noConfusion
  apply vouched.serve ((vouched.instances place).ownStep serving)
  · intro call used
    refine ⟨keeps call used, ?_⟩
    intro rsqData found
    rcases serving.calls call with
      same | ⟨_, finished⟩ | ⟨before, _, _, flicking, published, _⟩
    · rw [same] at found
      exact ⟨rsqData, found, rfl, rfl⟩
    · rw [finished] at found
      cases found
    · rw [published] at found
      cases found
      rw [flicking]
      exact ⟨before, rfl, rfl, rfl⟩
  · intro call key reply member
    obtain ⟨used, named⟩ := serving.replied call key reply member
    refine ⟨keeps call used, ?_⟩
    intro messageId same
    obtain ⟨rsqData, phase, number⟩ := named messageId same
    refine ⟨rsqData, ?_, number,
      (vouched.instances place).confirmed call rsqData phase⟩
    rw [phase]
    rfl

theorem passOn (vouched : Vouched trace system)
    {place : Nat} {confirmation : ConfirmationStatus}
    (wrapper : MessageWrapper)
    (untraced : (system.instances place).servicer.Untraced)
    (own : ∀ rsqData confirmed,
      (system.instances place).servicer.calls wrapper.1 =
        .publishing rsqData confirmed → rsqData = wrapper.2)
    (stored : confirmation.isConfirmed = true →
      system.HasRecord wrapper.2) :
    let passed := system.passOn place (some (confirmation, wrapper))
    Vouched (trace ++ passed.2) passed.1 := by
  simp only [ChatSystem.passOn]
  split
  · exact vouched.note (by simp)
  · rename_i result stepped
    have taken := confirmed_step untraced stepped
    apply vouched.serve
    · apply (vouched.instances place).confirm taken
      intro succeeded rsqData confirmed phase
      rw [own rsqData confirmed phase]
      exact stored succeeded
    · intro call used
      rcases taken.calls call with
        same | ⟨rfl, _, rsqData, _, phase, after⟩
      · rw [same]
        exact ⟨used, fun rsqData found => ⟨rsqData, found, rfl, rfl⟩⟩
      · rw [after, phase]
        exact ⟨CallPhase.noConfusion,
          fun rsqData found => ⟨rsqData, found, rfl, rfl⟩⟩
    · intro call key reply member
      exact absurd member (taken.replied call key reply)

theorem step [DecidableEq Stream] {route : String → Stream}
    {action : ChatAction Stream} (traced : Traced formats trace system)
    (vouched : Vouched trace system)
    (sound : ChatSystem.Sound route system action)
    (stepped : ChatSystem.step formats route system action =
      some (next, events)) : Vouched (trace ++ events) next := by
  cases action with
  | reader session action =>
      simp only [ChatSystem.step] at stepped
      split at stepped
      · rename_i own
        obtain ⟨⟨reader, happened⟩, read, equality⟩ :=
          Option.map_eq_some_iff.mp stepped
        cases equality
        exact vouched.own (ownReading_step own read)
      · cases stepped
  | deliverMessage session place call idService =>
      simp only [ChatSystem.step] at stepped
      split at stepped
      · rename_i item calling _
        obtain ⟨result, taken, equality⟩ :=
          Option.map_eq_some_iff.mp stepped
        cases equality
        exact vouched.request calling
          (requested_step (traced.instances place).untraced taken)
      · cases stepped
  | upstream place action =>
      simp only [ChatSystem.step] at stepped
      split at stepped
      · rename_i own
        obtain ⟨result, served, equality⟩ :=
          Option.map_eq_some_iff.mp stepped
        have gone := vouched.upstream (ownServing_step
          (traced.instances place).untraced own served)
        rw [equality] at gone
        exact gone
      · cases stepped
  | send place call taken =>
      simp only [ChatSystem.step] at stepped
      split at stepped
      · rename_i rsqData publishing
        split at stepped
        · cases stepped
        · cases stepped
          rw [List.append_nil]
          have held : rsqData ∈ recordOf
              ((system.instances place).servicer.calls call) := by
            rw [publishing]
            rfl
          exact vouched.setInstance ((vouched.instances place).send
            publishing (sound rsqData held)) rfl
      · cases stepped
  | store place stream publishingId =>
      obtain ⟨publication, _, stored⟩ := Option.bind_eq_some_iff.mp stepped
      cases stored
      rw [List.append_nil]
      apply vouched.setPipeline
      intro entry member
      exact List.mem_append_left _ member
  | confirm place stream confirmation =>
      simp only [ChatSystem.step] at stepped
      split at stepped
      · cases stepped
      · rename_i publication pending
        split at stepped
        · rename_i stored
          have member := List.mem_of_find?_eq_some pending
          have key : publication.key = (stream, confirmation.messageId) := by
            simpa using List.find?_some pending
          obtain ⟨settled, passed⟩ := (vouched.instances place).settle
            member (congrArg Prod.snd key)
          rw [passed] at stepped
          have moved : Vouched trace (system.setInstance place
              ((system.instances place).settle confirmation
                publication.key)) :=
            vouched.setInstance settled rfl
          have same : (system.setInstance place
              ((system.instances place).settle confirmation
                publication.key)).instances place =
              (system.instances place).settle confirmation
                publication.key := Function.update_self ..
          have ended := moved.passOn publication.message
            (by
              rw [same]
              exact (traced.instances place).untraced)
            (by
              rw [same]
              exact ((vouched.instances place).own publication member).2)
            stored
          rw [Option.some.inj stepped] at ended
          exact ended
        · cases stepped
  | miss place stream publishingId =>
      obtain ⟨publication, _, equality⟩ := Option.map_eq_some_iff.mp stepped
      cases equality
      rw [List.append_nil]
      exact vouched.setInstance ((vouched.instances place).miss _) rfl
  | delivered session transport =>
      obtain ⟨⟨reader, happened⟩, read, equality⟩ :=
        Option.map_eq_some_iff.mp stepped
      cases equality
      exact vouched.delivered (delivered_step read)
  | pipeline action =>
      simp only [ChatSystem.step] at stepped
      split at stepped
      · rename_i own
        obtain ⟨⟨pipeline, happened⟩, moved, equality⟩ :=
          Option.map_eq_some_iff.mp stepped
        cases equality
        rw [List.append_nil]
        apply vouched.setPipeline
        rcases Pipeline.step_log moved with same | ⟨message, rfl⟩
        · rw [same]
          exact fun _ member => member
        · cases own
      · cases stepped

theorem initial [DecidableEq Stream] (sequences : Nat → Stream → Nat) :
    Vouched [] (ChatSystem.start sequences) where
  instances := fun place =>
    { listed := ⟨[], RMQStreamProducer.listed_start (sequences place)⟩
      sent := fun _ member => absurd member List.not_mem_nil
      own := fun _ member => absurd member List.not_mem_nil
      confirmed := by
        intro _ _ found
        cases found }
  idle := fun _ _ => rfl
  serving := by
    intro _ _ _ _ calling
    cases calling
  replied := fun _ _ _ member => absurd member List.not_mem_nil
  acknowledged := fun _ _ _ member => absurd member List.not_mem_nil

end Vouched

theorem run_vouched [DecidableEq Stream] {formats : Formats}
    {route : String → Stream} {sequences : Nat → Stream → Nat}
    {trace : List ChatEvent} {system : ChatSystem Stream}
    (run : Run (ChatSystem.step formats route) (ChatSystem.Sound route)
      (ChatSystem.start sequences) trace system) :
    Traced formats trace system ∧ Vouched trace system := by
  induction run with
  | refl => exact ⟨Traced.initial sequences, Vouched.initial sequences⟩
  | snoc _ sound stepped induction =>
      obtain ⟨traced, vouched⟩ := induction
      exact ⟨traced.step stepped, vouched.step traced sound stepped⟩

/-! ## The way to the receiver -/

/-- The record that an event publishes. -/
def startedRecord : ChatEvent → Option RStreamMsgData
  | .upstream _ (.publishStarted _ record _) => some record
  | _ => none

/-- The id service gives every id once. -/
def UniqueIds (trace : List ChatEvent) : Prop :=
  ((trace.filterMap startedRecord).map RStreamMsgData.messageId).Nodup

instance (trace : List ChatEvent) : Decidable (UniqueIds trace) :=
  inferInstanceAs (Decidable (List.Nodup _))

theorem distinct_log {formats : Formats} {trace : List ChatEvent}
    {system : ChatSystem Stream} (traced : Traced formats trace system)
    (unique : UniqueIds trace) : Distinct system.pipeline.log := by
  intro first one second two same
  have started : ∀ entry ∈ system.pipeline.log,
      entry.2 ∈ trace.filterMap startedRecord := by
    intro entry member
    obtain ⟨place, call, now, event⟩ := (traced.log entry member).2
    exact List.mem_filterMap.mpr ⟨_, event, rfl⟩
  exact List.inj_on_of_nodup_map unique (started first one)
    (started second two) same

/-- Only the consumers of the queues go on. -/
def ChatSystem.ConsumersOnly (system : ChatSystem Stream) :
    ChatAction Stream → Prop
  | .pipeline action => system.pipeline.ConsumersOnly action
  | _ => False

theorem run_of_consumers [DecidableEq Stream] {formats : Formats}
    {route : String → Stream} {system : ChatSystem Stream}
    {final : Pipeline} {later : List Empty}
    (run : Run Pipeline.step Pipeline.ConsumersOnly system.pipeline later
      final) :
    ∃ events, Run (ChatSystem.step formats route)
      ChatSystem.ConsumersOnly system events
      { system with pipeline := final } := by
  induction run with
  | refl => exact ⟨[], .refl⟩
  | @snoc trace events state next action before allowed stepped induction =>
      obtain ⟨earlier, reached⟩ := induction
      have own : ownOfPipeline action = true := by
        cases action with
        | publish message => exact allowed.elim
        | _ => rfl
      refine ⟨earlier ++ [], reached.act (.pipeline action) allowed ?_⟩
      simp only [ChatSystem.step, own, if_true, stepped]
      rfl

/-- A message that was acknowledged to its sender is in the stream, and once
its record was acknowledged after it was handled, the consumers of the queues
lead from every state to one where its receiver can pull it, or a message of
the same sender with the same delivery id. -/
theorem acknowledged_pulled [DecidableEq Stream] {formats : Formats}
    {route : String → Stream} {sequences : Nat → Stream → Nat}
    {trace : List ChatEvent} {system : ChatSystem Stream}
    (run : Run (ChatSystem.step formats route) (ChatSystem.Sound route)
      (ChatSystem.start sequences) trace system)
    (unique : UniqueIds trace) :
    ∃ later final,
      Run (ChatSystem.step formats route) ChatSystem.ConsumersOnly system
        later final ∧
      ∀ session item ack,
        .reader session (.acknowledged item ack) ∈ trace →
        system.HasRecord (recordFor item ack.messageId) ∧
        ((∃ entry ∈ system.pipeline.released,
            entry.2 = recordFor item ack.messageId) →
          ∀ last < (ack.messageId : Int), ∀ calls : PullCalls,
            calls.Reaching → ∃ messages,
              calls.response (inboxTable final.pipeline.backlog.done)
                item.data.receiverId (.number last) = .data messages ∧
              ∃ other ∈ system.pipeline.log,
                other.2.data.senderId = item.data.senderId ∧
                other.2.data.receiverId = item.data.receiverId ∧
                other.2.deliveryId = item.deliveryId ∧
                (Repeats system.pipeline.log → other.2.data = item.data) ∧
                pulledRecord other.2 ∈ messages) := by
  obtain ⟨traced, vouched⟩ := run_vouched run
  obtain ⟨happened, behind⟩ :
      ∃ happened, Run Pipeline.step Pipeline.Sound {} happened
        system.pipeline :=
    run_pipeline (fun _ _ => trivial) (fun _ _ sound => sound) run
  obtain ⟨drained, leads, empty⟩ := system.pipeline.leads_drained
  obtain ⟨_, whole⟩ := leads.after behind
  obtain ⟨log, released, moved, rest⟩ := leads
  obtain ⟨events, consumed⟩ := run_of_consumers rest
  refine ⟨events, _, consumed, ?_⟩
  intro session item ack acknowledged
  refine ⟨vouched.acknowledged session item ack acknowledged, ?_⟩
  rintro ⟨entry, member, same⟩ last below calls reaching
  rw [← released] at member
  have written : .inbox (inboxRequest (readModelEvent entry.2)) ∈
      drained.backlog.done := by
    apply ((run_custody whole).released entry member _ ?_).done empty
    exact List.mem_cons_of_mem _ List.mem_cons_self
  have distinct : Distinct drained.log := by
    rw [log]
    exact distinct_log traced unique
  rw [same] at written
  have pulled := (run_stems whole.any).pullable distinct written below
    reaching
  rw [log] at pulled
  exact pulled

theorem acknowledged_pulled_sample :
    ∃ trace system later final,
      Run sampleStep (ChatSystem.Sound (fun _ => ())) sampleStart trace
        system ∧
      answeredCalls.response (inboxTable system.pipeline.backlog.done) 2
        (.number 0) = .data [] ∧
      Run sampleStep ChatSystem.ConsumersOnly system later final ∧
      ∃ messages,
        answeredCalls.response (inboxTable final.pipeline.backlog.done) 2
          (.number 0) = .data messages ∧
        ∃ other ∈ system.pipeline.log, other.2.data.senderId = 9 ∧
          pulledRecord other.2 ∈ messages := by
  have ran : ∃ trace system,
      Run sampleStep (ChatSystem.Sound (fun _ => ())) sampleStart trace
        system ∧
      UniqueIds trace ∧
      .reader 0 (.acknowledged MessageReader.helloItem
        { evtTp := .ackUserMessage, channelNumber := 0
          deliveryId := 1, messageId := 100 }) ∈ trace ∧
      system.pipeline.released =
        [(0, recordFor MessageReader.helloItem 100)] ∧
      answeredCalls.response (inboxTable system.pipeline.backlog.done) 2
        (.number 0) = .data [] := by
    apply Run.exists_both_of_exec
      (acknowledgingActions ++ handlingActions)
    decide +kernel
  obtain ⟨trace, system, run, unique, acknowledged, released, before⟩ := ran
  obtain ⟨later, final, rest, leads⟩ := acknowledged_pulled run unique
  refine ⟨trace, system, later, final, run, before, rest, ?_⟩
  have handled : ∃ entry ∈ system.pipeline.released,
      entry.2 = recordFor MessageReader.helloItem 100 := by
    rw [released]
    exact ⟨_, List.mem_singleton_self _, rfl⟩
  obtain ⟨messages, pulled, other, member, sender, _, _, _, listed⟩ :=
    (leads 0 _ _ acknowledged).2 handled 0 (by decide) answeredCalls
      (by decide)
  exact ⟨messages, pulled, other, member, sender, listed⟩

end Relay

end TinyChat
