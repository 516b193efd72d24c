import TinyChat.Relay.Instance

/-!
# Every record was sent by a client

Whatever an instance publishes and the stream has was received by a session
in a frame.  So a user pulls nothing that no client has sent.
-/

namespace TinyChat

namespace Relay

open Transition Auth Gateway Upstream Rmq Worker Downstream

/-- A session has received a frame with the message. -/
def ReceivedBy (formats : Formats) (trace : List ChatEvent) (session : Nat)
    (item : UserMsgData) : Prop :=
  ∃ bytes, .reader session (.received bytes) ∈ trace ∧
    MessageReader.messageOf formats bytes = some item

/-- The record has a message that was received. -/
def Received (formats : Formats) (trace : List ChatEvent)
    (record : RStreamMsgData) : Prop :=
  ∃ session item, ReceivedBy formats trace session item ∧
    record.data = item.data ∧ record.deliveryId = item.deliveryId

/-- The record was published under its id. -/
def Started (trace : List ChatEvent) (record : RStreamMsgData) : Prop :=
  ∃ place call now,
    .upstream place (.publishStarted call record now) ∈ trace

section

variable {formats : Formats} {trace : List ChatEvent}
  {record : RStreamMsgData} {session : Nat} {item : UserMsgData}

theorem ReceivedBy.grow (received : ReceivedBy formats trace session item)
    (events : List ChatEvent) :
    ReceivedBy formats (trace ++ events) session item := by
  obtain ⟨bytes, member, parsed⟩ := received
  exact ⟨bytes, List.mem_append_left _ member, parsed⟩

theorem Received.grow (received : Received formats trace record)
    (events : List ChatEvent) :
    Received formats (trace ++ events) record := by
  obtain ⟨session, item, known, same⟩ := received
  exact ⟨session, item, known.grow events, same⟩

theorem Received.numbered (received : Received formats trace record)
    (messageId : Int) :
    Received formats trace { record with messageId := messageId } :=
  received

theorem Started.grow (started : Started trace record)
    (events : List ChatEvent) : Started (trace ++ events) record := by
  obtain ⟨place, call, now, member⟩ := started
  exact ⟨place, call, now, List.mem_append_left _ member⟩

end

variable {Stream : Type}

/-- The messages of an instance were received, and are published under their
ids. -/
structure UpstreamInstance.Traced (formats : Formats)
    (trace : List ChatEvent) (servant : UpstreamInstance Stream) : Prop where
  untraced : servant.servicer.Untraced
  received : ∀ call rsqData,
    recordOf (servant.servicer.calls call) = some rsqData →
      Received formats trace rsqData
  started : ∀ call rsqData confirmed,
    servant.servicer.calls call = .publishing rsqData confirmed →
      Started trace rsqData
  published : ∀ publication ∈ servant.producer.unconfirmed,
    Received formats trace publication.message.2 ∧
      Started trace publication.message.2

namespace UpstreamInstance.Traced

variable {formats : Formats} {trace : List ChatEvent}
  {servant : UpstreamInstance Stream} {next : UpstreamTransferServicer}
  {events : List UpstreamEvent}

theorem grow (traced : servant.Traced formats trace)
    (events : List ChatEvent) : servant.Traced formats (trace ++ events) where
  untraced := traced.untraced
  received := fun call rsqData found =>
    (traced.received call rsqData found).grow events
  started := fun call rsqData confirmed found =>
    (traced.started call rsqData confirmed found).grow events
  published := fun publication member =>
    ⟨(traced.published publication member).1.grow events,
      (traced.published publication member).2.grow events⟩

theorem own (traced : servant.Traced formats trace)
    (serving : OwnServing servant.servicer next events) (place : Nat) :
    { servant with servicer := next }.Traced formats
      (trace ++ events.map (ChatEvent.upstream place)) := by
  have grown := traced.grow (events.map (ChatEvent.upstream place))
  refine ⟨serving.untraced, ?_, ?_, grown.published⟩
  · intro call rsqData found
    rcases serving.calls call with
      same | ⟨_, finished⟩ | ⟨before, number, now, flicking, published, _⟩
    · rw [same] at found
      exact grown.received call rsqData found
    · rw [finished] at found
      cases found
    · rw [published] at found
      cases found
      apply Received.numbered
      apply grown.received call
      rw [flicking]
      rfl
  · intro call rsqData confirmed found
    rcases serving.calls call with
      same | ⟨_, finished⟩ | ⟨before, number, now, _, published, started⟩
    · rw [same] at found
      exact grown.started call rsqData confirmed found
    · rw [finished] at found
      cases found
    · rw [published] at found
      cases found
      exact ⟨place, call, now,
        List.mem_append_right _ (List.mem_map_of_mem started)⟩

theorem requested (traced : servant.Traced formats trace) {call : Nat}
    {session : Nat} {item : UserMsgData}
    (taken : RequestTaken servant.servicer next call item.data
      item.deliveryId events)
    (known : ReceivedBy formats trace session item) (place : Nat) :
    { servant with servicer := next }.Traced formats
      (trace ++ events.map (ChatEvent.upstream place)) := by
  have grown := traced.grow (events.map (ChatEvent.upstream place))
  obtain ⟨phase, calls, kind⟩ := taken.calls
  refine ⟨taken.untraced, ?_, ?_, grown.published⟩
  · intro other rsqData found
    rw [calls, Function.update_apply] at found
    split at found
    · rcases kind with rfl | rfl
      · cases found
      · cases found
        exact ⟨session, item, known.grow _, rfl, rfl⟩
    · exact grown.received other rsqData found
  · intro other rsqData confirmed found
    rw [calls, Function.update_apply] at found
    split at found
    · rcases kind with rfl | rfl
      · cases found
      · cases found
    · exact grown.started other rsqData confirmed found

theorem confirmed (traced : servant.Traced formats trace) {call : Nat}
    {success : Bool}
    (taken : ConfirmationTaken servant.servicer next call success events)
    (place : Nat) :
    { servant with servicer := next }.Traced formats
      (trace ++ events.map (ChatEvent.upstream place)) := by
  have grown := traced.grow (events.map (ChatEvent.upstream place))
  refine ⟨taken.untraced, ?_, ?_, grown.published⟩
  · intro other rsqData found
    rcases taken.calls other with same | ⟨rfl, _, published, before, phase,
      after⟩
    · rw [same] at found
      exact grown.received other rsqData found
    · rw [after] at found
      cases found
      apply grown.received other
      rw [phase]
      rfl
  · intro other rsqData settled found
    rcases taken.calls other with same | ⟨rfl, _, published, before, phase,
      after⟩
    · rw [same] at found
      exact grown.started other rsqData settled found
    · rw [after] at found
      cases found
      exact grown.started other _ before phase

variable [DecidableEq Stream]

theorem send (traced : servant.Traced formats trace) {call : Nat}
    {rsqData : RStreamMsgData}
    (publishing : servant.servicer.calls call = .publishing rsqData false)
    (stream : Stream) (taken : Bool) :
    (servant.send call rsqData stream taken).Traced formats trace := by
  refine ⟨traced.untraced, traced.received, traced.started, ?_⟩
  have known : Received formats trace rsqData := by
    apply traced.received call
    rw [publishing]
    rfl
  have started := traced.started call rsqData false publishing
  intro publication member
  cases taken with
  | false => exact traced.published publication member
  | true =>
      rcases List.mem_cons.mp member with rfl | earlier
      · exact ⟨known, started⟩
      · exact traced.published publication earlier

theorem settle (traced : servant.Traced formats trace)
    (confirmation : ConfirmationStatus) (key : Stream × Nat) :
    (servant.settle confirmation key).Traced formats trace := by
  refine ⟨traced.untraced, traced.received, traced.started, ?_⟩
  intro publication member
  apply traced.published
  have listed := (List.mem_filter.mp member).1
  unfold RMQStreamProducer.publishCbWrapper at listed
  split at listed
  · exact listed
  · exact listed

theorem miss (traced : servant.Traced formats trace)
    (key : Stream × Nat) : (servant.miss key).Traced formats trace := by
  refine ⟨traced.untraced, traced.received, traced.started, ?_⟩
  intro publication member
  exact traced.published publication (List.mem_filter.mp member).1

end UpstreamInstance.Traced

/-- The messages of the sessions were received by them, and what is in the
instances and in the stream was received by a session. -/
structure Traced (formats : Formats) (trace : List ChatEvent)
    (system : ChatSystem Stream) : Prop where
  pending : ∀ session, ∀ item ∈ (system.readers session).pendingDeliver,
    ReceivedBy formats trace session item
  calling : ∀ session item,
    (system.readers session).deliverTask = .calling item →
      ReceivedBy formats trace session item
  instances : ∀ place, (system.instances place).Traced formats trace
  log : ∀ entry ∈ system.pipeline.log,
    Received formats trace entry.2 ∧ Started trace entry.2

namespace Traced

variable {formats : Formats} {trace : List ChatEvent}
  {system next : ChatSystem Stream} {events : List ChatEvent}

theorem grow (traced : Traced formats trace system)
    (events : List ChatEvent) : Traced formats (trace ++ events) system where
  pending := fun session item member =>
    (traced.pending session item member).grow events
  calling := fun session item calling =>
    (traced.calling session item calling).grow events
  instances := fun place => (traced.instances place).grow events
  log := fun entry member => ⟨(traced.log entry member).1.grow events,
    (traced.log entry member).2.grow events⟩

theorem setReader (traced : Traced formats trace system) {session : Nat}
    {reader : MessageReader}
    (pending : ∀ item ∈ reader.pendingDeliver,
      ReceivedBy formats trace session item)
    (calling : ∀ item, reader.deliverTask = .calling item →
      ReceivedBy formats trace session item) :
    Traced formats trace (system.setReader session reader) where
  pending := by
    intro other item member
    simp only [ChatSystem.setReader, Function.update_apply] at member
    split at member
    · rename_i same
      rw [same]
      exact pending item member
    · exact traced.pending other item member
  calling := by
    intro other item task
    simp only [ChatSystem.setReader, Function.update_apply] at task
    split at task
    · rename_i same
      rw [same]
      exact calling item task
    · exact traced.calling other item task
  instances := traced.instances
  log := traced.log

theorem setInstance (traced : Traced formats trace system) (place : Nat)
    {changed : UpstreamInstance Stream}
    (sound : changed.Traced formats trace) :
    Traced formats trace (system.setInstance place changed) where
  pending := traced.pending
  calling := traced.calling
  instances := by
    intro other
    simp only [ChatSystem.setInstance, Function.update_apply]
    split
    · exact sound
    · exact traced.instances other
  log := traced.log

theorem serve (traced : Traced formats trace system) {place : Nat}
    {result : UpstreamTransferServicer × List UpstreamEvent}
    (sound : { system.instances place with
      servicer := result.1 }.Traced formats
        (trace ++ result.2.map (ChatEvent.upstream place))) :
    Traced formats (trace ++ (system.serve place result).2)
      (system.serve place result).1 := by
  obtain ⟨pending, calling, instances, log⟩ :=
    (traced.grow (result.2.map (ChatEvent.upstream place))).setInstance
      place sound
  exact ⟨pending, calling, instances, log⟩

theorem setPipeline (traced : Traced formats trace system)
    {pipeline : Pipeline} (log : ∀ entry ∈ pipeline.log,
      Received formats trace entry.2 ∧ Started trace entry.2) :
    Traced formats trace { system with pipeline := pipeline } where
  pending := traced.pending
  calling := traced.calling
  instances := traced.instances
  log := log

theorem own (traced : Traced formats trace system) {session : Nat}
    {reader : MessageReader} {happened : List ReaderEvent}
    (reading : OwnReading formats (system.readers session) reader
      happened) :
    Traced formats (trace ++ happened.map (.reader session))
      (system.setReader session reader) := by
  have grown := traced.grow (happened.map (.reader session))
  apply grown.setReader
  · intro item member
    rcases reading.pending item member with earlier | ⟨bytes, new, parsed⟩
    · exact grown.pending session item earlier
    · exact ⟨bytes, List.mem_append_right _ (List.mem_map_of_mem new),
        parsed⟩
  · intro item calling
    rcases reading.task with same | ended | ⟨_, taken, listed, task⟩
    · rw [same] at calling
      exact grown.calling session item calling
    · rw [ended] at calling
      cases calling
    · rw [task] at calling
      cases calling
      exact grown.pending session item listed

/-- A confirmation reaches its call, or nobody. -/
theorem passOn (traced : Traced formats trace system) (place : Nat)
    (called : Option (ConfirmationStatus × MessageWrapper)) :
    Traced formats (trace ++ (system.passOn place called).2)
      (system.passOn place called).1 := by
  unfold ChatSystem.passOn
  split
  · exact traced.grow []
  · split
    · exact traced.grow []
    · rename_i result stepped
      apply traced.serve
      exact (traced.instances place).confirmed (confirmed_step
        (traced.instances place).untraced stepped) place

theorem step [DecidableEq Stream] {route : String → Stream}
    {action : ChatAction Stream} (traced : Traced formats trace system)
    (stepped : ChatSystem.step formats route system action =
      some (next, events)) : Traced formats (trace ++ events) next := by
  cases action with
  | reader session action =>
      simp only [ChatSystem.step] at stepped
      split at stepped
      · rename_i own
        obtain ⟨⟨reader, happened⟩, read, equality⟩ :=
          Option.map_eq_some_iff.mp stepped
        cases equality
        exact traced.own (ownReading_step own read)
      · cases stepped
  | deliverMessage session place call idService =>
      simp only [ChatSystem.step] at stepped
      split at stepped
      · rename_i item calling _
        obtain ⟨⟨servicer, happened⟩, taken, equality⟩ :=
          Option.map_eq_some_iff.mp stepped
        cases equality
        have sound := (traced.instances place).requested
          (requested_step (traced.instances place).untraced taken)
          (traced.calling session item calling) place
        obtain ⟨pending, calls, instances, log⟩ :=
          @serve _ _ _ _ traced place (servicer, happened) sound
        exact ⟨pending, calls, instances, log⟩
      · cases stepped
  | upstream place action =>
      simp only [ChatSystem.step] at stepped
      split at stepped
      · rename_i own
        obtain ⟨⟨servicer, happened⟩, served, equality⟩ :=
          Option.map_eq_some_iff.mp stepped
        cases equality
        apply traced.serve
        exact (traced.instances place).own (ownServing_step
          (traced.instances place).untraced own served) place
      · cases stepped
  | send place call taken =>
      simp only [ChatSystem.step] at stepped
      split at stepped
      · rename_i rsqData publishing
        split at stepped
        · cases stepped
        · cases stepped
          rw [List.append_nil]
          exact traced.setInstance place
            ((traced.instances place).send publishing _ taken)
      · cases stepped
  | store place stream publishingId =>
      obtain ⟨publication, pending, stored⟩ :=
        Option.bind_eq_some_iff.mp stepped
      cases stored
      rw [List.append_nil]
      apply traced.setPipeline
      intro entry member
      rcases List.mem_append.mp member with earlier | new
      · exact traced.log entry earlier
      · rw [List.mem_singleton.mp new]
        exact (traced.instances place).published publication
          (List.mem_of_find?_eq_some pending)
  | confirm place stream confirmation =>
      simp only [ChatSystem.step] at stepped
      split at stepped
      · cases stepped
      · rename_i publication pending
        split at stepped
        · have settled := (traced.instances place).settle confirmation
            publication.key
          have passed := (traced.setInstance place settled).passOn place
            ((system.instances place).producer.publishCbWrapper
              confirmation).2
          rw [Option.some.inj stepped] at passed
          exact passed
        · cases stepped
  | miss place stream publishingId =>
      obtain ⟨publication, _, equality⟩ := Option.map_eq_some_iff.mp stepped
      cases equality
      rw [List.append_nil]
      exact traced.setInstance place ((traced.instances place).miss _)
  | delivered session transport =>
      obtain ⟨⟨reader, happened⟩, read, equality⟩ :=
        Option.map_eq_some_iff.mp stepped
      cases equality
      have delivered := delivered_step read
      obtain ⟨pending, calls, instances, log⟩ :=
        (traced.grow (happened.map (.reader session))).setReader
          (fun item member => (traced.pending session item
            (delivered.pending ▸ member)).grow _)
          (fun item calling => absurd calling (delivered.task item))
      exact ⟨pending, calls, instances, log⟩
  | pipeline action =>
      simp only [ChatSystem.step] at stepped
      split at stepped
      · rename_i own
        obtain ⟨⟨pipeline, happened⟩, moved, equality⟩ :=
          Option.map_eq_some_iff.mp stepped
        cases equality
        rw [List.append_nil]
        apply traced.setPipeline
        rcases Pipeline.step_log moved with same | ⟨message, rfl⟩
        · rw [same]
          exact traced.log
        · cases own
      · cases stepped

theorem initial [DecidableEq Stream] (sequences : Nat → Stream → Nat) :
    Traced formats [] (ChatSystem.start sequences) where
  pending := fun _ _ member => absurd member List.not_mem_nil
  calling := by
    intro _ _ calling
    cases calling
  instances := fun _ =>
    { untraced := UpstreamTransferServicer.untraced_start
      received := by
        intro _ _ found
        cases found
      started := by
        intro _ _ _ found
        cases found
      published := fun _ member => absurd member List.not_mem_nil }
  log := fun _ member => absurd member List.not_mem_nil

end Traced

theorem run_traced [DecidableEq Stream] {formats : Formats}
    {route : String → Stream} {sequences : Nat → Stream → Nat}
    {trace : List ChatEvent} {system : ChatSystem Stream}
    (run : AnyRun (ChatSystem.step formats route)
      (ChatSystem.start sequences) trace system) :
    Traced formats trace system := by
  apply run.invariant (Traced.initial sequences)
  intro trace events state next action traced _ stepped
  exact traced.step stepped

theorem passOn_pipeline (system : ChatSystem Stream) (place : Nat)
    (called : Option (ConfirmationStatus × MessageWrapper)) :
    (system.passOn place called).1.pipeline = system.pipeline := by
  unfold ChatSystem.passOn
  split
  · rfl
  · split
    · rfl
    · rfl

theorem step_pipeline [DecidableEq Stream] {formats : Formats}
    {route : String → Stream} {system next : ChatSystem Stream}
    {action : ChatAction Stream} {events : List ChatEvent}
    (stepped : ChatSystem.step formats route system action =
      some (next, events)) :
    next.pipeline = system.pipeline ∨
    (∃ message, Pipeline.step system.pipeline (.publish message) =
      some (next.pipeline, [])) ∨
    ∃ behind, action = .pipeline behind ∧
      Pipeline.step system.pipeline behind = some (next.pipeline, []) := by
  cases action with
  | reader session action =>
      simp only [ChatSystem.step] at stepped
      split at stepped
      · obtain ⟨_, _, equality⟩ := Option.map_eq_some_iff.mp stepped
        cases equality
        exact .inl rfl
      · cases stepped
  | deliverMessage session place call idService =>
      simp only [ChatSystem.step] at stepped
      split at stepped
      · obtain ⟨_, _, equality⟩ := Option.map_eq_some_iff.mp stepped
        cases equality
        exact .inl rfl
      · cases stepped
  | upstream place action =>
      simp only [ChatSystem.step] at stepped
      split at stepped
      · obtain ⟨_, _, equality⟩ := Option.map_eq_some_iff.mp stepped
        cases equality
        exact .inl rfl
      · cases stepped
  | send place call taken =>
      simp only [ChatSystem.step] at stepped
      split at stepped
      · split at stepped
        · cases stepped
        · cases stepped
          exact .inl rfl
      · cases stepped
  | store place stream publishingId =>
      obtain ⟨publication, _, stored⟩ :=
        Option.bind_eq_some_iff.mp stepped
      cases stored
      exact .inr (.inl ⟨publication.message.2, rfl⟩)
  | confirm place stream confirmation =>
      simp only [ChatSystem.step] at stepped
      split at stepped
      · cases stepped
      · rename_i publication _
        split at stepped
        · have kept := passOn_pipeline (system.setInstance place
              ((system.instances place).settle confirmation
                publication.key)) place
            ((system.instances place).producer.publishCbWrapper
              confirmation).2
          rw [Option.some.inj stepped] at kept
          exact .inl kept
        · cases stepped
  | miss place stream publishingId =>
      obtain ⟨_, _, equality⟩ := Option.map_eq_some_iff.mp stepped
      cases equality
      exact .inl rfl
  | delivered session transport =>
      obtain ⟨_, _, equality⟩ := Option.map_eq_some_iff.mp stepped
      cases equality
      exact .inl rfl
  | pipeline action =>
      simp only [ChatSystem.step] at stepped
      split at stepped
      · obtain ⟨⟨pipeline, happened⟩, moved, equality⟩ :=
          Option.map_eq_some_iff.mp stepped
        cases equality
        cases happened with
        | nil => exact .inr (.inr ⟨action, rfl, moved⟩)
        | cons event _ => cases event
      · cases stepped

theorem run_pipeline [DecidableEq Stream] {formats : Formats}
    {route : String → Stream} {sequences : Nat → Stream → Nat}
    {trace : List ChatEvent} {system : ChatSystem Stream}
    {allowed : ChatSystem Stream → ChatAction Stream → Prop}
    {sound : Pipeline → PipelineAction → Prop}
    (stores : ∀ pipeline message, sound pipeline (.publish message))
    (acts : ∀ system action, allowed system (.pipeline action) →
      sound system.pipeline action)
    (run : Run (ChatSystem.step formats route) allowed
      (ChatSystem.start sequences) trace system) :
    ∃ happened, Run Pipeline.step sound {} happened system.pipeline := by
  induction run with
  | refl => exact ⟨[], .refl⟩
  | @snoc trace events state next action _ permitted stepped induction =>
      obtain ⟨happened, earlier⟩ := induction
      rcases step_pipeline stepped with
        same | ⟨message, stored⟩ | ⟨behind, rfl, moved⟩
      · rw [same]
        exact ⟨happened, earlier⟩
      · exact ⟨_, earlier.snoc (stores _ message) stored⟩
      · exact ⟨_, earlier.snoc (acts _ _ permitted) moved⟩

/-- Whatever a user pulls, in any state that can be reached, some session
has received in a frame, for this user and with this text. -/
theorem pulled_received [DecidableEq Stream] {formats : Formats}
    {route : String → Stream} {sequences : Nat → Stream → Nat}
    {trace : List ChatEvent} {system : ChatSystem Stream}
    (run : AnyRun (ChatSystem.step formats route)
      (ChatSystem.start sequences) trace system)
    {calls : PullCalls} {uid last : Int} {messages : List PulledMessage}
    (pulled : calls.response (inboxTable system.pipeline.backlog.done) uid
      (.number last) = .data messages) :
    ∀ message ∈ messages, ∃ session bytes item,
      .reader session (.received bytes) ∈ trace ∧
      MessageReader.messageOf formats bytes = some item ∧
      item.data.receiverId = uid ∧
      message.sessionId = item.data.sessionId ∧
      message.senderId = item.data.senderId ∧
      message.text = item.data.text := by
  obtain ⟨happened, behind⟩ : ∃ happened, AnyRun Pipeline.step {}
      happened system.pipeline :=
    run_pipeline (fun _ _ => trivial) (fun _ _ _ => trivial) run
  intro message member
  obtain ⟨_, entry, listed, receiver, rfl⟩ :=
    (run_stems behind).pulled pulled message member
  obtain ⟨session, item, ⟨bytes, received, parsed⟩, data, _⟩ :=
    ((run_traced run).log entry listed).1
  rw [data] at receiver
  refine ⟨session, bytes, item, received, parsed, receiver, ?_⟩
  unfold pulledRecord
  rw [data]
  exact ⟨rfl, rfl, rfl⟩

/-! ## A run -/

/-- The message of a frame is published, stored and acknowledged. -/
def acknowledgingActions : List (ChatAction Unit) :=
  [.reader 0 (.receive MessageReader.helloFrame), .reader 0 (.deliver true),
    .deliverMessage 0 0 0 true, .upstream 0 (.flicked 0 (.success 100)),
    .send 0 0 true, .store 0 () 1,
    .confirm 0 () { messageId := 1, isConfirmed := true },
    .upstream 0 (.confirmed 0), .delivered 0 .answered]

/-- The record is handled while the read model is not available. -/
def handlingActions : List (ChatAction Unit) :=
  [.pipeline (.onMessage 0 Pipeline.troubled), .pipeline (.perform 0),
    .pipeline (.perform 0), .pipeline (.perform 0)]

/-- The dead letter is seen to. -/
def recoveringActions : List (ChatAction Unit) :=
  [.pipeline (.eventHandler 0 available),
    .pipeline (.deliverReadEvent 0 availableDownstream),
    .pipeline (.perform 2)]

def sampleStep : Step (ChatSystem Unit) (ChatAction Unit) ChatEvent :=
  ChatSystem.step MessageReader.helloFormats (fun _ => ())

def sampleStart : ChatSystem Unit :=
  ChatSystem.start (fun _ _ => 0)

def samplePulled : PulledMessage where
  messageId := 100
  sessionId := 7
  senderId := 9
  text := "hi"

theorem pulled_received_sample :
    ∃ trace system, AnyRun sampleStep sampleStart trace system ∧
      answeredCalls.response (inboxTable system.pipeline.backlog.done) 2
        (.number 0) = .data [samplePulled] ∧
      ∃ session bytes item, .reader session (.received bytes) ∈ trace ∧
        MessageReader.messageOf MessageReader.helloFormats bytes =
          some item ∧ item.data.text = "hi" := by
  have ran : ∃ trace system, AnyRun sampleStep sampleStart trace system ∧
      answeredCalls.response (inboxTable system.pipeline.backlog.done) 2
        (.number 0) = .data [samplePulled] := by
    apply Run.exists_state_of_exec
      (acknowledgingActions ++ handlingActions ++ recoveringActions)
    decide +kernel
  obtain ⟨trace, system, run, pulled⟩ := ran
  refine ⟨trace, system, run, pulled, ?_⟩
  obtain ⟨session, bytes, item, received, parsed, _, _, _, text⟩ :=
    pulled_received run pulled samplePulled (List.mem_singleton_self _)
  exact ⟨session, bytes, item, received, parsed, text.symm⟩

end Relay

end TinyChat
