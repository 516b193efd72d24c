import TinyChat.Manager.Dispatch

/-!
# Which events reach a worker

A worker that runs all the time decodes the dispatched events in order, but for
those whose length does not fit into one byte.
-/

namespace TinyChat

namespace Manager

variable {ε : Type}

/-- The events that were passed to `dispatch_event`. -/
def dispatchedEvents (trace : List (DispatchReport ε)) : List ε :=
  trace.filterMap fun
    | .dispatched event => some event
    | _ => none

/-- The events that a worker has decoded. -/
def decodedEvents (procSeq : Nat) (trace : List (DispatchReport ε)) :
    List ε :=
  trace.filterMap fun
    | .decoded other event => if other = procSeq then some event else none
    | _ => none

/-- The length of the event fits into the header. -/
def ProcCodec.fits (codec : ProcCodec ε) (event : ε) : Bool :=
  (codec.serializeToString event).length ≤ 255

theorem packByte_of_le {length : Nat} (small : length ≤ 255) :
    packByte length = some [UInt8.ofNat length] :=
  if_pos (Nat.lt_succ_of_le small)

theorem packByte_of_gt {length : Nat} (large : ¬ length ≤ 255) :
    packByte length = none :=
  if_neg (fun less => large (Nat.le_of_lt_succ less))

theorem lookup_map_feed (processes : Table Nat ChildProcess)
    (change : ChildProcess → ChildProcess) (procSeq : Nat) :
    List.lookup procSeq
      (processes.map fun entry => (entry.1, change entry.2)) =
        (processes.lookup procSeq).map change := by
  induction processes with
  | nil => rfl
  | cons entry processes induction =>
      rw [List.map_cons, List.lookup_cons, List.lookup_cons, induction]
      cases procSeq == entry.1 <;> rfl

namespace ProcessManager

variable {codec : ProcCodec ε} {procSeq : Nat}
  {trace events : List (DispatchReport ε)} {manager next : ProcessManager}

theorem child_setChild (manager : ProcessManager) (procSeq other : Nat)
    (child : ChildProcess) :
    (manager.setChild procSeq child).child other =
      if other = procSeq then some child else manager.child other :=
  Table.lookup_assign _ _ _ _

/-- What is known of a worker after a run: the events that it has decoded are
followed by those whose frames are on their way. -/
structure Carries (codec : ProcCodec ε) (procSeq : Nat)
    (trace : List (DispatchReport ε)) (child : ChildProcess)
    (waiting : List ε) : Prop where
  running : child.state = .running
  working : child.failed = false
  events : decodedEvents procSeq trace ++ waiting =
    (dispatchedEvents trace).filter codec.fits
  expects : byteHeader.Expects child.reader
    (child.pipe ++ child.serviceQueue.flatten)
    (waiting.map codec.serializeToString)

/-- Some worker of this number has what is expected. -/
def Served (codec : ProcCodec ε) (procSeq : Nat)
    (trace : List (DispatchReport ε)) (manager : ProcessManager) : Prop :=
  ∃ child waiting, manager.child procSeq = some child ∧
    Carries codec procSeq trace child waiting

variable {child : ChildProcess} {waiting : List ε}

theorem Carries.quiet (carries : Carries codec procSeq trace child waiting)
    (dispatched : dispatchedEvents events = [])
    (decoded : decodedEvents procSeq events = []) :
    Carries codec procSeq (trace ++ events) child waiting := by
  refine ⟨carries.running, carries.working, ?_, carries.expects⟩
  unfold decodedEvents dispatchedEvents at *
  rw [List.filterMap_append, List.filterMap_append, dispatched, decoded,
    List.append_nil, List.append_nil]
  exact carries.events

theorem feedData_of_running (data : List UInt8)
    (running : child.state = .running) :
    feedData data child =
      { child with serviceQueue := child.serviceQueue ++ [data] } := by
  unfold feedData
  rw [running]

theorem frame_of_le {event : ε}
    (small : (codec.serializeToString event).length ≤ 255) :
    ∃ data, byteHeader.frame (codec.serializeToString event) = some data := by
  refine ⟨_, Option.map_eq_some_iff.mpr ⟨_, packByte_of_le small, rfl⟩⟩

theorem frame_of_gt {event : ε}
    (large : ¬ (codec.serializeToString event).length ≤ 255) :
    byteHeader.frame (codec.serializeToString event) = none :=
  Option.map_eq_none_iff.mpr (packByte_of_gt large)

theorem Served.dispatchEvent (served : Served codec procSeq trace manager)
    (event : ε) :
    Served codec procSeq (trace ++ (manager.dispatchEvent codec event).2)
      (manager.dispatchEvent codec event).1 := by
  obtain ⟨child, waiting, found, carries⟩ := served
  have events := carries.events
  unfold decodedEvents dispatchedEvents at events
  unfold ProcessManager.dispatchEvent
  by_cases small : (codec.serializeToString event).length ≤ 255
  · obtain ⟨data, framed⟩ := frame_of_le small
    rw [framed]
    have fed := feedData_of_running data carries.running
    refine ⟨feedData data child, waiting ++ [event], ?_, ?_⟩
    · change List.lookup procSeq (manager.processes.map _) = _
      rw [lookup_map_feed]
      change (manager.child procSeq).map _ = _
      rw [found]
      rfl
    · rw [fed]
      refine ⟨carries.running, carries.working, ?_, ?_⟩
      · unfold decodedEvents dispatchedEvents
        rw [List.filterMap_append, List.filterMap_append,
          List.filter_append, ← events]
        simp [ProcCodec.fits, small]
      · have sent := carries.expects.send framed
        rw [List.map_append, List.flatten_append, List.flatten_singleton,
          ← List.append_assoc]
        exact sent
  · rw [frame_of_gt small]
    refine ⟨child, waiting, found, carries.running, carries.working, ?_,
      carries.expects⟩
    unfold decodedEvents dispatchedEvents
    rw [List.filterMap_append, List.filterMap_append, List.filter_append,
      ← events]
    simp [ProcCodec.fits, small]

theorem Carries.publishEvent {after : ChildProcess}
    (carries : Carries codec procSeq trace child waiting)
    (published : ProcessManager.publishEvent child = some after) :
    Carries codec procSeq trace after waiting := by
  unfold ProcessManager.publishEvent at published
  split at published
  · cases published
  · rename_i data rest queue
    cases published
    refine ⟨carries.running, carries.working, carries.events, ?_⟩
    have expects := carries.expects
    rw [queue, List.flatten_cons, ← List.append_assoc] at expects
    exact expects

theorem Carries.arrive (carries : Carries codec procSeq trace child waiting)
    (count : Nat) :
    Carries codec procSeq trace (ProcessManager.arrive child count)
      waiting := by
  refine ⟨carries.running, carries.working, carries.events, ?_⟩
  have expects := carries.expects
  rw [← List.take_append_drop count child.pipe, List.append_assoc]
    at expects
  exact expects.arrive

theorem Carries.read {after : ChildProcess}
    (carries : Carries codec procSeq trace child waiting)
    (taken : ProcessManager.read codec procSeq child =
      some (after, events)) :
    ∃ rest, Carries codec procSeq (trace ++ events) after rest := by
  unfold ProcessManager.read at taken
  rw [carries.working, if_neg Bool.false_ne_true] at taken
  split at taken
  · cases taken
  · rename_i reader header
    cases taken
    rw [List.append_nil]
    exact ⟨waiting, carries.running, rfl, carries.events,
      carries.expects.read_header header⟩
  · rename_i reader body read
    obtain ⟨rest, bodies, expects⟩ := carries.expects.read_body read
    obtain ⟨event, later, rfl, rfl, rfl⟩ := List.map_eq_cons_iff.mp bodies
    rw [codec.roundTrip] at taken
    cases taken
    refine ⟨later, carries.running, rfl, ?_, expects⟩
    have before := carries.events
    unfold decodedEvents dispatchedEvents at *
    rw [List.filterMap_append, List.filterMap_append, List.filter_append,
      ← before]
    simp

theorem Served.setChild (served : Served codec procSeq trace manager)
    {other : Nat} {after : ChildProcess}
    (own : other = procSeq →
      ∃ waiting, Carries codec procSeq trace after waiting) :
    Served codec procSeq trace (manager.setChild other after) := by
  by_cases same : procSeq = other
  · obtain ⟨waiting, carries⟩ := own same.symm
    refine ⟨after, waiting, ?_, carries⟩
    rw [child_setChild, if_pos same]
  · obtain ⟨child, waiting, found, carries⟩ := served
    refine ⟨child, waiting, ?_, carries⟩
    rw [child_setChild, if_neg same]
    exact found

theorem Served.own (served : Served codec procSeq trace manager)
    (found : manager.child procSeq = some child) :
    ∃ waiting, Carries codec procSeq trace child waiting := by
  obtain ⟨held, waiting, isHeld, carries⟩ := served
  rw [found] at isHeld
  cases isHeld
  exact ⟨waiting, carries⟩

theorem read_events {after : ChildProcess} {other : Nat}
    (taken : ProcessManager.read codec other child = some (after, events)) :
    dispatchedEvents events = [] ∧
      (other ≠ procSeq → decodedEvents procSeq events = []) := by
  unfold ProcessManager.read at taken
  split at taken
  · cases taken
  · split at taken
    · cases taken
    · cases taken
      exact ⟨rfl, fun _ => rfl⟩
    · split at taken
      · cases taken
        exact ⟨rfl, fun _ => rfl⟩
      · cases taken
        refine ⟨rfl, fun different => ?_⟩
        simp [decodedEvents, different]

theorem Served.quiet (served : Served codec procSeq trace manager)
    (dispatched : dispatchedEvents events = [])
    (decoded : decodedEvents procSeq events = []) :
    Served codec procSeq (trace ++ events) manager := by
  obtain ⟨child, waiting, found, carries⟩ := served
  exact ⟨child, waiting, found, carries.quiet dispatched decoded⟩

theorem Served.read (served : Served codec procSeq trace manager)
    {other : Nat} {after : ChildProcess}
    (found : manager.child other = some child)
    (taken : ProcessManager.read codec other child = some (after, events)) :
    Served codec procSeq (trace ++ events)
      (manager.setChild other after) := by
  by_cases same : other = procSeq
  · subst same
    obtain ⟨waiting, carries⟩ := served.own found
    obtain ⟨rest, later⟩ := carries.read taken
    refine ⟨after, rest, ?_, later⟩
    rw [child_setChild, if_pos rfl]
  · obtain ⟨dispatched, decoded⟩ := read_events taken
    exact (served.quiet dispatched (decoded same)).setChild
      (fun again => absurd again same)

theorem Served.step (served : Served codec procSeq trace manager)
    {call : DispatchCall ε} (stays : manager.Stays procSeq call)
    (stepped : ProcessManager.step codec manager call =
      some (next, events)) :
    Served codec procSeq (trace ++ events) next := by
  cases call with
  | dispatchEvent event =>
      have result := Option.some.inj stepped
      have dispatched := served.dispatchEvent event
      rw [result] at dispatched
      exact dispatched
  | statisticInfo nameMapUsages =>
      simp only [ProcessManager.step] at stepped
      split at stepped
      · have result := Option.some.inj stepped
        unfold statisticInfo at result
        split at result
        · cases result
          exact served.quiet rfl rfl
        · cases result
          exact served.quiet rfl rfl
      · cases stepped
  | publishEvent other =>
      simp only [ProcessManager.step] at stepped
      split at stepped
      · cases stepped
      · rename_i after published
        cases stepped
        obtain ⟨child, found, published⟩ :=
          Option.bind_eq_some_iff.mp published
        rw [List.append_nil]
        apply served.setChild
        intro same
        subst same
        obtain ⟨waiting, carries⟩ := served.own found
        exact ⟨waiting, carries.publishEvent published⟩
  | arrive other count =>
      simp only [ProcessManager.step] at stepped
      split at stepped
      · cases stepped
      · rename_i child found
        cases stepped
        rw [List.append_nil]
        apply served.setChild
        intro same
        subst same
        obtain ⟨waiting, carries⟩ := served.own found
        exact ⟨waiting, carries.arrive count⟩
  | read other =>
      simp only [ProcessManager.step] at stepped
      split at stepped
      · cases stepped
      · rename_i after reports taken
        cases stepped
        obtain ⟨child, found, taken⟩ := Option.bind_eq_some_iff.mp taken
        exact served.read found taken
  | spawn other =>
      cases stepped
      rw [List.append_nil]
      exact served.setChild (fun same => absurd same stays)
  | setState other state =>
      simp only [ProcessManager.step] at stepped
      split at stepped
      · cases stepped
      · cases stepped
        rw [List.append_nil]
        exact served.setChild (fun same => absurd same stays)
  | discard other =>
      cases stepped
      obtain ⟨child, waiting, found, carries⟩ := served
      rw [List.append_nil]
      refine ⟨child, waiting, ?_, carries⟩
      change List.lookup procSeq (manager.processes.pop other) = _
      rw [Table.lookup_pop, if_neg (Ne.symm stays)]
      exact found

/-- Nothing is on its way to the worker, and it waits for more bytes. -/
def Settled (manager : ProcessManager) (procSeq : Nat) : Prop :=
  ∀ child ∈ manager.child procSeq,
    child.serviceQueue = [] ∧ child.pipe = [] ∧
      (byteHeader.read child.reader).isNone = true

instance (manager : ProcessManager) (procSeq : Nat) :
    Decidable (manager.Settled procSeq) :=
  inferInstanceAs (Decidable (∀ child ∈ manager.child procSeq, _))

/-- A worker that has just been started and runs all the time has decoded the
first of the events that fit into a frame; once nothing is on its way it has
decoded all the dispatched events exactly if all of them fit. -/
theorem run_decodes_iff (codec : ProcCodec ε) {start : ProcessManager}
    (fresh : start.child procSeq = some {})
    (run : Transition.Run (step codec) (Stays procSeq) start trace
      manager) :
    decodedEvents procSeq trace <+:
        (dispatchedEvents trace).filter codec.fits ∧
      (manager.Settled procSeq →
        (decodedEvents procSeq trace = dispatchedEvents trace ↔
          ∀ event ∈ dispatchedEvents trace,
            (codec.serializeToString event).length ≤ 255)) := by
  have served : Served codec procSeq trace manager := by
    apply run.invariant
    · exact ⟨{}, [], fresh, rfl, rfl, rfl, byteHeader.expects_start⟩
    · intro trace events manager next call served stays stepped
      exact served.step stays stepped
  obtain ⟨child, waiting, found, carries⟩ := served
  refine ⟨⟨waiting, carries.events⟩, ?_⟩
  intro settled
  obtain ⟨queue, pipe, waits⟩ := settled child found
  have expects := carries.expects
  rw [queue, pipe] at expects
  have finished := List.map_eq_nil_iff.mp
    (expects.finished (Option.isNone_iff_eq_none.mp waits))
  have decoded := carries.events
  rw [finished, List.append_nil] at decoded
  rw [decoded, List.filter_eq_self]
  apply forall₂_congr
  intro event _
  exact decide_eq_true_iff

end ProcessManager

/-! ## Events with the bytes of a user event -/

/-- The payload of an event of the type `USER_EVENT`. -/
abbrev UserEvent := { payload : List UInt8 // payload.length < 16384 }

namespace UserEvent

def varint (length : Nat) : List UInt8 :=
  if length < 128 then [UInt8.ofNat length]
  else [UInt8.ofNat (length % 128 + 128), UInt8.ofNat (length / 128)]

/-- The fields `evt_tp` and `user_evt`. -/
def serialize (event : UserEvent) : List UInt8 :=
  8 :: 2 :: 34 :: (varint event.1.length ++ event.1)

def ofPayload (payload : List UInt8) (length : Nat) : Option UserEvent :=
  if small : payload.length < 16384 then
    if payload.length = length then some ⟨payload, small⟩ else none
  else none

def parseSized (low : UInt8) (rest : List UInt8) : Option UserEvent :=
  if low.toNat < 128 then ofPayload rest low.toNat
  else
    match rest with
    | [] => none
    | high :: payload =>
        ofPayload payload (low.toNat - 128 + 128 * high.toNat)

def parse : List UInt8 → Option UserEvent
  | first :: kind :: second :: low :: rest =>
      if first = 8 ∧ kind = 2 ∧ second = 34 then parseSized low rest
      else none
  | _ => none

theorem ofPayload_self (event : UserEvent) :
    ofPayload event.1 event.1.length = some event := by
  rw [ofPayload, dif_pos event.2, if_pos rfl]

theorem parse_serialize (event : UserEvent) :
    parse (serialize event) = some event := by
  have bound := event.2
  unfold serialize varint
  by_cases short : event.1.length < 128
  · have low : (UInt8.ofNat event.1.length).toNat = event.1.length :=
      UInt8.toNat_ofNat_of_lt (by unfold UInt8.size; omega)
    rw [if_pos short, List.singleton_append, parse,
      if_pos ⟨rfl, rfl, rfl⟩]
    unfold parseSized
    rw [low, if_pos short]
    exact ofPayload_self event
  · have low : (UInt8.ofNat (event.1.length % 128 + 128)).toNat =
        event.1.length % 128 + 128 :=
      UInt8.toNat_ofNat_of_lt (by unfold UInt8.size; omega)
    have high : (UInt8.ofNat (event.1.length / 128)).toNat =
        event.1.length / 128 :=
      UInt8.toNat_ofNat_of_lt (by unfold UInt8.size; omega)
    have length : event.1.length % 128 + 128 - 128 +
        128 * (event.1.length / 128) = event.1.length := by omega
    have long : ¬ event.1.length % 128 + 128 < 128 := by omega
    rw [if_neg short, List.cons_append, List.singleton_append, parse,
      if_pos ⟨rfl, rfl, rfl⟩]
    unfold parseSized
    rw [low, if_neg long]
    dsimp only [List.nil_append]
    rw [high, length]
    exact ofPayload_self event

def codec : ProcCodec UserEvent where
  serializeToString := serialize
  fromString := parse
  roundTrip := parse_serialize

end UserEvent

namespace ProcessManager

/-- One of two workers gets an event in two pieces. -/
theorem run_decodes_iff_two_pieces :
    ∃ trace manager,
      Transition.Run (step UserEvent.codec) (Stays 1)
        { processes := [(1, {}), (2, {})] } trace manager ∧
      decodedEvents 1 trace = [⟨[5, 6], by decide⟩] ∧
      decodedEvents 1 trace <+:
        (dispatchedEvents trace).filter UserEvent.codec.fits ∧
      (decodedEvents 1 trace = dispatchedEvents trace ↔
        ∀ event ∈ dispatchedEvents trace,
          (UserEvent.codec.serializeToString event).length ≤ 255) := by
  have ran : ∃ trace manager,
      Transition.Run (step UserEvent.codec) (Stays 1)
        { processes := [(1, {}), (2, {})] } trace manager ∧
      decodedEvents 1 trace = [⟨[5, 6], by decide⟩] ∧
        manager.Settled 1 := by
    apply Transition.Run.exists_both_of_exec
      [.dispatchEvent ⟨[5, 6], by decide⟩, .publishEvent 1, .arrive 1 3,
        .read 1, .arrive 1 4, .read 1]
    decide +kernel
  obtain ⟨trace, manager, run, decoded, settled⟩ := ran
  have iff := run_decodes_iff UserEvent.codec rfl run
  exact ⟨trace, manager, run, decoded, iff.1, iff.2 settled⟩

/-- An event of 300 bytes is dispatched to a worker, which never gets it. -/
theorem long_event_undecoded : ¬ ∀ (ε : Type) (codec : ProcCodec ε)
    (start : ProcessManager) (procSeq : Nat)
    (trace : List (DispatchReport ε)) (manager : ProcessManager),
    start.child procSeq = some {} →
    Transition.Run (step codec) (Stays procSeq) start trace manager →
      manager.Settled procSeq →
        decodedEvents procSeq trace = dispatchedEvents trace := by
  intro always
  have ran : ∃ trace manager,
      Transition.Run (step UserEvent.codec) (Stays 1)
        { processes := [(1, {})] } trace manager ∧
      (dispatchedEvents trace).length = 1 ∧
        (decodedEvents 1 trace).length = 0 ∧ manager.Settled 1 := by
    apply Transition.Run.exists_both_of_exec
      [.dispatchEvent ⟨List.replicate 300 0, by
        rw [List.length_replicate]
        decide⟩]
    decide +kernel
  obtain ⟨trace, manager, run, dispatched, decoded, settled⟩ := ran
  have same := always UserEvent UserEvent.codec { processes := [(1, {})] } 1
    trace manager rfl run settled
  rw [same, dispatched] at decoded
  cases decoded

end ProcessManager

end Manager

end TinyChat
