import TinyChat.Push.Confirmations
import TinyChat.Push.Provenance

/-!
# Who confirms an event

A frame of a client loses the session that it came from when it enters the
shared queue.  So an event is confirmed by whoever acknowledges its channel
and its delivery id, or by the gateway itself.
-/

namespace TinyChat

namespace Push

open Transition Gateway

namespace PushSystem

variable {system next : PushSystem} {action : SystemAction}
  {trace events : List SystemEvent}

/-- A session has acknowledged the id on the channel. -/
def Acked (trace : List SystemEvent) (number : Int) (deliveryId : Nat) :
    Prop :=
  ∃ sessionKey logs, .gateway (.arrived sessionKey logs) ∈ trace ∧
    ⟨number, deliveryId⟩ ∈ logs

/-- The gateway itself has confirmed an event with the id: there was no
active session of its user, or it was a kick. -/
def SelfConfirmed (trace : List SystemEvent) (deliveryId : Nat) : Prop :=
  (∃ position event, .offline position event ∈ trace ∧
      EventChannel.idOf position = deliveryId) ∨
    ∃ position, .kickConfirmed position ∈ trace ∧
      EventChannel.idOf position = deliveryId

/-- Where an integer in the queue of a channel comes from. -/
def Sourced (trace : List SystemEvent) (number value : Int) : Prop :=
  value = -1 ∨ ∃ deliveryId : Nat, value = deliveryId ∧
    (Acked trace number deliveryId ∨ SelfConfirmed trace deliveryId)

/-- A waiter is resolved only after a session has acknowledged the id of the
event on a channel to the service, or after the gateway itself has confirmed
an event with this id. -/
def Confirmable (before : List SystemEvent) : SystemEvent → Prop
  | .resolved position _ =>
      (∃ number, .connected number ∈ before ∧
        Acked before number (EventChannel.idOf position)) ∨
      SelfConfirmed before (EventChannel.idOf position)
  | _ => True

theorem Acked.mono {number : Int} {deliveryId : Nat}
    (acked : Acked trace number deliveryId) :
    Acked (trace ++ events) number deliveryId := by
  obtain ⟨sessionKey, logs, arrived, named⟩ := acked
  exact ⟨sessionKey, logs, List.mem_append_left _ arrived, named⟩

theorem SelfConfirmed.of_subset {larger : List SystemEvent}
    {deliveryId : Nat} (confirmed : SelfConfirmed trace deliveryId)
    (subset : trace ⊆ larger) : SelfConfirmed larger deliveryId := by
  rcases confirmed with ⟨position, event, found, same⟩ |
    ⟨position, found, same⟩
  · exact Or.inl ⟨position, event, subset found, same⟩
  · exact Or.inr ⟨position, subset found, same⟩

theorem SelfConfirmed.mono {deliveryId : Nat}
    (confirmed : SelfConfirmed trace deliveryId) :
    SelfConfirmed (trace ++ events) deliveryId :=
  confirmed.of_subset (List.subset_append_left trace events)

theorem Sourced.mono {number value : Int}
    (sourced : Sourced trace number value) :
    Sourced (trace ++ events) number value := by
  rcases sourced with sentinel | ⟨deliveryId, same, acked | confirmed⟩
  · exact Or.inl sentinel
  · exact Or.inr ⟨deliveryId, same, Or.inl acked.mono⟩
  · exact Or.inr ⟨deliveryId, same, Or.inr confirmed.mono⟩

theorem Confirmable.mono {event : SystemEvent}
    (confirmable : Confirmable trace event) :
    Confirmable (trace ++ events) event := by
  cases event with
  | resolved position event =>
      rcases confirmable with ⟨number, connected, acked⟩ | confirmed
      · exact Or.inl ⟨number, List.mem_append_left _ connected, acked.mono⟩
      · exact Or.inr confirmed.mono
  | gateway event => trivial
  | connected number => trivial
  | offline position event => trivial
  | kickConfirmed position => trivial

/-- What holds after every run. -/
structure Traced (trace : List SystemEvent) (system : PushSystem) :
    Prop where
  known : Known (Sourced trace) system.manager.channels
  frames : ∀ logs ∈ system.manager.channelQueue,
    ∃ sessionKey, .gateway (.arrived sessionKey logs) ∈ trace
  attached : ∀ number, system.attached number = true →
    .connected number ∈ trace
  feedback : ∀ number start end_, (number, start, end_) ∈ system.feedback →
    .connected number ∈ trace ∧ 0 ≤ start ∧
      ∀ value, start ≤ value → value < end_ → Sourced trace number value
  numbered : system.service.Numbered

theorem traced_initial : Traced [] {} where
  known := nofun
  frames := nofun
  attached := nofun
  feedback := nofun
  numbered := EventChannel.numbered_initial

theorem Traced.append (traced : Traced trace system)
    (manager : next.manager = system.manager)
    (attached : next.attached = system.attached)
    (feedback : ∀ range ∈ next.feedback, range ∈ system.feedback)
    (numbered : next.service.Numbered) : Traced (trace ++ events) next := by
  constructor
  · rw [manager]
    exact traced.known.mono (fun _ _ sourced => sourced.mono)
  · rw [manager]
    intro logs member
    obtain ⟨sessionKey, arrived⟩ := traced.frames logs member
    exact ⟨sessionKey, List.mem_append_left _ arrived⟩
  · rw [attached]
    intro number isAttached
    exact List.mem_append_left _ (traced.attached number isAttached)
  · intro number start end_ member
    obtain ⟨connected, nonneg, sourced⟩ :=
      traced.feedback number start end_ (feedback _ member)
    refine ⟨List.mem_append_left _ connected, nonneg, ?_⟩
    intro value lower upper
    exact (sourced value lower upper).mono
  · exact numbered

theorem sentRange_eq_some {attached : Int → Bool} {event : ManagerEvent}
    {number start end_ : Int}
    (sent : sentRange attached event = some (number, start, end_)) :
    attached number = true ∧
      ∃ node, event = .channel number (.feedback node start end_ true) := by
  unfold sentRange at sent
  split at sent
  · split at sent
    · rename_i isAttached
      cases sent
      exact ⟨isAttached, _, rfl⟩
    · cases sent
  · cases sent

/-- What a step of the gateway does, given where the ids that it adds come
from. -/
theorem Traced.runGateway (traced : Traced trace system)
    {managerAction : ManagerAction} {before : List SystemEvent}
    (ran : system.runGateway managerAction = some (next, events))
    (sourced : ∀ number (deliveryId : Nat),
      .gateway (.channel number (.added deliveryId)) ∈ events →
        Sourced (trace ++ (before ++ events)) number deliveryId)
    (frames : ∀ logs ∈ next.manager.channelQueue,
      logs ∈ system.manager.channelQueue ∨
        ∃ sessionKey, .gateway (.arrived sessionKey logs) ∈ events) :
    Traced (trace ++ (before ++ events)) next := by
  unfold PushSystem.runGateway at ran
  split at ran
  · cases ran
  · rename_i manager managerEvents stepped
    cases ran
    have later : Known
        (Sourced (trace ++ (before ++ managerEvents.map .gateway)))
        system.manager.channels :=
      traced.known.mono (fun _ _ sourced => sourced.mono)
    have knows : ∀ number (deliveryId : Nat),
        .channel number (.added deliveryId) ∈ managerEvents →
          Sourced (trace ++ (before ++ managerEvents.map .gateway)) number
            deliveryId := by
      intro number deliveryId member
      exact sourced number deliveryId (List.mem_map.mpr ⟨_, member, rfl⟩)
    obtain ⟨known, yields⟩ := PushManager.known_step later
      (fun _ => Or.inl rfl) knows stepped
    constructor
    · exact known
    · intro logs member
      rcases frames logs member with earlier | ⟨sessionKey, now⟩
      · obtain ⟨sessionKey, arrived⟩ := traced.frames logs earlier
        exact ⟨sessionKey, List.mem_append_left _ arrived⟩
      · exact ⟨sessionKey,
          List.mem_append_right _ (List.mem_append_right _ now)⟩
    · intro number isAttached
      exact List.mem_append_left _ (traced.attached number isAttached)
    · intro number start end_ member
      rcases List.mem_append.mp member with earlier | now
      · obtain ⟨connected, nonneg, old⟩ :=
          traced.feedback number start end_ earlier
        refine ⟨List.mem_append_left _ connected, nonneg, ?_⟩
        intro value lower upper
        exact (old value lower upper).mono
      · obtain ⟨event, found, sent⟩ := List.mem_filterMap.mp now
        obtain ⟨isAttached, node, rfl⟩ := sentRange_eq_some sent
        obtain ⟨nonneg, held⟩ := yields number node start end_ found
        exact ⟨List.mem_append_left _ (traced.attached number isAttached),
          nonneg, held⟩
    · exact traced.numbered

theorem added_of_channel {manager later : PushManager} {number other : Int}
    {channelAction : ChannelAction} {managerEvents : List ManagerEvent}
    (stepped : manager.step (.channel number channelAction) =
      some (later, managerEvents)) {deliveryId : Nat}
    (member : .channel other (.added deliveryId) ∈ managerEvents) :
    PushChannel.addedBy channelAction = some deliveryId := by
  simp only [PushManager.step] at stepped
  split at stepped
  · cases stepped
  · split at stepped
    · cases stepped
    · rename_i next channelEvents channelStepped
      cases stepped
      obtain ⟨event, inChannel, same⟩ := List.mem_map.mp member
      cases same
      exact (PushChannel.step_moved channelStepped).addedBy_eq inChannel

/-- The ids that a gateway adds by itself come from the frames in its
queue. -/
theorem added_of_unprompted {manager later : PushManager}
    {managerAction : ManagerAction} {managerEvents : List ManagerEvent}
    (unprompted : Unprompted managerAction)
    (stepped : manager.step managerAction = some (later, managerEvents))
    {number : Int} {deliveryId : Nat}
    (member : .channel number (.added deliveryId) ∈ managerEvents) :
    ∃ logs ∈ manager.channelQueue, ⟨number, deliveryId⟩ ∈ logs := by
  cases managerAction with
  | put sessionKey logs =>
      cases stepped
      simp at member
  | get =>
      simp only [PushManager.step] at stepped
      split at stepped
      · rename_i logs frames running queued
        cases stepped
        rw [queued]
        refine ⟨logs, List.mem_cons_self, ?_⟩
        rcases List.mem_append.mp member with added | handled
        · obtain ⟨log, reached, same⟩ := List.mem_map.mp added
          cases same
          exact (List.takeWhile_sublist _).mem reached
        · simp at handled
      · cases stepped
  | connect => exact absurd unprompted id
  | disconnect number =>
      simp only [PushManager.step] at stepped
      split at stepped
      · cases stepped
      · cases stepped
        cases member
  | channel other channelAction =>
      have adds := added_of_channel stepped member
      cases channelAction <;>
        first
        | exact absurd unprompted id
        | cases adds

theorem frames_of_step {manager later : PushManager}
    {managerAction : ManagerAction} {managerEvents : List ManagerEvent}
    (stepped : manager.step managerAction = some (later, managerEvents)) :
    ∀ logs ∈ later.channelQueue, logs ∈ manager.channelQueue ∨
      ∃ sessionKey, .arrived sessionKey logs ∈ managerEvents := by
  intro logs member
  cases managerAction with
  | put sessionKey put =>
      cases stepped
      rcases List.mem_append.mp member with earlier | now
      · exact Or.inl earlier
      · rw [List.mem_singleton.mp now]
        exact Or.inr ⟨sessionKey, List.mem_cons_self⟩
  | get =>
      simp only [PushManager.step] at stepped
      split at stepped
      · rename_i first frames running queued
        cases stepped
        rw [queued]
        exact Or.inl (List.mem_cons_of_mem _ member)
      · cases stepped
  | connect =>
      cases stepped
      exact Or.inl member
  | disconnect number =>
      simp only [PushManager.step] at stepped
      split at stepped
      · cases stepped
      · cases stepped
        exact Or.inl member
  | channel number channelAction =>
      simp only [PushManager.step] at stepped
      split at stepped
      · cases stepped
      · split at stepped
        · cases stepped
        · cases stepped
          exact Or.inl member

theorem runGateway_eq_some {managerAction : ManagerAction}
    (ran : system.runGateway managerAction = some (next, events)) :
    ∃ managerEvents,
      system.manager.step managerAction =
        some (next.manager, managerEvents) ∧
      events = managerEvents.map .gateway := by
  unfold PushSystem.runGateway at ran
  split at ran
  · cases ran
  · rename_i manager managerEvents stepped
    cases ran
    exact ⟨managerEvents, stepped, rfl⟩

theorem frames_of_runGateway {managerAction : ManagerAction}
    (ran : system.runGateway managerAction = some (next, events)) :
    ∀ logs ∈ next.manager.channelQueue,
      logs ∈ system.manager.channelQueue ∨
        ∃ sessionKey, .gateway (.arrived sessionKey logs) ∈ events := by
  intro logs member
  obtain ⟨managerEvents, stepped, rfl⟩ := runGateway_eq_some ran
  rcases frames_of_step stepped logs member with earlier | ⟨key, now⟩
  · exact Or.inl earlier
  · exact Or.inr ⟨key, List.mem_map.mpr ⟨_, now, rfl⟩⟩

theorem Traced.unprompted (traced : Traced trace system)
    {managerAction : ManagerAction} (unprompted : Unprompted managerAction)
    (ran : system.runGateway managerAction = some (next, events)) :
    Traced (trace ++ events) next := by
  have extended : Traced (trace ++ ([] ++ events)) next := by
    apply traced.runGateway ran _ (frames_of_runGateway ran)
    intro number deliveryId member
    obtain ⟨managerEvents, stepped, rfl⟩ := runGateway_eq_some ran
    obtain ⟨event, found, same⟩ := List.mem_map.mp member
    cases same
    obtain ⟨logs, queued, named⟩ :=
      added_of_unprompted unprompted stepped found
    obtain ⟨sessionKey, arrived⟩ := traced.frames logs queued
    have acked : Acked trace number deliveryId :=
      ⟨sessionKey, logs, arrived, named⟩
    exact Or.inr ⟨deliveryId, rfl, Or.inl acked.mono⟩
  simpa only [List.nil_append] using extended

theorem Traced.selfConfirmed (traced : Traced trace system) {number : Int}
    {channelAction : ChannelAction} {deliveryId : Nat}
    {cause : SystemEvent}
    (adds : PushChannel.addedBy channelAction = some deliveryId)
    (ran : system.runGateway (.channel number channelAction) =
      some (next, events))
    (confirms : SelfConfirmed [cause] deliveryId) :
    Traced (trace ++ cause :: events) next := by
  have extended : Traced (trace ++ ([cause] ++ events)) next := by
    apply traced.runGateway ran _ (frames_of_runGateway ran)
    intro other otherId member
    obtain ⟨managerEvents, stepped, rfl⟩ := runGateway_eq_some ran
    obtain ⟨event, found, same⟩ := List.mem_map.mp member
    cases same
    have reported := added_of_channel stepped found
    rw [adds] at reported
    cases reported
    refine Or.inr ⟨deliveryId, rfl, Or.inr (confirms.of_subset ?_)⟩
    intro event isCause
    exact List.mem_append_right _ (List.mem_append_left _ isCause)
  exact extended

theorem Traced.handle (traced : Traced trace system) {number : Int}
    {position : Nat} {confirmed : Bool}
    (handled : system.handle number position confirmed =
      some (next, events)) : Traced (trace ++ events) next := by
  unfold PushSystem.handle at handled
  dsimp only at handled
  split at handled
  · cases handled
  · rename_i event _
    split at handled
    · split at handled
      · cases handled
        exact traced.append rfl rfl (fun _ member => member) traced.numbered
      · obtain ⟨⟨_, _⟩, ran, same⟩ := Option.map_eq_some_iff.mp handled
        cases same
        apply traced.selfConfirmed _ ran
        · exact Or.inl ⟨position, event, List.mem_cons_self, rfl⟩
        · rfl
    · split at handled
      · obtain ⟨⟨_, _⟩, ran, same⟩ := Option.map_eq_some_iff.mp handled
        cases same
        apply traced.selfConfirmed _ ran
        · exact Or.inr ⟨position, List.mem_cons_self, rfl⟩
        · rfl
      · cases handled
        exact traced.append rfl rfl (fun _ member => member) traced.numbered

theorem Traced.connect (traced : Traced trace system) (toService : Bool)
    (stepped : step system (.connect toService) = some (next, events)) :
    Traced (trace ++ events) next := by
  simp only [step] at stepped
  obtain ⟨⟨opened, opening⟩, ran, same⟩ :=
    Option.map_eq_some_iff.mp stepped
  cases same
  have nothing : opening = [] := by
    obtain ⟨managerEvents, managerStepped, rfl⟩ := runGateway_eq_some ran
    simp only [PushManager.step, Option.some.injEq, Prod.mk.injEq]
      at managerStepped
    rw [← managerStepped.2]
    rfl
  subst nothing
  have base : Traced (trace ++
      ((if toService then [SystemEvent.connected system.manager.channelNumber]
        else []) ++ [])) opened := by
    refine traced.runGateway ran ?_ (frames_of_runGateway ran)
    intro _ _ member
    exact absurd member List.not_mem_nil
  rw [List.append_nil] at base
  refine ⟨base.known, base.frames, ?_, base.feedback, base.numbered⟩
  intro number isAttached
  simp only [Function.update_apply] at isAttached
  split at isAttached
  · rename_i isNew
    subst isNew isAttached
    exact List.mem_append_right _ List.mem_cons_self
  · exact List.mem_append_left _ (traced.attached number isAttached)

/-- A range resolves only waiters of ids that it holds. -/
theorem Traced.resolved (traced : Traced trace system)
    {number start end_ : Int}
    (arrived : (number, start, end_) ∈ system.feedback) :
    EachEvent Confirmable trace
      (resolvedEvents system.service
        (system.service.onDelivery start end_).2) := by
  obtain ⟨connected, nonneg, sourced⟩ :=
    traced.feedback number start end_ arrived
  apply eachEvent_of_mono
  · intro before later event confirmable
    exact confirmable.mono
  · intro event member
    obtain ⟨position, resolves, found⟩ := List.mem_filterMap.mp member
    obtain ⟨record, _, rfl⟩ := Option.map_eq_some_iff.mp found
    obtain ⟨deliveryId, inRange, entry⟩ :=
      (EventChannel.mem_confirmAll.mp resolves).2
    have same := traced.numbered.entries deliveryId position entry
    obtain ⟨lower, upper⟩ := (EventChannel.mem_range nonneg).mp inRange
    rcases sourced deliveryId lower upper with
      sentinel | ⟨other, equal, source⟩
    · omega
    · have isOther : other = deliveryId := by omega
      rw [isOther, same] at source
      rcases source with acked | confirmed
      · exact Or.inl ⟨number, connected, acked⟩
      · exact Or.inr confirmed

theorem confirmable_of_not_resolved {before : List SystemEvent}
    (quiet : ∀ position event, .resolved position event ∉ events) :
    EachEvent Confirmable before events := by
  apply eachEvent_of_mono
  · intro before later event confirmable
    exact confirmable.mono
  · intro event member
    cases event with
    | resolved position event => exact absurd member (quiet position event)
    | gateway event => trivial
    | connected number => trivial
    | offline position event => trivial
    | kickConfirmed position => trivial

theorem runGateway_quiet {managerAction : ManagerAction}
    (ran : system.runGateway managerAction = some (next, events)) :
    ∀ position event, .resolved position event ∉ events := by
  intro position event member
  obtain ⟨managerEvents, _, rfl⟩ := runGateway_eq_some ran
  simp at member

theorem handle_quiet {number : Int} {position : Nat} {confirmed : Bool}
    (handled : system.handle number position confirmed =
      some (next, events)) :
    ∀ position event, .resolved position event ∉ events := by
  intro other event member
  unfold PushSystem.handle at handled
  dsimp only at handled
  split at handled
  · cases handled
  · split at handled
    · split at handled
      · cases handled
        cases member
      · obtain ⟨⟨_, _⟩, ran, same⟩ := Option.map_eq_some_iff.mp handled
        cases same
        simp only [List.mem_cons, reduceCtorEq, false_or] at member
        exact runGateway_quiet ran other event member
    · split at handled
      · obtain ⟨⟨_, _⟩, ran, same⟩ := Option.map_eq_some_iff.mp handled
        cases same
        simp only [List.mem_cons, reduceCtorEq, false_or] at member
        exact runGateway_quiet ran other event member
      · cases handled
        cases member

theorem Traced.step (traced : Traced trace system)
    (stepped : step system action = some (next, events)) :
    Traced (trace ++ events) next ∧ EachEvent Confirmable trace events := by
  cases action with
  | setActive sessionKey active =>
      cases stepped
      exact ⟨traced.append rfl rfl (fun _ member => member) traced.numbered,
        trivial⟩
  | gateway managerAction =>
      simp only [PushSystem.step] at stepped
      split at stepped
      · rename_i unprompted
        exact ⟨traced.unprompted unprompted stepped,
          confirmable_of_not_resolved (runGateway_quiet stepped)⟩
      · cases stepped
  | connect toService =>
      refine ⟨traced.connect toService stepped,
        confirmable_of_not_resolved ?_⟩
      simp only [PushSystem.step] at stepped
      obtain ⟨opened, _, same⟩ := Option.map_eq_some_iff.mp stepped
      cases same
      intro position event member
      split at member
      · simp at member
      · cases member
  | publish event =>
      cases stepped
      exact ⟨traced.append rfl rfl (fun _ member => member)
        (traced.numbered.publish event), trivial⟩
  | dispatch number =>
      have unchanged : ∀ queue,
          EventChannel.Numbered { system.service with queue := queue } :=
        fun _ => ⟨traced.numbered.counter, traced.numbered.entries⟩
      simp only [PushSystem.step] at stepped
      split at stepped
      · cases stepped
      · split at stepped
        · cases stepped
          exact ⟨traced.append rfl rfl (fun _ member => member)
            (unchanged _), trivial⟩
        · split at stepped
          · cases stepped
            exact ⟨traced.append rfl rfl (fun _ member => member)
              (unchanged _), trivial⟩
          · cases stepped
  | handle number position confirmed =>
      simp only [PushSystem.step] at stepped
      split at stepped
      · have taken : Traced (trace ++ [])
            { system with
              inbox := system.inbox.erase (number, position) } :=
          traced.append rfl rfl (fun _ member => member) traced.numbered
        rw [List.append_nil] at taken
        exact ⟨taken.handle stepped,
          confirmable_of_not_resolved (handle_quiet stepped)⟩
      · cases stepped
  | onDelivery =>
      simp only [PushSystem.step] at stepped
      split at stepped
      · cases stepped
      · rename_i number start end_ feedback arrived
        cases stepped
        refine ⟨traced.append rfl rfl ?_
          (traced.numbered.onDelivery start end_), ?_⟩
        · intro range member
          rw [arrived]
          exact List.mem_cons_of_mem _ member
        · apply traced.resolved
          rw [arrived]
          exact List.mem_cons_self
  | giveUp position =>
      cases stepped
      exact ⟨traced.append rfl rfl (fun _ member => member)
        ⟨traced.numbered.counter, traced.numbered.entries⟩, trivial⟩
  | callback position =>
      simp only [PushSystem.step] at stepped
      split at stepped
      · cases stepped
        exact ⟨traced.append rfl rfl (fun _ member => member)
          (traced.numbered.forget position), trivial⟩
      · cases stepped

/-- In every run a waiter is resolved with success only after some session
has acknowledged the id of its event on a channel to the service, or after
the gateway itself has confirmed an event with this id. -/
theorem resolved_confirmed (run : AnyRun step {} trace system) :
    EachEvent Confirmable [] trace := by
  have holds : Traced trace system ∧ EachEvent Confirmable [] trace := by
    apply run.invariant
    · exact ⟨traced_initial, trivial⟩
    · intro trace events system next action holds _ stepped
      obtain ⟨traced, earlier⟩ := holds
      obtain ⟨later, now⟩ := traced.step stepped
      refine ⟨later, ?_⟩
      rw [eachEvent_append]
      exact ⟨earlier, now⟩
  exact holds.2

/-- The run of a gateway in which user `1` acknowledges an event for an
active session of user `2`. -/
def foreignAck : List SystemAction :=
  [.setActive 10 true, .connect true, .publish ⟨.notice, 2⟩, .dispatch 0,
    .handle 0 0 false, .gateway (.put 5 [⟨0, 1⟩]), .gateway .get,
    .gateway (.channel 0 (.fire 0)), .gateway (.channel 0 .wake),
    .onDelivery]

theorem foreignAck_trace :
    (exec step (fun _ _ => True) {} foreignAck).map Prod.snd =
      some [.connected 0, .gateway (.arrived 5 [⟨0, 1⟩]),
        .gateway (.channel 0 (.added 1)),
        .gateway (.handled ⟨0, 1⟩ true true),
        .gateway (.channel 0 (.feedback 1 1 2 true)),
        .resolved 0 ⟨.notice, 2⟩] := by
  decide

theorem resolved_confirmed_foreign :
    ∃ trace system, AnyRun step {} trace system ∧
      .resolved 0 ⟨.notice, 2⟩ ∈ trace ∧ EachEvent Confirmable [] trace := by
  obtain ⟨system, run⟩ := Run.exists_of_exec foreignAck_trace
  exact ⟨_, system, run, by simp, resolved_confirmed run⟩

/-- A waiter is resolved only after a session of the user of the event has
acknowledged the event, or the gateway has found no active session. -/
def Authentic (before : List SystemEvent) : SystemEvent → Prop
  | .resolved position event =>
      (∃ number sessionKey logs,
        .gateway (.arrived sessionKey logs) ∈ before ∧
        ⟨number, EventChannel.idOf position⟩ ∈ logs ∧
        Server.userOf sessionKey = event.addressId) ∨
      .offline position event ∈ before
  | _ => True

/-- Another user confirms an event. -/
theorem resolved_by_other_user :
    ∃ trace system, AnyRun step {} trace system ∧
      ¬ EachEvent Authentic [] trace := by
  obtain ⟨system, run⟩ := Run.exists_of_exec foreignAck_trace
  refine ⟨_, system, run, ?_⟩
  intro authentic
  rcases authentic.2.2.2.2.2.1 with
    ⟨number, sessionKey, logs, arrived, _, own⟩ | offline
  · simp at arrived
    obtain ⟨rfl, _⟩ := arrived
    exact absurd own (by decide)
  · simp at offline

end PushSystem

end Push

end TinyChat
