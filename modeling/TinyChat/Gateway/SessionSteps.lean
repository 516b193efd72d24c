import TinyChat.Gateway.SessionTables
import Mathlib.Data.List.InsertIdx

/-!
# What a step of the gateway can do

One relation lists the steps of the gateway with their guards.  Every step
keeps the tables of the session manager and the endpoints together.
-/

namespace TinyChat

namespace Gateway

namespace Server

/-- The tasks that are left of those that have outlived their readers. -/
def Survive (server : Server) (survivors : List Survivor) : Prop :=
  ∀ survivor ∈ survivors, ∃ former ∈ server.survivors,
    former.sessionKey = survivor.sessionKey ∧
      former.session = survivor.session

/-- Everything that a step can do; what a task has to deliver while its reader
runs is left open. -/
inductive Stepped (server : Server) :
    ServerAction → Server → List ServerEvent → Prop where
  | push {user : Int} {evtTp : EventType} {deliveryId : Int} :
      Stepped server (.push user evtTp deliveryId)
        (server.push
          { user := user, evtTp := evtTp, deliveryId := deliveryId }) []
  | put {index name : Nat} {event : PubEventToUser} :
      server.puts[index]? = some (name, event) →
      Stepped server (.put index)
        { server with
          manager := server.manager.update name (enqueue event)
          puts := server.puts.eraseIdx index } []
  | receive {index : Nat} {deliveryId : Int}
      {delivers : Table Nat Deliverer} :
      Stepped server (.receive index deliveryId)
        { server with delivers := delivers } []
  | deliver {index : Nat} {delivers : Table Nat Deliverer} :
      Stepped server (.deliver index) { server with delivers := delivers } []
  | acknowledge {index websocket : Nat} {endpoint : Endpoint}
      {deliveryId : Int} {delivers : Table Nat Deliverer} :
      server.endpoints[index]? = some endpoint →
      endpoint.phase = .reading websocket →
      Stepped server (.acknowledge index)
        { server.acknowledge endpoint.sessionKey endpoint.session
            deliveryId with
          delivers := delivers } []
  | unacknowledged {index : Nat} {delivers : Table Nat Deliverer} :
      Stepped server (.acknowledge index)
        { server with delivers := delivers } []
  | unanswered {index : Nat} {delivers : Table Nat Deliverer} :
      Stepped server (.unanswered index)
        { server with delivers := delivers } []
  | deliverRaises {index : Nat} {delivers : Table Nat Deliverer} :
      Stepped server (.deliverRaises index)
        { server with delivers := delivers } []
  | survivorAcknowledges {index : Nat} {survivor : Survivor}
      {deliveryId : Int} {survivors : List Survivor} :
      survivor ∈ server.survivors →
      server.Survive survivors →
      Stepped server (.survivorDelivers index true)
        { server.acknowledge survivor.sessionKey survivor.session
            deliveryId with
          survivors := survivors } []
  | survivorDelivers {index : Nat} {acknowledged : Bool}
      {survivors : List Survivor} :
      server.Survive survivors →
      Stepped server (.survivorDelivers index acknowledged)
        { server with survivors := survivors } []
  | survivorRaises {index : Nat} {survivors : List Survivor} :
      server.Survive survivors →
      Stepped server (.survivorRaises index)
        { server with survivors := survivors } []
  | createSession {sessionKey : Int} :
      server.manager.sessions.lookup sessionKey = none →
      Stepped server (.createSession sessionKey)
        { server with
          manager :=
            (server.manager.createSession server.websockets sessionKey).2
          websockets := server.websockets + 1
          endpoints := server.endpoints ++
            [{ sessionKey := sessionKey
               session := (server.manager.createSession server.websockets
                 sessionKey).1
               phase := .registered }] }
        [.bound server.websockets sessionKey]
  | reuseSession {sessionKey : Int} {name : Nat}
      {manager : SessionManager} :
      server.manager.reuseSession sessionKey = some (name, manager) →
      Stepped server (.reuseSession sessionKey)
        { server with
          manager := manager
          endpoints := server.endpoints ++
            [{ sessionKey := sessionKey
               session := name
               phase := .reused }] } []
  | rebind {index : Nat} {endpoint : Endpoint} :
      server.endpoints[index]? = some endpoint →
      endpoint.phase = .reused →
      Stepped server (.rebind index)
        { server with
          manager := server.manager.update endpoint.session
            (·.rebind server.websockets endpoint.sessionKey)
          websockets := server.websockets + 1
          endpoints := server.endpoints.set index
            { endpoint with phase := .registered } }
        [.bound server.websockets endpoint.sessionKey]
  | recycles {index : Nat} {endpoint : Endpoint} :
      server.endpoints[index]? = some endpoint →
      endpoint.phase = .registered →
      Stepped server (.loginFails index)
        { server with
          manager := server.manager.recycleSession endpoint.sessionKey
          endpoints := server.endpoints.eraseIdx index } []
  | retrieves {index : Nat} {endpoint : Endpoint} :
      server.endpoints[index]? = some endpoint →
      endpoint.phase = .reused →
      Stepped server (.loginFails index)
        { server with
          manager := server.manager.retrieveSession endpoint.sessionKey
          endpoints := server.endpoints.eraseIdx index } []
  | startTasks {index websocket : Nat} {endpoint : Endpoint} :
      server.endpoints[index]? = some endpoint →
      endpoint.phase = .registered →
      (server.manager.object endpoint.session).websocket =
        some websocket →
      Stepped server (.startTasks index)
        (server.startTasks index endpoint websocket) []
  | readerDone {index websocket : Nat} {endpoint : Endpoint} :
      server.endpoints[index]? = some endpoint →
      endpoint.phase = .reading websocket →
      Stepped server (.readerDone index)
        (server.readerDone index endpoint websocket) []
  | send {index : Nat} {writer : Writer} {event : PubEventToUser}
      {rest : List PubEventToUser} :
      server.writers[index]? = some writer →
      writer.cancelled = false →
      (server.manager.object writer.session).writeQueue = event :: rest →
      Stepped server (.send index)
        (server.withManager
          (server.manager.update writer.session (setQueue rest)))
        [.sent writer.websocket event]
  | writerDone {index : Nat} {writer : Writer} :
      server.writers[index]? = some writer →
      Stepped server (.writerDone index) (server.endWriter index writer) []
  | setState {name : Nat} {state : SessionState} :
      Stepped server (.setState name state)
        (server.withManager (server.manager.update name
          (fun session => { session with state := state }))) []

variable {server next : Server}

theorem deliverer_reading {index websocket : Nat} {endpoint : Endpoint}
    {task : Deliverer}
    (found : server.deliverer index = some (endpoint, websocket, task)) :
    server.endpoints[index]? = some endpoint ∧
      endpoint.phase = .reading websocket := by
  unfold deliverer at found
  split at found
  · rename_i reader present
    split at found
    · rename_i socket reading
      obtain ⟨_, _, same⟩ := Option.map_eq_some_iff.mp found
      cases same
      exact ⟨present, reading⟩
    · cases found
  · cases found

theorem survive_refl (server : Server) : server.Survive server.survivors :=
  fun survivor member => ⟨survivor, member, rfl, rfl⟩

theorem mem_survivorOf {endpoint : Endpoint} {task : Option Deliverer}
    {survivor : Survivor} (member : survivor ∈ survivorOf endpoint task) :
    survivor.sessionKey = endpoint.sessionKey ∧
      survivor.session = endpoint.session := by
  unfold survivorOf at member
  split at member
  · rw [List.mem_singleton.mp member]
    exact ⟨rfl, rfl⟩
  · cases member

theorem survive_erase (index : Nat) :
    server.Survive (server.survivors.eraseIdx index) :=
  fun survivor member =>
    ⟨survivor, List.mem_of_mem_eraseIdx member, rfl, rfl⟩

theorem survive_set {index : Nat} {survivor : Survivor}
    {pending : List Int}
    (present : server.survivors[index]? = some survivor) :
    server.Survive (server.setSurvivor index
      { survivor with pending := pending }).survivors := by
  intro other member
  unfold setSurvivor at member
  simp only at member
  split at member
  · exact survive_erase index other member
  · rcases List.mem_or_eq_of_mem_set member with before | same
    · exact ⟨other, before, rfl, rfl⟩
    · exact ⟨survivor, List.mem_of_getElem? present, by rw [same],
        by rw [same]⟩

theorem step_stepped {action : ServerAction} {events : List ServerEvent}
    (stepped : server.step action = some (next, events)) :
    Stepped server action next events := by
  cases action with
  | push user evtTp deliveryId =>
      cases stepped
      exact .push
  | put index =>
      obtain ⟨result, placed, equality⟩ := Option.map_eq_some_iff.mp stepped
      cases equality
      unfold Server.put at placed
      split at placed
      · cases placed
      · rename_i name event found
        split at placed
        · cases placed
          exact .put found
        · cases placed
  | receive index deliveryId =>
      obtain ⟨_, _, equality⟩ := Option.map_eq_some_iff.mp stepped
      cases equality
      exact .receive
  | deliver index =>
      simp only [Server.step] at stepped
      split at stepped
      · cases stepped
        exact .deliver
      · cases stepped
  | acknowledge index =>
      simp only [Server.step] at stepped
      split at stepped
      · rename_i found
        obtain ⟨present, reading⟩ := deliverer_reading found
        split at stepped
        · cases stepped
          exact .acknowledge present reading
        · cases stepped
          exact .unacknowledged
      · cases stepped
  | unanswered index =>
      simp only [Server.step] at stepped
      split at stepped
      · cases stepped
        exact .unanswered
      · cases stepped
  | deliverRaises index =>
      obtain ⟨_, _, equality⟩ := Option.map_eq_some_iff.mp stepped
      cases equality
      exact .deliverRaises
  | survivorDelivers index acknowledged =>
      simp only [Server.step] at stepped
      split at stepped
      · rename_i sessionKey session deliveryId pending found
        have member := List.mem_of_getElem? found
        have left := @survive_set server index _ pending found
        split at stepped
        · rename_i answered
          rw [answered]
          split at stepped
          · cases stepped
            exact .survivorAcknowledges member left
          · cases stepped
            exact .survivorDelivers (survive_erase index)
        · cases stepped
          exact .survivorDelivers left
      · cases stepped
  | survivorRaises index =>
      simp only [Server.step] at stepped
      split at stepped
      · cases stepped
        exact .survivorRaises (survive_erase index)
      · cases stepped
  | createSession sessionKey =>
      simp only [Server.step] at stepped
      split at stepped
      · cases stepped
      · rename_i free
        cases stepped
        exact .createSession free
  | reuseSession sessionKey =>
      simp only [Server.step] at stepped
      split at stepped
      · cases stepped
      · rename_i name manager reused
        cases stepped
        exact .reuseSession reused
  | rebind index =>
      simp only [Server.step] at stepped
      split at stepped
      · rename_i endpoint present
        split at stepped
        · rename_i reused
          cases stepped
          exact .rebind present reused
        · cases stepped
      · cases stepped
  | loginFails index =>
      simp only [Server.step] at stepped
      split at stepped
      · rename_i endpoint present
        split at stepped
        · rename_i registered
          cases stepped
          exact .recycles present registered
        · rename_i reused
          cases stepped
          exact .retrieves present reused
        · cases stepped
      · cases stepped
  | startTasks index =>
      simp only [Server.step] at stepped
      split at stepped
      · rename_i endpoint present
        split at stepped
        · rename_i websocket registered socket
          cases stepped
          exact .startTasks present registered socket
        · cases stepped
      · cases stepped
  | readerDone index =>
      simp only [Server.step] at stepped
      split at stepped
      · rename_i endpoint present
        split at stepped
        · rename_i websocket reading
          cases stepped
          exact .readerDone present reading
        · cases stepped
      · cases stepped
  | send index =>
      simp only [Server.step] at stepped
      split at stepped
      · rename_i writer present
        split at stepped
        · rename_i event rest running queue
          cases stepped
          exact .send present running queue
        · cases stepped
      · cases stepped
  | writerDone index =>
      simp only [Server.step] at stepped
      split at stepped
      · rename_i writer present
        cases stepped
        exact .writerDone present
      · cases stepped
  | setState name state =>
      cases stepped
      exact .setState

end Server

/-! ## The tables and the endpoints -/

/-- What the endpoints and the session tables say about each other. -/
structure Attached (trace : List ServerEvent) (manager : SessionManager)
    (endpoints : List Endpoint) : Prop where
  placed : manager.Placed
  keys : (endpoints.map Endpoint.sessionKey).Nodup
  listed : ∀ endpoint ∈ endpoints,
    (endpoint.sessionKey, endpoint.session) ∈ manager.sessions
  bound : ∀ endpoint ∈ endpoints, endpoint.phase = .registered →
    ∀ websocket,
      (manager.object endpoint.session).websocket = some websocket →
      .bound websocket endpoint.sessionKey ∈ trace

variable {trace later : List ServerEvent}
  {manager following : SessionManager} {endpoints : List Endpoint}
  {endpoint : Endpoint} {server next : Server}

theorem attached_initial : Attached [] {} [] := by
  refine ⟨⟨?_, ?_, ?_⟩, List.nodup_nil, ?_, ?_⟩
  · intro first second name member
    cases member
  · intro sessionKey registered idle member
    cases member
  · intro entry member
    cases member
  · intro endpoint member
    cases member
  · intro endpoint member
    cases member

/-- The user of a session object that is registered is the one whose keys
lead to it. -/
theorem Attached.same_key (attached : Attached trace manager endpoints)
    (member : endpoint ∈ endpoints) {sessionKey : Int}
    (registered : (sessionKey, endpoint.session) ∈ manager.sessions) :
    sessionKey = endpoint.sessionKey :=
  attached.placed.single _ _ _
    (SessionManager.mem_entries_of_session registered)
    (SessionManager.mem_entries_of_session
      (attached.listed endpoint member))

theorem Attached.key_ne (attached : Attached trace manager endpoints)
    {index position : Nat} {other : Endpoint}
    (found : endpoints[index]? = some endpoint)
    (present : endpoints[position]? = some other)
    (different : position ≠ index) :
    other.sessionKey ≠ endpoint.sessionKey := by
  intro same
  obtain ⟨bound, _⟩ := List.getElem?_eq_some_iff.mp present
  have equal : (endpoints.map Endpoint.sessionKey)[position]? =
      (endpoints.map Endpoint.sessionKey)[index]? := by
    rw [List.getElem?_map, List.getElem?_map, found, present]
    simp [same]
  exact different
    ((List.getElem?_inj (by simpa using bound) attached.keys).mp equal)

theorem Attached.session_ne (attached : Attached trace manager endpoints)
    {other : Endpoint} (member : endpoint ∈ endpoints)
    (otherMember : other ∈ endpoints)
    (different : other.sessionKey ≠ endpoint.sessionKey) :
    other.session ≠ endpoint.session := by
  intro same
  have registered := attached.listed other otherMember
  rw [same] at registered
  exact different (attached.same_key member registered)

theorem Attached.take (attached : Attached trace manager endpoints)
    (takes : manager.Takes following endpoint.sessionKey endpoint.session)
    (placed : following.Placed)
    (kept : ∀ event ∈ trace, event ∈ later)
    (bound : endpoint.phase = .registered → ∀ websocket,
      (following.object endpoint.session).websocket = some websocket →
      .bound websocket endpoint.sessionKey ∈ later) :
    Attached later following (endpoints ++ [endpoint]) := by
  have older : ∀ other ∈ endpoints, other.session ≠ endpoint.session := by
    intro other member same
    have registered := attached.listed other member
    rw [same] at registered
    exact takes.unregistered other.sessionKey registered
  refine ⟨placed, ?_, ?_, ?_⟩
  · rw [List.map_append, List.nodup_append]
    refine ⟨attached.keys, List.pairwise_singleton _ _, ?_⟩
    intro sessionKey member new isNew same
    obtain ⟨other, listed, rfl⟩ := List.mem_map.mp member
    have registered := attached.listed other listed
    rw [same, List.mem_singleton.mp isNew] at registered
    exact takes.free other.session registered
  · intro other member
    rw [takes.sessions]
    rcases List.mem_append.mp member with before | new
    · exact List.mem_append_left _ (attached.listed other before)
    · rw [List.mem_singleton.mp new]
      exact List.mem_append_right _ (List.mem_singleton_self _)
  · intro other member registered websocket found
    rcases List.mem_append.mp member with before | new
    · rw [takes.websockets _ (older other before)] at found
      exact kept _ (attached.bound other before registered websocket found)
    · rw [List.mem_singleton.mp new] at registered found ⊢
      exact bound registered websocket found

theorem Attached.giveBack (attached : Attached trace manager endpoints)
    {index : Nat} (present : endpoints[index]? = some endpoint)
    (gives : manager.GivesBack following endpoint.sessionKey) :
    Attached trace following (endpoints.eraseIdx index) := by
  have remaining : ∀ other ∈ endpoints.eraseIdx index,
      other ∈ endpoints ∧ other.sessionKey ≠ endpoint.sessionKey := by
    intro other member
    obtain ⟨position, different, found⟩ :=
      List.mem_eraseIdx_iff_getElem?.mp member
    exact ⟨List.mem_of_getElem? found,
      attached.key_ne present found different⟩
  refine ⟨attached.placed.givesBack gives, ?_, ?_, ?_⟩
  · rw [← List.eraseIdx_map]
    exact attached.keys.eraseIdx index
  · intro other member
    obtain ⟨before, different⟩ := remaining other member
    rw [gives.sessions]
    exact Table.mem_pop.mpr ⟨attached.listed other before, different⟩
  · intro other member registered websocket found
    obtain ⟨before, different⟩ := remaining other member
    have elsewhere :
        (endpoint.sessionKey, other.session) ∉ manager.sessions := by
      intro same
      exact different (attached.same_key before same).symm
    rw [gives.websockets _ elsewhere] at found
    exact attached.bound other before registered websocket found

theorem Attached.setPhase (attached : Attached trace manager endpoints)
    {index : Nat} (present : endpoints[index]? = some endpoint)
    (phase : Phase) (placed : following.Placed)
    (sessions : following.sessions = manager.sessions)
    (sockets : ∀ other, other ≠ endpoint.session →
      (following.object other).websocket = (manager.object other).websocket)
    (kept : ∀ event ∈ trace, event ∈ later)
    (bound : phase = .registered → ∀ websocket,
      (following.object endpoint.session).websocket = some websocket →
      .bound websocket endpoint.sessionKey ∈ later) :
    Attached later following
      (endpoints.set index { endpoint with phase := phase }) := by
  have member := List.mem_of_getElem? present
  have origin : ∀ other ∈
        endpoints.set index { endpoint with phase := phase },
      other = { endpoint with phase := phase } ∨
        other ∈ endpoints ∧ other.session ≠ endpoint.session := by
    intro other listed
    obtain ⟨position, found⟩ := List.mem_iff_getElem?.mp listed
    by_cases same : index = position
    · left
      rw [List.getElem?_set, if_pos same] at found
      split at found
      · exact (Option.some.inj found).symm
      · cases found
    · right
      rw [List.getElem?_set_ne same] at found
      have before := List.mem_of_getElem? found
      exact ⟨before, attached.session_ne member before
        (attached.key_ne present found (Ne.symm same))⟩
  refine ⟨placed, ?_, ?_, ?_⟩
  · have unchanged : (endpoints.set index
        { endpoint with phase := phase }).map Endpoint.sessionKey =
          endpoints.map Endpoint.sessionKey := by
      obtain ⟨inside, rfl⟩ := List.getElem?_eq_some_iff.mp present
      rw [List.map_set]
      apply List.ext_getElem?
      intro position
      by_cases same : index = position
      · subst same
        simp [inside]
      · rw [List.getElem?_set_ne same]
    rw [unchanged]
    exact attached.keys
  · intro other listed
    rw [sessions]
    rcases origin other listed with rfl | ⟨before, _⟩
    · exact attached.listed endpoint member
    · exact attached.listed other before
  · intro other listed registered websocket found
    rcases origin other listed with rfl | ⟨before, different⟩
    · exact bound registered websocket found
    · rw [sockets _ different] at found
      exact kept _ (attached.bound other before registered websocket found)

theorem Attached.update (attached : Attached trace manager endpoints)
    (name : Nat) {change : WebsocketSession → WebsocketSession}
    (keeps : ∀ session, (change session).websocket = session.websocket) :
    Attached trace (manager.update name change) endpoints := by
  refine ⟨attached.placed.update name change, attached.keys,
    attached.listed, ?_⟩
  intro endpoint member registered websocket found
  rw [SessionManager.field_update WebsocketSession.websocket manager name _
    keeps] at found
  exact attached.bound endpoint member registered websocket found

theorem Attached.append (attached : Attached trace manager endpoints)
    (events : List ServerEvent) :
    Attached (trace ++ events) manager endpoints := by
  refine ⟨attached.placed, attached.keys, attached.listed, ?_⟩
  intro endpoint member registered websocket found
  exact List.mem_append_left _
    (attached.bound endpoint member registered websocket found)

theorem Attached.createSession
    (attached : Attached trace manager endpoints) (websocket : Nat)
    {sessionKey : Int} (free : manager.sessions.lookup sessionKey = none) :
    Attached (trace ++ [ServerEvent.bound websocket sessionKey])
      (manager.createSession websocket sessionKey).2
      (endpoints ++
        [{ sessionKey := sessionKey
           session := (manager.createSession websocket sessionKey).1
           phase := .registered }]) := by
  obtain ⟨takes, placed, socket⟩ :=
    SessionManager.createSession_takes attached.placed websocket free
  apply attached.take takes placed
  · exact fun _ member => List.mem_append_left _ member
  · intro _ bound found
    simp only at found
    rw [socket] at found
    cases found
    exact List.mem_append_right _ (List.mem_singleton_self _)

theorem Attached.reuseSession
    (attached : Attached trace manager endpoints) {sessionKey : Int}
    {name : Nat}
    (reused : manager.reuseSession sessionKey = some (name, following)) :
    Attached trace following
      (endpoints ++
        [{ sessionKey := sessionKey
           session := name
           phase := .reused }]) := by
  obtain ⟨takes, placed⟩ :=
    SessionManager.reuseSession_takes attached.placed reused
  apply attached.take takes placed (fun _ member => member)
  intro registered
  cases registered

theorem Attached.rebind (attached : Attached trace manager endpoints)
    {index : Nat} (present : endpoints[index]? = some endpoint)
    (websocket : Nat) :
    Attached (trace ++ [ServerEvent.bound websocket endpoint.sessionKey])
      (manager.update endpoint.session
        (·.rebind websocket endpoint.sessionKey))
      (endpoints.set index { endpoint with phase := .registered }) := by
  have member := List.mem_of_getElem? present
  apply attached.setPhase present .registered
    (attached.placed.update _ _) rfl
  · intro other different
    exact congrArg WebsocketSession.websocket
      (SessionManager.object_update_of_ne _ different)
  · exact fun _ member => List.mem_append_left _ member
  · intro _ bound found
    have allocated := attached.placed.allocated _
      (SessionManager.mem_entries_of_session
        (attached.listed endpoint member))
    rw [SessionManager.object_update_of_lt _ allocated] at found
    cases found
    exact List.mem_append_right _ (List.mem_singleton_self _)

theorem Attached.startTasks
    (attached : Attached trace manager endpoints) {index : Nat}
    (present : endpoints[index]? = some endpoint) (websocket : Nat) :
    Attached trace manager
      (endpoints.set index
        { endpoint with phase := .reading websocket }) := by
  apply attached.setPhase present (.reading websocket) attached.placed rfl
    (fun _ _ => rfl) (fun _ member => member)
  intro registered
  cases registered

/-- Every step of the gateway keeps the tables and the endpoints
together. -/
theorem Attached.stepped
    (attached : Attached trace server.manager server.endpoints)
    {action : ServerAction} {events : List ServerEvent}
    (stepped : server.Stepped action next events) :
    Attached (trace ++ events) next.manager next.endpoints := by
  cases stepped with
  | push => exact attached.append []
  | put found =>
      apply Attached.append
      exact attached.update _ (fun _ => rfl)
  | receive | deliver | unacknowledged | unanswered | deliverRaises
  | survivorDelivers | survivorRaises => exact attached.append []
  | acknowledge | survivorAcknowledges =>
      apply Attached.append
      exact attached.update _ (fun _ => rfl)
  | createSession free => exact attached.createSession _ free
  | reuseSession reused => exact (attached.reuseSession reused).append []
  | rebind present reused => exact attached.rebind present _
  | recycles present registered =>
      apply Attached.append
      exact attached.giveBack present
        (SessionManager.recycleSession_givesBack attached.placed _)
  | retrieves present reused =>
      apply Attached.append
      exact attached.giveBack present
        (SessionManager.retrieveSession_givesBack attached.placed
          (attached.listed _ (List.mem_of_getElem? present)))
  | startTasks present registered socket =>
      exact (attached.startTasks present _).append []
  | readerDone present reading =>
      apply Attached.append
      exact attached.giveBack present
        (SessionManager.recycleSession_givesBack attached.placed _)
  | send present running queue =>
      apply Attached.append
      exact attached.update _ (fun _ => rfl)
  | writerDone present =>
      apply Attached.append
      exact attached.update _ (fun _ => rfl)
  | setState =>
      apply Attached.append
      exact attached.update _ (fun _ => rfl)

end Gateway

end TinyChat
