import TinyChat.Gateway.SessionSteps

/-!
# Events and the users of recycled sessions

An event stays in the write queue of a session object, or in a `put` task,
when the object is given to another user.  While a writer runs, its session
is registered under the key of its websocket, so only events of that user
are added to the queue.  What the writer sends is therefore decided by what
is left over when it starts.
-/

namespace TinyChat

namespace Gateway

open Transition

/-- Every event that is or may come into a session's queue is for `user`: no
other event is in the queue or in a `put` task, and no task that has outlived
its reader has messages of another user to deliver. -/
def OwnEvents (server : Server) (name : Nat) (user : Int) : Prop :=
  (∀ event ∈ (server.manager.object name).writeQueue, event.user = user) ∧
    (∀ pending ∈ server.puts, pending.1 = name → pending.2.user = user) ∧
    ∀ survivor ∈ server.survivors, survivor.session = name →
      Server.userOf survivor.sessionKey = user

instance ownEvents_decidable (server : Server) (name : Nat) (user : Int) :
    Decidable (OwnEvents server name user) :=
  inferInstanceAs (Decidable (_ ∧ _ ∧ _))

/-- A connection starts its writer and reader only if nothing is left over
from another user of its session. -/
def StartsClean (server : Server) : ServerAction → Prop
  | .startTasks index => ∀ endpoint ∈ server.endpoints[index]?,
      OwnEvents server endpoint.session (Server.userOf endpoint.sessionKey)
  | _ => True

instance startsClean_decidable (server : Server) :
    ∀ action, Decidable (StartsClean server action)
  | .startTasks index =>
      inferInstanceAs (Decidable (∀ endpoint ∈ server.endpoints[index]?,
        OwnEvents server endpoint.session
          (Server.userOf endpoint.sessionKey)))
  | .push _ _ _ | .put _ | .receive _ _ | .deliver _ | .acknowledge _
  | .unanswered _ | .deliverRaises _ | .survivorDelivers _ _
  | .survivorRaises _ | .createSession _ | .reuseSession _ | .rebind _
  | .loginFails _ | .readerDone _ | .send _ | .writerDone _
  | .setState _ _ => .isTrue trivial

/-- What is sent on a websocket is for the user to whose session key the
websocket is bound. -/
def Delivered (before : List ServerEvent) : ServerEvent → Prop
  | .bound _ _ => True
  | .sent websocket event =>
      (∃ sessionKey, .bound websocket sessionKey ∈ before) ∧
      ∀ sessionKey, .bound websocket sessionKey ∈ before →
        event.user = Server.userOf sessionKey

/-! ## The invariant -/

/-- Every websocket of the trace is bound to one key. -/
structure Bindings (trace : List ServerEvent) (websockets : Nat) : Prop where
  fresh : ∀ websocket sessionKey, .bound websocket sessionKey ∈ trace →
    websocket < websockets
  unique : ∀ websocket first second, .bound websocket first ∈ trace →
    .bound websocket second ∈ trace → first = second

/-- A running writer has an endpoint that reads from the same websocket, and
its queue gets only events for the user of that websocket. -/
structure Serves (trace : List ServerEvent) (server : Server)
    (writer : Writer) : Prop where
  owned : ∃ endpoint ∈ server.endpoints,
    endpoint.sessionKey = writer.sessionKey ∧
      endpoint.session = writer.session ∧
      endpoint.phase = .reading writer.websocket
  wired : .bound writer.websocket writer.sessionKey ∈ trace
  own : OwnEvents server writer.session (Server.userOf writer.sessionKey)

structure Safe (trace : List ServerEvent) (server : Server) : Prop where
  attached : Attached trace server.manager server.endpoints
  bindings : Bindings trace server.websockets
  serves : ∀ writer ∈ server.writers, writer.cancelled = false →
    Serves trace server writer
  delivered : EachEvent Delivered [] trace

variable {trace : List ServerEvent} {server next : Server}

theorem OwnEvents.of_origin {name : Nat} {user : Int}
    (own : OwnEvents server name user)
    (queue : ∀ event ∈ (next.manager.object name).writeQueue,
      event ∈ (server.manager.object name).writeQueue ∨ event.user = user)
    (puts : ∀ pending ∈ next.puts, pending.1 = name →
      pending ∈ server.puts ∨ pending.2.user = user)
    (survivors : server.Survive next.survivors) :
    OwnEvents next name user := by
  refine ⟨?_, ?_, ?_⟩
  · intro event member
    rcases queue event member with before | same
    · exact own.1 event before
    · exact same
  · intro pending member same
    rcases puts pending member same with before | equal
    · exact own.2.1 pending before same
    · exact equal
  · intro survivor member same
    obtain ⟨former, before, key, session⟩ := survivors survivor member
    rw [← key]
    exact own.2.2 former before (session.trans same)

theorem OwnEvents.of_eq {name : Nat} {user : Int}
    (own : OwnEvents server name user)
    (queues : ∀ other, (next.manager.object other).writeQueue =
      (server.manager.object other).writeQueue)
    (puts : next.puts = server.puts)
    (survivors : next.survivors = server.survivors) :
    OwnEvents next name user := by
  refine own.of_origin ?_ ?_ ?_
  · intro event member
    rw [queues] at member
    exact Or.inl member
  · intro pending member _
    rw [puts] at member
    exact Or.inl member
  · rw [survivors]
    exact server.survive_refl

theorem Server.userOf_of_mem_keysOf {user sessionKey : Int}
    (member : sessionKey ∈ Server.keysOf user) :
    Server.userOf sessionKey = user := by
  obtain ⟨device, inRange, equality⟩ := List.mem_map.mp member
  have small := List.mem_range.mp inRange
  simp only [Server.userOf, Server.deviceKinds] at small equality ⊢
  omega

/-- A push handler finds an object only under a key of its user. -/
theorem Server.mem_targets {manager : SessionManager} {user : Int}
    {name : Nat} (member : name ∈ Server.targets manager user) :
    ∃ sessionKey, (sessionKey, name) ∈ manager.sessions ∧
      Server.userOf sessionKey = user := by
  simp only [Server.targets, List.mem_filterMap,
    Option.filter_eq_some_iff] at member
  obtain ⟨sessionKey, ofUser, found, _⟩ := member
  exact ⟨sessionKey, Table.mem_of_lookup found,
    Server.userOf_of_mem_keysOf ofUser⟩

/-! ## Steps on the queues -/

/-- A step that changes neither the registered sessions, nor the websockets,
nor the endpoints. -/
theorem Safe.frame (safe : Safe trace server)
    (placed : next.manager.Placed)
    (sessions : next.manager.sessions = server.manager.sessions)
    (sockets : ∀ name, (next.manager.object name).websocket =
      (server.manager.object name).websocket)
    (websockets : next.websockets = server.websockets)
    (endpoints : next.endpoints = server.endpoints)
    (writers : ∀ writer ∈ next.writers, writer ∈ server.writers)
    (own : ∀ endpoint ∈ server.endpoints,
      OwnEvents server endpoint.session
        (Server.userOf endpoint.sessionKey) →
      OwnEvents next endpoint.session
        (Server.userOf endpoint.sessionKey)) :
    Safe trace next := by
  refine ⟨⟨placed, ?_, ?_, ?_⟩, ?_, ?_, safe.delivered⟩
  · rw [endpoints]
    exact safe.attached.keys
  · rw [endpoints, sessions]
    exact safe.attached.listed
  · intro endpoint member registered websocket found
    rw [endpoints] at member
    rw [sockets] at found
    exact safe.attached.bound endpoint member registered websocket found
  · rw [websockets]
    exact safe.bindings
  · intro writer member running
    obtain ⟨⟨endpoint, listed, sameKey, sameSession, reading⟩, wired, events⟩ :=
      safe.serves writer (writers writer member) running
    refine ⟨⟨endpoint, ?_, sameKey, sameSession, reading⟩, wired, ?_⟩
    · rw [endpoints]
      exact listed
    · rw [← sameKey, ← sameSession] at events ⊢
      exact own endpoint listed events

/-- A step that changes one session object but not its websocket. -/
theorem Safe.update (safe : Safe trace server) (name : Nat)
    {change : WebsocketSession → WebsocketSession}
    (manager : next.manager = server.manager.update name change)
    (keeps : ∀ session, (change session).websocket = session.websocket)
    (websockets : next.websockets = server.websockets)
    (endpoints : next.endpoints = server.endpoints)
    (writers : ∀ writer ∈ next.writers, writer ∈ server.writers)
    (own : ∀ endpoint ∈ server.endpoints,
      OwnEvents server endpoint.session
        (Server.userOf endpoint.sessionKey) →
      OwnEvents next endpoint.session
        (Server.userOf endpoint.sessionKey)) :
    Safe trace next := by
  refine safe.frame ?_ ?_ ?_ websockets endpoints writers own
  · rw [manager]
    exact safe.attached.placed.update name change
  · rw [manager]
    rfl
  · intro other
    rw [manager]
    exact SessionManager.field_update WebsocketSession.websocket
      server.manager name other keeps

theorem Safe.push (safe : Safe trace server) (event : PubEventToUser) :
    Safe trace (server.push event) := by
  refine safe.frame safe.attached.placed rfl (fun _ => rfl) rfl rfl
    (fun _ member => member) ?_
  intro endpoint member own
  refine own.of_origin (fun _ queued => Or.inl queued) ?_
    server.survive_refl
  intro pending listed same
  rcases List.mem_append.mp listed with before | new
  · exact Or.inl before
  · right
    obtain ⟨name, target, rfl⟩ := List.mem_map.mp new
    obtain ⟨sessionKey, registered, ofUser⟩ := Server.mem_targets target
    simp only at same
    rw [same] at registered
    rw [← safe.attached.same_key member registered]
    exact ofUser.symm

theorem mem_writeQueue_enqueue {manager : SessionManager}
    {name other : Nat} {added event : PubEventToUser}
    (member : event ∈ ((manager.update name
      (Server.enqueue added)).object other).writeQueue) :
    event ∈ (manager.object other).writeQueue ∨
      other = name ∧ event = added := by
  rcases manager.object_update name other (Server.enqueue added) with
    same | ⟨equal, changed⟩
  · rw [same] at member
    exact Or.inl member
  · rw [changed] at member
    rcases List.mem_append.mp member with before | new
    · exact Or.inl before
    · exact Or.inr ⟨equal, List.mem_singleton.mp new⟩

theorem mem_writeQueue_setQueue {manager : SessionManager}
    {name other : Nat} {queue : List PubEventToUser}
    (fewer : ∀ event ∈ queue, event ∈ (manager.object name).writeQueue)
    {event : PubEventToUser}
    (member : event ∈ ((manager.update name
      (Server.setQueue queue)).object other).writeQueue) :
    event ∈ (manager.object other).writeQueue := by
  rcases manager.object_update name other (Server.setQueue queue) with
    same | ⟨equal, changed⟩
  · rw [same] at member
    exact member
  · rw [changed] at member
    rw [equal]
    exact fewer event member

theorem Safe.put (safe : Safe trace server) {index name : Nat}
    {event : PubEventToUser}
    (found : server.puts[index]? = some (name, event)) :
    Safe trace
      { server with
        manager := server.manager.update name (Server.enqueue event)
        puts := server.puts.eraseIdx index } := by
  refine safe.update name rfl (fun _ => rfl) rfl rfl
    (fun _ member => member) ?_
  intro endpoint _ own
  have pending := List.mem_of_getElem? found
  refine own.of_origin ?_ ?_ server.survive_refl
  · intro queued member
    rcases mem_writeQueue_enqueue member with before | ⟨same, rfl⟩
    · exact Or.inl before
    · exact Or.inr (own.2.1 _ pending same.symm)
  · intro other member _
    exact Or.inl (List.mem_of_mem_eraseIdx member)

theorem Safe.acknowledge (safe : Safe trace server) {sessionKey : Int}
    {session : Nat} {deliveryId : Int} {delivers : Table Nat Deliverer}
    {survivors : List Survivor} (left : server.Survive survivors)
    (own : ∀ endpoint ∈ server.endpoints, endpoint.session = session →
      OwnEvents server session (Server.userOf endpoint.sessionKey) →
      Server.userOf sessionKey = Server.userOf endpoint.sessionKey) :
    Safe trace
      { server.acknowledge sessionKey session deliveryId with
        delivers := delivers
        survivors := survivors } := by
  refine safe.update session rfl (fun _ => rfl) rfl rfl
    (fun _ member => member) ?_
  intro endpoint listed clean
  refine clean.of_origin ?_ (fun _ pending _ => Or.inl pending) left
  intro event queued
  rcases mem_writeQueue_enqueue queued with before | ⟨same, rfl⟩
  · exact Or.inl before
  · rw [same] at clean
    exact Or.inr (own endpoint listed same clean)

theorem Safe.deliver (safe : Safe trace server)
    {delivers : Table Nat Deliverer} {survivors : List Survivor}
    (left : server.Survive survivors) :
    Safe trace
      { server with
        delivers := delivers
        survivors := survivors } := by
  refine safe.frame safe.attached.placed rfl (fun _ => rfl) rfl rfl
    (fun _ member => member) ?_
  intro endpoint _ own
  exact own.of_origin (fun _ queued => Or.inl queued)
    (fun _ pending _ => Or.inl pending) left

theorem Safe.setQueue (safe : Safe trace server) (name : Nat)
    {queue : List PubEventToUser}
    (fewer : ∀ event ∈ queue,
      event ∈ (server.manager.object name).writeQueue)
    (manager : next.manager =
      server.manager.update name (Server.setQueue queue))
    (websockets : next.websockets = server.websockets)
    (endpoints : next.endpoints = server.endpoints)
    (writers : ∀ writer ∈ next.writers, writer ∈ server.writers)
    (puts : next.puts = server.puts)
    (survivors : next.survivors = server.survivors) :
    Safe trace next := by
  refine safe.update name manager (fun _ => rfl) websockets endpoints writers
    ?_
  intro endpoint _ own
  refine own.of_origin ?_ ?_ (survivors ▸ server.survive_refl)
  · intro event member
    rw [manager] at member
    exact Or.inl (mem_writeQueue_setQueue fewer member)
  · intro pending member _
    rw [puts] at member
    exact Or.inl member

theorem Safe.writerDone (safe : Safe trace server) (index : Nat)
    (writer : Writer) : Safe trace (server.endWriter index writer) := by
  refine safe.setQueue writer.session ?_ rfl rfl rfl ?_ rfl rfl
  · intro event member
    cases member
  · intro other member
    exact List.mem_of_mem_eraseIdx member

theorem Safe.setState (safe : Safe trace server) (name : Nat)
    (state : SessionState) :
    Safe trace (server.withManager (server.manager.update name
      (fun session => { session with state := state }))) := by
  refine safe.update name rfl (fun _ => rfl) rfl rfl
    (fun _ member => member) ?_
  intro endpoint _ own
  refine own.of_eq ?_ rfl rfl
  intro other
  exact SessionManager.field_update WebsocketSession.writeQueue
    server.manager name other (fun _ => rfl)

/-! ## Sending -/

theorem Safe.sent (safe : Safe trace server) {websocket : Nat}
    {event : PubEventToUser}
    (delivered : Delivered trace (.sent websocket event)) :
    Safe (trace ++ [ServerEvent.sent websocket event]) server := by
  have bound : ∀ other sessionKey,
      .bound other sessionKey ∈ trace ++ [ServerEvent.sent websocket event] →
      .bound other sessionKey ∈ trace := by
    intro other sessionKey member
    simpa using member
  refine ⟨safe.attached.append _, ⟨?_, ?_⟩, ?_, ?_⟩
  · intro socket sessionKey member
    exact safe.bindings.fresh socket sessionKey (bound _ _ member)
  · intro socket first second firstBound secondBound
    exact safe.bindings.unique socket first second (bound _ _ firstBound)
      (bound _ _ secondBound)
  · intro writer member running
    obtain ⟨owned, wired, own⟩ := safe.serves writer member running
    exact ⟨owned, List.mem_append_left _ wired, own⟩
  · exact (eachEvent_append [] trace _).mpr
      ⟨safe.delivered, delivered, trivial⟩

theorem Serves.delivered {writer : Writer}
    (serves : Serves trace server writer)
    (bindings : Bindings trace server.websockets) {event : PubEventToUser}
    (queued : event ∈ (server.manager.object writer.session).writeQueue) :
    Delivered trace (.sent writer.websocket event) := by
  refine ⟨⟨writer.sessionKey, serves.wired⟩, ?_⟩
  intro sessionKey bound
  rw [bindings.unique _ _ _ bound serves.wired]
  exact serves.own.1 event queued

theorem Safe.send (safe : Safe trace server) {writer : Writer}
    (member : writer ∈ server.writers) (running : writer.cancelled = false)
    {event : PubEventToUser} {rest : List PubEventToUser}
    (queue : (server.manager.object writer.session).writeQueue =
      event :: rest) :
    Safe (trace ++ [ServerEvent.sent writer.websocket event])
      (server.withManager (server.manager.update writer.session
        (Server.setQueue rest))) := by
  have head : event ∈ (server.manager.object writer.session).writeQueue := by
    rw [queue]
    exact List.mem_cons_self
  have delivered := (safe.serves writer member running).delivered
    safe.bindings head
  refine (safe.sent delivered).setQueue writer.session ?_ rfl rfl rfl
    (fun _ listed => listed) rfl rfl
  intro later listed
  rw [queue]
  exact List.mem_cons_of_mem _ listed

/-! ## Steps of the endpoints -/

variable {following : SessionManager} {endpoints : List Endpoint}
  {endpoint : Endpoint} {later : List ServerEvent}

theorem Serves.transport {writer : Writer}
    (serves : Serves trace server writer)
    (kept : ∀ event ∈ trace, event ∈ later)
    (stays : ∀ endpoint ∈ server.endpoints,
      endpoint.phase = .reading writer.websocket →
      endpoint ∈ next.endpoints)
    (queues : ∀ other, (next.manager.object other).writeQueue =
      (server.manager.object other).writeQueue)
    (puts : next.puts = server.puts)
    (survivors : next.survivors = server.survivors) :
    Serves later next writer := by
  obtain ⟨⟨endpoint, listed, sameKey, sameSession, reading⟩, wired, own⟩ :=
    serves
  exact ⟨⟨endpoint, stays endpoint listed reading, sameKey, sameSession,
    reading⟩, kept _ wired, own.of_eq queues puts survivors⟩

theorem Bindings.bind {websockets : Nat}
    (bindings : Bindings trace websockets) (sessionKey : Int) :
    Bindings (trace ++ [ServerEvent.bound websockets sessionKey])
      (websockets + 1) := by
  have origin : ∀ websocket other,
      .bound websocket other ∈
        trace ++ [ServerEvent.bound websockets sessionKey] →
      .bound websocket other ∈ trace ∧ websocket < websockets ∨
        websocket = websockets ∧ other = sessionKey := by
    intro websocket other member
    rcases List.mem_append.mp member with before | new
    · exact Or.inl ⟨before, bindings.fresh websocket other before⟩
    · right
      simpa using new
  constructor
  · intro websocket other member
    rcases origin websocket other member with ⟨_, below⟩ | ⟨rfl, _⟩
    · exact Nat.lt_succ_of_lt below
    · exact Nat.lt_succ_self _
  · intro websocket first second firstBound secondBound
    rcases origin _ _ firstBound with ⟨before, below⟩ | ⟨isNew, rfl⟩
    · rcases origin _ _ secondBound with ⟨earlier, _⟩ | ⟨isNew, _⟩
      · exact bindings.unique websocket first second before earlier
      · exact absurd isNew (Nat.ne_of_lt below)
    · rcases origin _ _ secondBound with ⟨_, below⟩ | ⟨_, rfl⟩
      · exact absurd isNew (Nat.ne_of_lt below)
      · rfl

theorem delivered_bind (delivered : EachEvent Delivered [] trace)
    (websocket : Nat) (sessionKey : Int) :
    EachEvent Delivered []
      (trace ++ [ServerEvent.bound websocket sessionKey]) :=
  (eachEvent_append [] trace _).mpr ⟨delivered, trivial, trivial⟩

theorem Safe.createSession (safe : Safe trace server) {sessionKey : Int}
    (free : server.manager.sessions.lookup sessionKey = none) :
    Safe (trace ++ [ServerEvent.bound server.websockets sessionKey])
      { server with
        manager :=
          (server.manager.createSession server.websockets sessionKey).2
        websockets := server.websockets + 1
        endpoints := server.endpoints ++
          [{ sessionKey := sessionKey
             session := (server.manager.createSession server.websockets
               sessionKey).1
             phase := .registered }] } := by
  obtain ⟨takes, _, _⟩ := SessionManager.createSession_takes
    safe.attached.placed server.websockets free
  have kept : ∀ event ∈ trace,
      event ∈ trace ++ [ServerEvent.bound server.websockets sessionKey] :=
    fun _ member => List.mem_append_left _ member
  refine ⟨safe.attached.createSession _ free,
    safe.bindings.bind sessionKey, ?_,
    delivered_bind safe.delivered server.websockets sessionKey⟩
  intro writer member running
  refine (safe.serves writer member running).transport kept ?_
    takes.queues rfl rfl
  intro endpoint listed _
  exact List.mem_append_left _ listed

theorem Safe.reuseSession (safe : Safe trace server) {sessionKey : Int}
    {name : Nat}
    (reused : server.manager.reuseSession sessionKey =
      some (name, following)) :
    Safe trace
      { server with
        manager := following
        endpoints := server.endpoints ++
          [{ sessionKey := sessionKey
             session := name
             phase := .reused }] } := by
  obtain ⟨takes, _⟩ :=
    SessionManager.reuseSession_takes safe.attached.placed reused
  refine ⟨safe.attached.reuseSession reused, safe.bindings, ?_,
    safe.delivered⟩
  intro writer member running
  refine (safe.serves writer member running).transport
    (fun _ member => member) ?_ takes.queues rfl rfl
  intro endpoint listed _
  exact List.mem_append_left _ listed

theorem mem_set_of_reading {index websocket : Nat} {other : Endpoint}
    (present : endpoints[index]? = some endpoint)
    (notReading : endpoint.phase ≠ .reading websocket)
    (member : other ∈ endpoints) (reading : other.phase = .reading websocket)
    (replacement : Endpoint) : other ∈ endpoints.set index replacement := by
  obtain ⟨position, found⟩ := List.mem_iff_getElem?.mp member
  have different : index ≠ position := by
    intro same
    rw [same, found] at present
    cases present
    exact notReading reading
  apply List.mem_of_getElem?
  rw [List.getElem?_set_ne different]
  exact found

theorem mem_eraseIdx_of_reading {index websocket : Nat} {other : Endpoint}
    (present : endpoints[index]? = some endpoint)
    (notReading : endpoint.phase ≠ .reading websocket)
    (member : other ∈ endpoints)
    (reading : other.phase = .reading websocket) :
    other ∈ endpoints.eraseIdx index := by
  obtain ⟨position, found⟩ := List.mem_iff_getElem?.mp member
  refine List.mem_eraseIdx_iff_getElem?.mpr ⟨position, ?_, found⟩
  intro same
  rw [← same, found] at present
  cases present
  exact notReading reading

theorem Safe.rebind (safe : Safe trace server) {index : Nat}
    (present : server.endpoints[index]? = some endpoint)
    (reused : endpoint.phase = .reused) :
    Safe (trace ++ [ServerEvent.bound server.websockets endpoint.sessionKey])
      { server with
        manager := server.manager.update endpoint.session
          (·.rebind server.websockets endpoint.sessionKey)
        websockets := server.websockets + 1
        endpoints := server.endpoints.set index
          { endpoint with phase := .registered } } := by
  refine ⟨safe.attached.rebind present _,
    safe.bindings.bind endpoint.sessionKey, ?_,
    delivered_bind safe.delivered _ _⟩
  intro writer listed running
  refine (safe.serves writer listed running).transport
    (fun _ member => List.mem_append_left _ member) ?_ ?_ rfl rfl
  · intro other otherListed reading
    refine mem_set_of_reading present ?_ otherListed reading _
    rw [reused]
    exact Phase.noConfusion
  · intro other
    exact SessionManager.field_update WebsocketSession.writeQueue
      server.manager endpoint.session other (fun _ => rfl)

theorem Safe.leave (safe : Safe trace server) {index : Nat}
    (present : server.endpoints[index]? = some endpoint)
    (gives : server.manager.GivesBack next.manager endpoint.sessionKey)
    (websockets : next.websockets = server.websockets)
    (endpoints : next.endpoints = server.endpoints.eraseIdx index)
    (writers : ∀ writer ∈ next.writers, writer.cancelled = false →
      writer ∈ server.writers ∧
        endpoint.phase ≠ .reading writer.websocket)
    (puts : next.puts = server.puts)
    (survivors : ∀ survivor ∈ next.survivors,
      survivor ∈ server.survivors ∨
        survivor.sessionKey = endpoint.sessionKey ∧
          survivor.session = endpoint.session) : Safe trace next := by
  refine ⟨?_, ?_, ?_, safe.delivered⟩
  · rw [endpoints]
    exact safe.attached.giveBack present gives
  · rw [websockets]
    exact safe.bindings
  · intro writer member running
    obtain ⟨before, notReading⟩ := writers writer member running
    obtain ⟨⟨other, listed, sameKey, sameSession, reading⟩, wired,
      queue, waiting, former⟩ := safe.serves writer before running
    refine ⟨⟨other, ?_, sameKey, sameSession, reading⟩, wired, ?_, ?_, ?_⟩
    · rw [endpoints]
      exact mem_eraseIdx_of_reading present notReading listed reading
    · rw [gives.queues]
      exact queue
    · rw [puts]
      exact waiting
    · intro survivor survived same
      rcases survivors survivor survived with old | ⟨key, session⟩
      · exact former survivor old same
      · have registered := safe.attached.listed endpoint
          (List.mem_of_getElem? present)
        rw [← session, same, ← sameSession] at registered
        rw [key, ← sameKey, safe.attached.same_key listed registered]

theorem Safe.startTasks (safe : Safe trace server) {index websocket : Nat}
    (present : server.endpoints[index]? = some endpoint)
    (registered : endpoint.phase = .registered)
    (socket : (server.manager.object endpoint.session).websocket =
      some websocket)
    (clean : OwnEvents server endpoint.session
      (Server.userOf endpoint.sessionKey)) :
    Safe trace (server.startTasks index endpoint websocket) := by
  have member := List.mem_of_getElem? present
  obtain ⟨inside, _⟩ := List.getElem?_eq_some_iff.mp present
  refine ⟨safe.attached.startTasks present websocket, safe.bindings, ?_,
    safe.delivered⟩
  intro writer listed running
  rcases List.mem_append.mp listed with before | new
  · refine (safe.serves writer before running).transport
      (fun _ member => member) ?_ (fun _ => rfl) rfl rfl
    intro other otherListed reading
    refine mem_set_of_reading present ?_ otherListed reading _
    rw [registered]
    exact Phase.noConfusion
  · rw [List.mem_singleton.mp new]
    refine ⟨⟨{ endpoint with phase := .reading websocket },
      List.mem_set inside _, rfl, rfl, rfl⟩, ?_, clean⟩
    exact safe.attached.bound endpoint member registered websocket socket

theorem Safe.readerDone (safe : Safe trace server) {index websocket : Nat}
    (present : server.endpoints[index]? = some endpoint)
    (reading : endpoint.phase = .reading websocket) :
    Safe trace (server.readerDone index endpoint websocket) := by
  refine safe.leave present
    (SessionManager.recycleSession_givesBack safe.attached.placed
      endpoint.sessionKey) rfl rfl ?_ rfl ?_
  · intro writer member running
    obtain ⟨former, listed, changed⟩ := List.mem_map.mp member
    split at changed
    · subst changed
      cases running
    · rename_i different
      subst changed
      refine ⟨listed, ?_⟩
      rw [reading]
      intro same
      cases same
      exact different rfl
  · intro survivor member
    exact (List.mem_append.mp member).imp_right Server.mem_survivorOf

/-- A login fails before it has a writer. -/
theorem Safe.loginFails (safe : Safe trace server) {index : Nat}
    (present : server.endpoints[index]? = some endpoint)
    (login : ∀ websocket, endpoint.phase ≠ .reading websocket)
    (gives : server.manager.GivesBack following endpoint.sessionKey) :
    Safe trace
      { server with
        manager := following
        endpoints := server.endpoints.eraseIdx index } :=
  safe.leave present gives rfl rfl
    (fun writer member _ => ⟨member, login writer.websocket⟩) rfl
    (fun _ member => .inl member)

/-! ## Runs -/

theorem Safe.stepped (safe : Safe trace server) {action : ServerAction}
    {events : List ServerEvent} (clean : StartsClean server action)
    (stepped : server.Stepped action next events) :
    Safe (trace ++ events) next := by
  cases stepped with
  | push =>
      rw [List.append_nil]
      exact safe.push _
  | put found =>
      rw [List.append_nil]
      exact safe.put found
  | receive | deliver | unacknowledged | unanswered | deliverRaises =>
      rw [List.append_nil]
      exact safe.deliver server.survive_refl
  | survivorDelivers left | survivorRaises left =>
      rw [List.append_nil]
      exact safe.deliver left
  | @acknowledge index websocket endpoint deliveryId delivers present
      reading =>
      rw [List.append_nil]
      refine safe.acknowledge server.survive_refl ?_
      intro other listed same _
      have registered := safe.attached.listed other listed
      rw [same] at registered
      rw [safe.attached.same_key (List.mem_of_getElem? present) registered]
  | survivorAcknowledges member left =>
      rw [List.append_nil]
      refine safe.acknowledge left ?_
      intro _ _ _ own
      exact own.2.2 _ member rfl
  | createSession free => exact safe.createSession free
  | reuseSession reused =>
      rw [List.append_nil]
      exact safe.reuseSession reused
  | rebind present reused => exact safe.rebind present reused
  | @recycles index endpoint present registered =>
      rw [List.append_nil]
      refine safe.loginFails present ?_
        (SessionManager.recycleSession_givesBack safe.attached.placed
          endpoint.sessionKey)
      rw [registered]
      exact fun _ => Phase.noConfusion
  | @retrieves index endpoint present reused =>
      rw [List.append_nil]
      refine safe.loginFails present ?_
        (SessionManager.retrieveSession_givesBack safe.attached.placed
          (safe.attached.listed endpoint (List.mem_of_getElem? present)))
      rw [reused]
      exact fun _ => Phase.noConfusion
  | @startTasks index websocket endpoint present registered socket =>
      rw [List.append_nil]
      exact safe.startTasks present registered socket
        (clean endpoint present)
  | readerDone present reading =>
      rw [List.append_nil]
      exact safe.readerDone present reading
  | send present running queue =>
      exact safe.send (List.mem_of_getElem? present) running queue
  | writerDone present =>
      rw [List.append_nil]
      exact safe.writerDone _ _
  | setState =>
      rw [List.append_nil]
      exact safe.setState _ _

/-- The first of two messages is inside of `deliver_message` when the client
disconnects.  The second one is acknowledged to the next user of the
session. -/
example : (exec Server.step (fun _ _ => True) {}
    [.createSession 6, .startTasks 0, .receive 0 1, .receive 0 2, .deliver 0,
      .readerDone 0, .writerDone 0, .createSession 11, .startTasks 0,
      .survivorDelivers 0 true, .send 0]).map Prod.snd =
    some [.bound 0 6, .bound 1 11, .sent 1 ⟨1, .ackUserMessage, 2⟩] := by
  decide

end Gateway

end TinyChat
