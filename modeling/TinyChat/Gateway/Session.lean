import TinyChat.Lib.Table
import TinyChat.Lib.Transition

/-!
# Websocket sessions and their recycling

A `WebsocketSession` outlives the connection for which it was created: the
`SessionManager` keeps it, with its write queue, and gives it to a later
connection.  Push handlers, endpoints, readers and writers of the gateway
run concurrently; each section between two suspension points is one step.
-/

namespace TinyChat

namespace Gateway

inductive EventType where
  | friendRequest
  | friendConfirm
  | userMessage
  | ackUserMessage
  deriving DecidableEq

/-- An event and the user for whom it was created. -/
structure PubEventToUser where
  user : Int
  evtTp : EventType
  deliveryId : Int
  deriving DecidableEq

inductive SessionState where
  | idle
  | active
  | closing
  | closed

def SessionState.number : SessionState → Nat
  | .idle => 0
  | .active => 1
  | .closing => 2
  | .closed => 3

structure WebsocketSession where
  websocket : Option Nat := none
  sessionKey : Option Int := none
  state : SessionState := .idle
  writeQueue : List PubEventToUser := []

namespace WebsocketSession

def queueMaxsize : Nat := 1024

def active (session : WebsocketSession) : Bool :=
  session.state.number &&& SessionState.closing.number = 0

def rebind (session : WebsocketSession) (websocket : Nat)
    (sessionKey : Int) : WebsocketSession :=
  { session with websocket := some websocket, sessionKey := some sessionKey }

/-- The write queue and what it holds stay. -/
def clear (session : WebsocketSession) : WebsocketSession :=
  { session with websocket := none, sessionKey := none, state := .idle }

end WebsocketSession

/-- The session objects, which are named by their positions, and the tables
of the registered and of the idle ones. -/
structure SessionManager where
  objects : List WebsocketSession := []
  sessions : Table Int Nat := []
  idleSessions : Table Int Nat := []

namespace SessionManager

def idleCapacity : Nat := 1024

def object (manager : SessionManager) (name : Nat) : WebsocketSession :=
  manager.objects.getD name {}

def update (manager : SessionManager) (name : Nat)
    (change : WebsocketSession → WebsocketSession) : SessionManager :=
  { manager with objects := manager.objects.modify name change }

def recycleSession (manager : SessionManager) (sessionKey : Int) :
    SessionManager :=
  match manager.sessions.lookup sessionKey with
  | none => manager
  | some name =>
      let cleared := manager.update name .clear
      { cleared with
        sessions := manager.sessions.pop sessionKey
        idleSessions :=
          if manager.idleSessions.length < idleCapacity then
            manager.idleSessions.assign sessionKey name
          else manager.idleSessions }

/-- The idle session that `create_session` takes: the one that had the same
key, else the oldest one. -/
def idleFor (manager : SessionManager) (sessionKey : Int) :
    Option (Int × Nat) :=
  match manager.idleSessions.lookup sessionKey with
  | some name => some (sessionKey, name)
  | none => manager.idleSessions.head?

/-- `create_session`, with the position of the session that it returns. -/
def createSession (manager : SessionManager) (websocket : Nat)
    (sessionKey : Int) : Nat × SessionManager :=
  match manager.idleFor sessionKey with
  | some (formerKey, name) =>
      let bound := manager.update name (·.rebind websocket sessionKey)
      (name,
        { bound with
          sessions := manager.sessions.assign sessionKey name
          idleSessions := manager.idleSessions.pop formerKey })
  | none =>
      let name := manager.objects.length
      let session : WebsocketSession :=
        { websocket := some websocket, sessionKey := some sessionKey }
      (name,
        { manager with
          objects := manager.objects ++ [session]
          sessions := manager.sessions.assign sessionKey name })

def reuseSession (manager : SessionManager) (sessionKey : Int) :
    Option (Nat × SessionManager) :=
  match manager.idleSessions.lookup sessionKey with
  | none => none
  | some name =>
      some (name,
        { manager with
          sessions := manager.sessions.assign sessionKey name
          idleSessions := manager.idleSessions.pop sessionKey })

def retrieveSession (manager : SessionManager) (sessionKey : Int) :
    SessionManager :=
  match manager.sessions.lookup sessionKey with
  | none => manager
  | some name =>
      { manager with
        sessions := manager.sessions.pop sessionKey
        idleSessions := manager.idleSessions.assign sessionKey name }

end SessionManager

/-- How far an endpoint is: it has registered a session, it has taken back
the session of a connection that it kicked off and still talks to its
client, or its reader runs. -/
inductive Phase where
  | registered
  | reused
  | reading (websocket : Nat)

structure Endpoint where
  sessionKey : Int
  session : Nat
  phase : Phase

/-- A task of `write_messages`; a cancelled one still has to drain. -/
structure Writer where
  sessionKey : Int
  session : Nat
  websocket : Nat
  cancelled : Bool := false

/-- The messages that a reader has for its task `on_user_push_message`, and
the one for which the task is inside of `deliver_message`. -/
structure Deliverer where
  pending : List Int := []
  inflight : Option Int := none

/-- A task `on_user_push_message` that has outlived its reader. -/
structure Survivor where
  sessionKey : Int
  session : Nat
  pending : List Int

/-- A process of the gateway: its sessions, the number of websockets so far,
the endpoints and writers, the `put` tasks of push handlers that have not
ended, and the tasks that deliver messages, under the websockets of their
readers or without a reader. -/
structure Server where
  manager : SessionManager := {}
  websockets : Nat := 0
  endpoints : List Endpoint := []
  writers : List Writer := []
  puts : List (Nat × PubEventToUser) := []
  delivers : Table Nat Deliverer := []
  survivors : List Survivor := []

/-- A reader receives a message, and its task takes the next one; the call
returns an id, or `0`, or the task ends with an exception.  A task without a
reader goes on alike. -/
inductive ServerAction where
  | push (user : Int) (evtTp : EventType) (deliveryId : Int)
  | put (index : Nat)
  | receive (index : Nat) (deliveryId : Int)
  | deliver (index : Nat)
  | acknowledge (index : Nat)
  | unanswered (index : Nat)
  | deliverRaises (index : Nat)
  | survivorDelivers (index : Nat) (acknowledged : Bool)
  | survivorRaises (index : Nat)
  | createSession (sessionKey : Int)
  | reuseSession (sessionKey : Int)
  | rebind (index : Nat)
  | loginFails (index : Nat)
  | startTasks (index : Nat)
  | readerDone (index : Nat)
  | send (index : Nat)
  | writerDone (index : Nat)
  | setState (session : Nat) (state : SessionState)

inductive ServerEvent where
  | bound (websocket : Nat) (sessionKey : Int)
  | sent (websocket : Nat) (event : PubEventToUser)
  deriving DecidableEq

namespace Server

def deviceKinds : Nat := 5

/-- The session keys of a user. -/
def keysOf (user : Int) : List Int :=
  (List.range deviceKinds).map
    (fun (device : Nat) => deviceKinds * user + device)

def userOf (sessionKey : Int) : Int := sessionKey / deviceKinds

/-- The registered and active sessions of a user when a handler looks. -/
def targets (manager : SessionManager) (user : Int) : List Nat :=
  (keysOf user).filterMap (fun sessionKey =>
    (manager.sessions.lookup sessionKey).filter
      (fun name => (manager.object name).active))

/-- The handlers of friend events and user messages up to their `wait`. -/
def push (server : Server) (event : PubEventToUser) : Server :=
  { server with
    puts := server.puts ++
      (targets server.manager event.user).map (fun name => (name, event)) }

def enqueue (event : PubEventToUser) (session : WebsocketSession) :
    WebsocketSession :=
  { session with writeQueue := session.writeQueue ++ [event] }

def withManager (server : Server) (manager : SessionManager) : Server :=
  { server with manager := manager }

/-- A `put` task ends once there is room in the queue. -/
def put (server : Server) (index : Nat) : Option Server :=
  match server.puts[index]? with
  | none => none
  | some (name, event) =>
      if (server.manager.object name).writeQueue.length <
          WebsocketSession.queueMaxsize then
        some
          { server with
            manager := server.manager.update name (enqueue event)
            puts := server.puts.eraseIdx index }
      else none

/-- `on_user_push_message` acknowledges a message to its client. -/
def acknowledge (server : Server) (sessionKey : Int) (session : Nat)
    (deliveryId : Int) : Server :=
  let event : PubEventToUser :=
    { user := userOf sessionKey
      evtTp := .ackUserMessage
      deliveryId := deliveryId }
  server.withManager (server.manager.update session (enqueue event))

/-- `put_nowait` finds room in the queue; else it raises. -/
def hasRoom (server : Server) (session : Nat) : Bool :=
  (server.manager.object session).writeQueue.length <
    WebsocketSession.queueMaxsize

/-- The websocket of a reader and its task, if the task has not ended. -/
def deliverer (server : Server) (index : Nat) :
    Option (Endpoint × Nat × Deliverer) :=
  match server.endpoints[index]? with
  | some endpoint =>
      match endpoint.phase with
      | .reading websocket =>
          (server.delivers.lookup websocket).map
            (fun task => (endpoint, websocket, task))
      | _ => none
  | none => none

def setDeliverer (server : Server) (websocket : Nat) (task : Deliverer) :
    Server :=
  { server with delivers := server.delivers.assign websocket task }

def endDeliverer (server : Server) (websocket : Nat) : Server :=
  { server with delivers := server.delivers.pop websocket }

/-- A task that is cancelled inside of `deliver_message` does not end: the
wrapper of the call swallows the `CancelledError`, and the task goes on with
the messages that are pending. -/
def survivorOf (endpoint : Endpoint) : Option Deliverer → List Survivor
  | some { pending := deliveryId :: pending, inflight := some _ } =>
      [{ sessionKey := endpoint.sessionKey
         session := endpoint.session
         pending := deliveryId :: pending }]
  | _ => []

/-- The messages that are left; without one, the task waits forever. -/
def setSurvivor (server : Server) (index : Nat) (survivor : Survivor) :
    Server :=
  { server with
    survivors :=
      if survivor.pending = [] then server.survivors.eraseIdx index
      else server.survivors.set index survivor }

def endSurvivor (server : Server) (index : Nat) : Server :=
  { server with survivors := server.survivors.eraseIdx index }

/-- The writer starts with the websocket of its session, then the reader. -/
def startTasks (server : Server) (index : Nat) (endpoint : Endpoint)
    (websocket : Nat) : Server :=
  { server with
    endpoints := server.endpoints.set index
      { endpoint with phase := .reading websocket }
    writers := server.writers ++
      [{ sessionKey := endpoint.sessionKey
         session := endpoint.session
         websocket := websocket }]
    delivers := server.delivers.assign websocket {} }

/-- The `finally` of a reader cancels the task that delivers; by its
callbacks the writer is cancelled and the session is recycled. -/
def readerDone (server : Server) (index : Nat) (endpoint : Endpoint)
    (websocket : Nat) : Server :=
  { server with
    manager := server.manager.recycleSession endpoint.sessionKey
    endpoints := server.endpoints.eraseIdx index
    writers := server.writers.map (fun writer =>
      if writer.websocket = websocket then { writer with cancelled := true }
      else writer)
    delivers := server.delivers.pop websocket
    survivors := server.survivors ++
      survivorOf endpoint (server.delivers.lookup websocket) }

def setQueue (queue : List PubEventToUser) (session : WebsocketSession) :
    WebsocketSession :=
  { session with writeQueue := queue }

/-- The `finally` of `write_messages`, after a cancellation or an exception
of `send_bytes`. -/
def endWriter (server : Server) (index : Nat) (writer : Writer) :
    Server :=
  { server with
    manager := server.manager.update writer.session (setQueue [])
    writers := server.writers.eraseIdx index }

def step : Transition.Step Server ServerAction ServerEvent
  | server, .push user evtTp deliveryId =>
      some (server.push
        { user := user, evtTp := evtTp, deliveryId := deliveryId }, [])
  | server, .put index => (server.put index).map (fun next => (next, []))
  | server, .receive index deliveryId =>
      (server.deliverer index).map (fun (_, websocket, task) =>
        (server.setDeliverer websocket
          { task with pending := task.pending ++ [deliveryId] }, []))
  | server, .deliver index =>
      match server.deliverer index with
      | some (_, websocket,
          { pending := deliveryId :: pending, inflight := none }) =>
          some (server.setDeliverer websocket
            { pending := pending, inflight := some deliveryId }, [])
      | _ => none
  | server, .acknowledge index =>
      match server.deliverer index with
      | some (endpoint, websocket,
          { pending, inflight := some deliveryId }) =>
          if server.hasRoom endpoint.session then
            some ((server.acknowledge endpoint.sessionKey endpoint.session
              deliveryId).setDeliverer websocket { pending := pending }, [])
          else some (server.endDeliverer websocket, [])
      | _ => none
  | server, .unanswered index =>
      match server.deliverer index with
      | some (_, websocket, { pending, inflight := some _ }) =>
          some (server.setDeliverer websocket { pending := pending }, [])
      | _ => none
  | server, .deliverRaises index =>
      (server.deliverer index).map (fun (_, websocket, _) =>
        (server.endDeliverer websocket, []))
  | server, .survivorDelivers index acknowledged =>
      match server.survivors[index]? with
      | some { sessionKey, session, pending := deliveryId :: pending } =>
          let left : Survivor :=
            { sessionKey := sessionKey
              session := session
              pending := pending }
          if acknowledged then
            if server.hasRoom session then
              some ((server.acknowledge sessionKey session
                deliveryId).setSurvivor index left, [])
            else some (server.endSurvivor index, [])
          else some (server.setSurvivor index left, [])
      | _ => none
  | server, .survivorRaises index =>
      if index < server.survivors.length then
        some (server.endSurvivor index, [])
      else none
  | server, .createSession sessionKey =>
      match server.manager.sessions.lookup sessionKey with
      | some _ => none
      | none =>
          let created :=
            server.manager.createSession server.websockets sessionKey
          some ({ server with
            manager := created.2
            websockets := server.websockets + 1
            endpoints := server.endpoints ++
              [{ sessionKey := sessionKey
                 session := created.1
                 phase := .registered }] },
            [.bound server.websockets sessionKey])
  | server, .reuseSession sessionKey =>
      match server.manager.reuseSession sessionKey with
      | none => none
      | some (name, manager) =>
          some ({ server with
            manager := manager
            endpoints := server.endpoints ++
              [{ sessionKey := sessionKey
                 session := name
                 phase := .reused }] }, [])
  | server, .rebind index =>
      match server.endpoints[index]? with
      | some endpoint =>
          match endpoint.phase with
          | .reused =>
              some ({ server with
                manager := server.manager.update endpoint.session
                  (·.rebind server.websockets endpoint.sessionKey)
                websockets := server.websockets + 1
                endpoints := server.endpoints.set index
                  { endpoint with phase := .registered } },
                [.bound server.websockets endpoint.sessionKey])
          | _ => none
      | none => none
  | server, .loginFails index =>
      match server.endpoints[index]? with
      | some endpoint =>
          let left :=
            { server with endpoints := server.endpoints.eraseIdx index }
          match endpoint.phase with
          | .registered =>
              some (left.withManager
                (server.manager.recycleSession endpoint.sessionKey), [])
          | .reused =>
              some (left.withManager
                (server.manager.retrieveSession endpoint.sessionKey), [])
          | .reading _ => none
      | none => none
  | server, .startTasks index =>
      match server.endpoints[index]? with
      | some endpoint =>
          match endpoint.phase,
              (server.manager.object endpoint.session).websocket with
          | .registered, some websocket =>
              some (server.startTasks index endpoint websocket, [])
          | _, _ => none
      | none => none
  | server, .readerDone index =>
      match server.endpoints[index]? with
      | some endpoint =>
          match endpoint.phase with
          | .reading websocket =>
              some (server.readerDone index endpoint websocket, [])
          | _ => none
      | none => none
  | server, .send index =>
      match server.writers[index]? with
      | some writer =>
          match writer.cancelled,
              (server.manager.object writer.session).writeQueue with
          | false, event :: rest =>
              some (server.withManager
                (server.manager.update writer.session (setQueue rest)),
                [.sent writer.websocket event])
          | _, _ => none
      | none => none
  | server, .writerDone index =>
      match server.writers[index]? with
      | some writer => some (server.endWriter index writer, [])
      | none => none
  | server, .setState name state =>
      some (server.withManager (server.manager.update name
        (fun session => { session with state := state })), [])

end Server

end Gateway

end TinyChat
