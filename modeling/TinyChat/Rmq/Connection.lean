import TinyChat.Lib.BoundedDeque
import TinyChat.Lib.Transition
import Mathlib.Data.List.Count

/-!
# The channels of a connector

`RMQConnector.get_channel` takes its connections in turn.  It opens a channel
on a connection that has fewer than `max_channels` of them, and suspends
meanwhile; the channel is put into a deque of that length.
-/

namespace TinyChat

namespace Rmq

/-- The deque of a connection, `none` once it is closed, the channels that
`close` has taken out of it, and the channels that the connection has open. -/
structure RMQConnection where
  channels : Option (List Nat) := some []
  closing : List Nat := []
  openChannels : List Nat := []
  deriving DecidableEq

/-- There is no connection, it is closed, it has too many channels or none, or
it does not open one. -/
inductive ConnectorError where
  | noConnection
  | closed
  | tooManyChannels
  | interfaceError
  | openFailed
  deriving DecidableEq

/-- What a call of `get_channel` comes to before it suspends. -/
inductive Lookup where
  | opening
  | channel (channel : Nat)
  | raised (error : ConnectorError)
  deriving DecidableEq

/-- A channel of a connection is returned, or an exception is raised. -/
inductive ConnectorEvent where
  | handedOut (connection channel : Nat)
  | raised (error : ConnectorError)
  deriving DecidableEq

/-- A call of `get_channel`, with the number that `choice` picks; a connection
has opened a channel for a call that waits, or has failed; the connector is
closed. -/
inductive ConnectorAction where
  | getChannel (choice : Nat)
  | opened (connection : Nat)
  | openFailed (connection : Nat)
  | close

/-- The connections in the order of the cycle and the next one of it, the
connection of every call that waits, and the number of the next channel. -/
structure RMQConnector where
  connections : List RMQConnection
  cursor : Nat := 0
  pending : List Nat := []
  nextChannel : Nat := 0
  deriving DecidableEq

namespace RMQConnection

/-- `create_channel`, up to its `await`. -/
def createChannel (maxChannels : Nat) (channels : List Nat) : Lookup :=
  if channels.length < maxChannels then .opening
  else .raised .tooManyChannels

/-- `none` if there is no channel of that number. -/
def getChannel (channels : List Nat) (choice : Nat) : Option Lookup :=
  match channels with
  | [] => some (.raised .interfaceError)
  | first :: others => (first :: others)[choice]?.map .channel

/-- The connection has opened a channel, which `create_channel` appends. -/
def append (maxChannels : Nat) (connection : RMQConnection)
    (channel : Nat) : RMQConnection :=
  { connection with
    channels := connection.channels.map (fun channels =>
      BoundedDeque.append (some maxChannels) channels channel)
    openChannels := connection.openChannels ++ [channel] }

def close (connection : RMQConnection) : RMQConnection :=
  match connection.channels with
  | none => connection
  | some channels =>
      { connection with channels := none, closing := channels }

/-- The channels that `close` closes, or has closed. -/
def closes (connection : RMQConnection) : List Nat :=
  connection.channels.getD connection.closing

variable {maxChannels channel added : Nat} {connection : RMQConnection}

@[simp] theorem closes_close : connection.close.closes = connection.closes := by
  unfold close
  split
  · rfl
  · rename_i channels live
    rw [closes, closes, live]
    rfl

@[simp] theorem openChannels_close :
    connection.close.openChannels = connection.openChannels := by
  unfold close
  split
  · rfl
  · rfl

theorem channels_close : connection.close.channels = none := by
  unfold close
  split
  · assumption
  · rfl

/-- What was closed before is closed after an append that drops nothing. -/
theorem mem_closes_append
    (kept : ∀ channels, connection.channels = some channels →
      BoundedDeque.append (some maxChannels) channels added =
        channels ++ [added])
    (closed : channel ∈ connection.closes) :
    channel ∈ (connection.append maxChannels added).closes := by
  unfold closes append at *
  cases live : connection.channels with
  | none =>
      rw [live] at closed
      exact closed
  | some channels =>
      rw [live] at closed
      dsimp only [Option.map_some, Option.getD_some]
      rw [kept channels live]
      exact List.mem_append_left [added] closed

end RMQConnection

namespace RMQConnector

/-- The connector after `initialize`. -/
def initialized (maxConnections : Nat) : RMQConnector where
  connections := List.replicate maxConnections {}

/-- `get_channel`, up to its `await`. -/
def getChannel (maxChannels : Nat) (connector : RMQConnector)
    (choice : Nat) : Option Lookup :=
  match connector.connections[connector.cursor]? with
  | none => some (.raised .noConnection)
  | some connection =>
      match connection.channels with
      | none => some (.raised .closed)
      | some channels =>
          if channels.length < maxChannels then
            some (RMQConnection.createChannel maxChannels channels)
          else RMQConnection.getChannel channels choice

/-- `next(self._conn_cycle)`. -/
def turn (connector : RMQConnector) : RMQConnector :=
  { connector with
    cursor := (connector.cursor + 1) % connector.connections.length }

/-- The rest of `create_channel`; appending to the deque of a connection that
is closed raises. -/
def opened (maxChannels : Nat) (connector : RMQConnector) (number : Nat)
    (connection : RMQConnection) : RMQConnector × List ConnectorEvent :=
  ({ connector with
      connections := connector.connections.set number
        (connection.append maxChannels connector.nextChannel)
      pending := connector.pending.erase number
      nextChannel := connector.nextChannel + 1 },
    if connection.channels.isSome then
      [.handedOut number connector.nextChannel]
    else [.raised .closed])

def step (maxChannels : Nat) :
    Transition.Step RMQConnector ConnectorAction ConnectorEvent
  | connector, .getChannel choice =>
      match connector.getChannel maxChannels choice with
      | none => none
      | some .opening =>
          some ({ connector.turn with
            pending := connector.pending ++ [connector.cursor] }, [])
      | some (.channel channel) =>
          some (connector.turn, [.handedOut connector.cursor channel])
      | some (.raised error) => some (connector.turn, [.raised error])
  | connector, .opened number =>
      if number ∈ connector.pending then
        connector.connections[number]?.map
          (connector.opened maxChannels number)
      else none
  | connector, .openFailed number =>
      if number ∈ connector.pending then
        some ({ connector with
          pending := connector.pending.erase number }, [.raised .openFailed])
      else none
  | connector, .close =>
      some ({ connector with
        connections := connector.connections.map RMQConnection.close }, [])

/-- No connection has more than `max_channels` open channels, and what was
handed out of it is closed with it. -/
structure WithinLimit (maxChannels : Nat) (trace : List ConnectorEvent)
    (connector : RMQConnector) : Prop where
  limit : ∀ connection ∈ connector.connections,
    connection.openChannels.length ≤ maxChannels
  closes : ∀ number channel, .handedOut number channel ∈ trace →
    ∃ connection, connector.connections[number]? = some connection ∧
      channel ∈ connection.closes

/-- A call that finds fewer than `max_channels` channels finds fewer of them
together with those that other calls are opening. -/
def Reserved (maxChannels : Nat) (connector : RMQConnector) :
    ConnectorAction → Prop
  | .getChannel _ =>
      ∀ connection ∈ connector.connections[connector.cursor]?,
        ∀ channels ∈ connection.channels, channels.length < maxChannels →
          connection.openChannels.length +
            connector.pending.count connector.cursor < maxChannels
  | _ => True

instance (maxChannels : Nat) (connector : RMQConnector) :
    (action : ConnectorAction) →
      Decidable (Reserved maxChannels connector action)
  | .getChannel _ =>
      inferInstanceAs (Decidable
        (∀ connection ∈ connector.connections[connector.cursor]?,
          ∀ channels ∈ connection.channels, channels.length < maxChannels →
            connection.openChannels.length +
              connector.pending.count connector.cursor < maxChannels))
  | .opened _ => .isTrue trivial
  | .openFailed _ => .isTrue trivial
  | .close => .isTrue trivial

variable {maxChannels number choice channel : Nat}
  {connector next : RMQConnector} {connection : RMQConnection}
  {channels : List Nat} {trace events : List ConnectorEvent}
  {action : ConnectorAction}

/-! ## What a call finds -/

theorem getChannel_of_fewer
    (found : connector.connections[connector.cursor]? = some connection)
    (live : connection.channels = some channels)
    (fewer : channels.length < maxChannels) :
    connector.getChannel maxChannels choice = some .opening := by
  rw [getChannel, found]
  dsimp only
  rw [live]
  dsimp only
  rw [if_pos fewer, RMQConnection.createChannel, if_pos fewer]

theorem fewer_of_getChannel
    (result : connector.getChannel maxChannels choice = some .opening) :
    ∃ connection channels,
      connector.connections[connector.cursor]? = some connection ∧
      connection.channels = some channels ∧
      channels.length < maxChannels := by
  unfold getChannel at result
  split at result
  · cases result
  · rename_i connection found
    split at result
    · cases result
    · rename_i channels live
      split at result
      · rename_i fewer
        exact ⟨connection, channels, found, live, fewer⟩
      · unfold RMQConnection.getChannel at result
        split at result
        · cases result
        · obtain ⟨_, _, absent⟩ := Option.map_eq_some_iff.mp result
          cases absent

theorem mem_of_getChannel
    (result : connector.getChannel maxChannels choice =
      some (.channel channel)) :
    ∃ connection channels,
      connector.connections[connector.cursor]? = some connection ∧
      connection.channels = some channels ∧ channel ∈ channels := by
  unfold getChannel at result
  split at result
  · cases result
  · rename_i connection found
    split at result
    · cases result
    · rename_i channels live
      split at result
      · rename_i fewer
        rw [RMQConnection.createChannel, if_pos fewer] at result
        cases result
      · unfold RMQConnection.getChannel at result
        split at result
        · cases result
        · obtain ⟨listed, picked, same⟩ := Option.map_eq_some_iff.mp result
          cases same
          exact ⟨connection, _, found, live, List.mem_of_getElem? picked⟩

/-- What `get_channel` does before it suspends: it begins to open a channel,
returns one of the deque, or raises. -/
theorem step_getChannel
    (stepped : step maxChannels connector (.getChannel choice) =
      some (next, events)) :
    next.connections = connector.connections ∧
    ((connector.getChannel maxChannels choice = some .opening ∧
        next.pending = connector.pending ++ [connector.cursor] ∧
        events = []) ∨
      (next.pending = connector.pending ∧ ∃ channel,
        connector.getChannel maxChannels choice = some (.channel channel) ∧
        events = [.handedOut connector.cursor channel]) ∨
      (next.pending = connector.pending ∧ ∃ error,
        events = [.raised error])) := by
  rw [step] at stepped
  split at stepped
  · cases stepped
  · rename_i result
    cases stepped
    exact ⟨rfl, .inl ⟨result, rfl, rfl⟩⟩
  · rename_i channel result
    cases stepped
    exact ⟨rfl, .inr (.inl ⟨rfl, channel, result, rfl⟩)⟩
  · rename_i error result
    cases stepped
    exact ⟨rfl, .inr (.inr ⟨rfl, error, rfl⟩)⟩

/-! ## The invariant -/

/-- The channels that are open or being opened are within the limit, so that
the deque has all that are open. -/
structure Kept (maxChannels : Nat) (trace : List ConnectorEvent)
    (connector : RMQConnector) : Prop where
  reserved : ∀ (number : Nat) (connection : RMQConnection),
    connector.connections[number]? = some connection →
      connection.openChannels.length + connector.pending.count number ≤
        maxChannels
  registered : ∀ (number : Nat) (connection : RMQConnection) channels,
    connector.connections[number]? = some connection →
      connection.channels = some channels →
        channels = connection.openChannels
  closes : ∀ number channel, .handedOut number channel ∈ trace →
    ∃ connection, connector.connections[number]? = some connection ∧
      channel ∈ connection.closes

theorem Kept.withinLimit (kept : Kept maxChannels trace connector) :
    WithinLimit maxChannels trace connector := by
  refine ⟨?_, kept.closes⟩
  intro connection member
  obtain ⟨number, found⟩ := List.getElem?_of_mem member
  exact Nat.le_trans (Nat.le_add_right _ _)
    (kept.reserved number connection found)

/-- A step that leaves the connections alone and begins to open nothing. -/
theorem Kept.frame (kept : Kept maxChannels trace connector)
    (connections : next.connections = connector.connections)
    (pending : ∀ number,
      next.pending.count number ≤ connector.pending.count number)
    (handedOut : ∀ number channel, .handedOut number channel ∈ events →
      ∃ connection, connector.connections[number]? = some connection ∧
        channel ∈ connection.closes) :
    Kept maxChannels (trace ++ events) next := by
  refine ⟨?_, ?_, ?_⟩
  · intro number connection found
    rw [connections] at found
    have before := kept.reserved number connection found
    have fewer := pending number
    omega
  · intro number connection channels found live
    rw [connections] at found
    exact kept.registered number connection channels found live
  · intro number channel member
    rw [connections]
    rcases List.mem_append.mp member with before | now
    · exact kept.closes number channel before
    · exact handedOut number channel now

theorem Kept.opening (kept : Kept maxChannels trace connector)
    (reserved : Reserved maxChannels connector (.getChannel choice))
    (result : connector.getChannel maxChannels choice = some .opening)
    (connections : next.connections = connector.connections)
    (pending : next.pending = connector.pending ++ [connector.cursor]) :
    Kept maxChannels trace next := by
  obtain ⟨chosen, channels, foundChosen, live, fewer⟩ :=
    fewer_of_getChannel result
  have room := reserved chosen foundChosen channels live fewer
  refine ⟨?_, ?_, ?_⟩
  · intro number connection found
    rw [connections] at found
    rw [pending, List.count_append]
    by_cases same : connector.cursor = number
    · rw [← same, foundChosen] at found
      cases found
      rw [← same, List.count_singleton_self]
      omega
    · rw [List.count_singleton, if_neg (by simpa using same)]
      exact kept.reserved number connection found
  · rw [connections]
    exact kept.registered
  · rw [connections]
    exact kept.closes

theorem Kept.opened (kept : Kept maxChannels trace connector)
    (waiting : number ∈ connector.pending)
    (found : connector.connections[number]? = some connection) :
    Kept maxChannels
      (trace ++ (connector.opened maxChannels number connection).2)
      (connector.opened maxChannels number connection).1 := by
  have within := kept.reserved number connection found
  have waits := List.count_pos_iff.mpr waiting
  have inside : number < connector.connections.length :=
    (List.getElem?_eq_some_iff.mp found).1
  have deque : ∀ channels, connection.channels = some channels →
      BoundedDeque.append (some maxChannels) channels
        connector.nextChannel = channels ++ [connector.nextChannel] := by
    intro channels live
    apply BoundedDeque.append_of_room
    rintro size ⟨⟩
    rw [kept.registered number connection channels found live]
    omega
  have foundNow : (connector.connections.set number
      (connection.append maxChannels connector.nextChannel))[number]? =
        some (connection.append maxChannels connector.nextChannel) :=
    List.getElem?_set_self inside
  refine ⟨?_, ?_, ?_⟩
  · intro other later foundLater
    dsimp only [RMQConnector.opened] at foundLater ⊢
    by_cases same : number = other
    · subst same
      rw [foundNow] at foundLater
      cases foundLater
      rw [List.count_erase_self]
      simp only [RMQConnection.append, List.length_append,
        List.length_singleton]
      omega
    · rw [List.getElem?_set_ne same] at foundLater
      rw [List.count_erase_of_ne (Ne.symm same)]
      exact kept.reserved other later foundLater
  · intro other later channels foundLater live
    dsimp only [RMQConnector.opened] at foundLater
    by_cases same : number = other
    · subst same
      rw [foundNow] at foundLater
      cases foundLater
      obtain ⟨before, liveBefore, same⟩ := Option.map_eq_some_iff.mp live
      rw [deque before liveBefore] at same
      rw [← same, kept.registered number connection before found liveBefore]
      rfl
    · rw [List.getElem?_set_ne same] at foundLater
      exact kept.registered other later channels foundLater live
  · intro other channel member
    dsimp only [RMQConnector.opened] at member ⊢
    rcases List.mem_append.mp member with before | now
    · obtain ⟨earlier, foundEarlier, closed⟩ :=
        kept.closes other channel before
      by_cases same : number = other
      · subst same
        rw [found] at foundEarlier
        cases foundEarlier
        exact ⟨_, foundNow, RMQConnection.mem_closes_append deque closed⟩
      · refine ⟨earlier, ?_, closed⟩
        rw [List.getElem?_set_ne same]
        exact foundEarlier
    · split at now
      · rename_i live
        obtain ⟨channels, live⟩ := Option.isSome_iff_exists.mp live
        obtain ⟨rfl, rfl⟩ :=
          ConnectorEvent.handedOut.inj (List.mem_singleton.mp now)
        refine ⟨_, foundNow, ?_⟩
        rw [RMQConnection.closes, RMQConnection.append, live]
        dsimp only [Option.map_some, Option.getD_some]
        rw [deque channels live]
        exact List.mem_append_right channels List.mem_cons_self
      · cases List.mem_singleton.mp now

theorem Kept.openFailed (kept : Kept maxChannels trace connector) :
    Kept maxChannels (trace ++ [.raised .openFailed])
      { connector with pending := connector.pending.erase number } := by
  apply kept.frame
  · rfl
  · intro other
    exact List.erase_sublist.count_le other
  · intro other channel member
    cases List.mem_singleton.mp member

theorem Kept.close (kept : Kept maxChannels trace connector) :
    Kept maxChannels trace
      { connector with
        connections := connector.connections.map RMQConnection.close } := by
  refine ⟨?_, ?_, ?_⟩
  · intro number connection found
    rw [List.getElem?_map] at found
    obtain ⟨before, foundBefore, rfl⟩ := Option.map_eq_some_iff.mp found
    rw [RMQConnection.openChannels_close]
    exact kept.reserved number before foundBefore
  · intro number connection channels found live
    rw [List.getElem?_map] at found
    obtain ⟨before, foundBefore, rfl⟩ := Option.map_eq_some_iff.mp found
    rw [RMQConnection.channels_close] at live
    cases live
  · intro number channel member
    obtain ⟨before, foundBefore, closed⟩ :=
      kept.closes number channel member
    refine ⟨before.close, ?_, ?_⟩
    · rw [List.getElem?_map, foundBefore]
      rfl
    · rw [RMQConnection.closes_close]
      exact closed

theorem Kept.getChannel (kept : Kept maxChannels trace connector)
    (reserved : Reserved maxChannels connector (.getChannel choice))
    (stepped : step maxChannels connector (.getChannel choice) =
      some (next, events)) :
    Kept maxChannels (trace ++ events) next := by
  obtain ⟨connections,
    ⟨result, pending, rfl⟩ | ⟨pending, channel, result, rfl⟩ |
    ⟨pending, error, rfl⟩⟩ := step_getChannel stepped
  · rw [List.append_nil]
    exact kept.opening reserved result connections pending
  · apply kept.frame connections
    · intro number
      exact Nat.le_of_eq (congrArg (List.count number) pending)
    · intro number handed member
      obtain ⟨rfl, rfl⟩ :=
        ConnectorEvent.handedOut.inj (List.mem_singleton.mp member)
      obtain ⟨connection, channels, found, live, listed⟩ :=
        mem_of_getChannel result
      refine ⟨connection, found, ?_⟩
      rw [RMQConnection.closes, live]
      exact listed
  · apply kept.frame connections
    · intro number
      exact Nat.le_of_eq (congrArg (List.count number) pending)
    · intro number handed member
      cases List.mem_singleton.mp member

theorem Kept.step (kept : Kept maxChannels trace connector)
    (reserved : Reserved maxChannels connector action)
    (stepped : step maxChannels connector action = some (next, events)) :
    Kept maxChannels (trace ++ events) next := by
  cases action with
  | getChannel choice => exact kept.getChannel reserved stepped
  | opened number =>
      rw [RMQConnector.step] at stepped
      split at stepped
      · rename_i waiting
        obtain ⟨connection, found, same⟩ :=
          Option.map_eq_some_iff.mp stepped
        have after := kept.opened waiting found
        rw [same] at after
        exact after
      · cases stepped
  | openFailed number =>
      rw [RMQConnector.step] at stepped
      split at stepped
      · cases stepped
        exact kept.openFailed
      · cases stepped
  | close =>
      cases stepped
      rw [List.append_nil]
      exact kept.close

theorem initialized_kept (maxChannels maxConnections : Nat) :
    Kept maxChannels [] (initialized maxConnections) := by
  have bare : ∀ (number : Nat) (connection : RMQConnection),
      (initialized maxConnections).connections[number]? =
        some connection → connection = {} := by
    intro number connection found
    exact List.eq_of_mem_replicate (List.mem_of_getElem? found)
  refine ⟨?_, ?_, ?_⟩
  · intro number connection found
    rw [bare number connection found]
    exact Nat.zero_le maxChannels
  · intro number connection channels found live
    rw [bare number connection found] at live ⊢
    cases live
    rfl
  · intro number channel member
    cases member

/-! ## Runs -/

variable {maxConnections : Nat}

theorem run_kept
    (run : Transition.Run (RMQConnector.step maxChannels)
      (Reserved maxChannels) (initialized maxConnections) trace connector) :
    Kept maxChannels trace connector := by
  apply run.invariant
  · exact initialized_kept maxChannels maxConnections
  · intro trace events connector next action kept reserved stepped
    exact kept.step reserved stepped

/-- While no call begins to open a channel beyond those that are being opened,
the connections stay within the limit, and all that is handed out is closed
with them. -/
theorem run_withinLimit
    (run : Transition.Run (RMQConnector.step maxChannels)
      (Reserved maxChannels) (initialized maxConnections) trace connector) :
    WithinLimit maxChannels trace connector :=
  (run_kept run).withinLimit

/-- Two connections with two channels each; the third call shares a channel
with the first one. -/
theorem run_withinLimit_two :
    ∃ trace connector,
      Transition.Run (RMQConnector.step 1) (Reserved 1) (initialized 2)
        trace connector ∧
      connector.connections.map RMQConnection.openChannels = [[0], [1]] ∧
      WithinLimit 1 trace connector := by
  have ran : ∃ trace connector,
      Transition.Run (RMQConnector.step 1) (Reserved 1) (initialized 2)
        trace connector ∧
      connector.connections.map RMQConnection.openChannels =
        [[0], [1]] := by
    apply Transition.Run.exists_state_of_exec
      [.getChannel 0, .getChannel 0, .opened 0, .opened 1, .getChannel 0]
    decide
  obtain ⟨trace, connector, run, channels⟩ := ran
  exact ⟨trace, connector, run, channels, run_withinLimit run⟩

/-- With more channels open or being opened than the limit allows, the calls
that wait may all succeed. -/
theorem exists_overflow {start : RMQConnector}
    (run : Transition.AnyRun (RMQConnector.step maxChannels) start trace
      connector)
    (found : connector.connections[number]? = some connection)
    (crowded : maxChannels < connection.openChannels.length +
      connector.pending.count number) :
    ∃ trace later,
      Transition.AnyRun (RMQConnector.step maxChannels) start trace later ∧
      ∃ connection ∈ later.connections,
        maxChannels < connection.openChannels.length := by
  generalize amount : connector.pending.count number = waiting at crowded
  induction waiting generalizing trace connector connection with
  | zero =>
      exact ⟨trace, connector, run, connection, List.mem_of_getElem? found,
        crowded⟩
  | succ waiting induction =>
      have member : number ∈ connector.pending := by
        rw [← List.count_pos_iff, amount]
        exact Nat.succ_pos waiting
      have stepped : RMQConnector.step maxChannels connector
          (.opened number) =
            some (connector.opened maxChannels number connection) := by
        rw [RMQConnector.step, if_pos member, found]
        rfl
      have inside := (List.getElem?_eq_some_iff.mp found).1
      apply induction (run.act _ trivial stepped)
      · exact List.getElem?_set_self inside
      · dsimp only [RMQConnector.opened]
        rw [List.count_erase_self, amount]
        rfl
      · simp only [RMQConnection.append, List.length_append,
          List.length_singleton]
        omega

/-- A call that begins to open a channel beyond those that are being opened
leads to too many open channels. -/
theorem exists_overflow_of_not_reserved
    (run : Transition.Run (RMQConnector.step maxChannels)
      (Reserved maxChannels) (initialized maxConnections) trace connector)
    (crowded : ¬ Reserved maxChannels connector action) :
    ∃ trace later,
      Transition.AnyRun (RMQConnector.step maxChannels)
        (initialized maxConnections) trace later ∧
      ¬ WithinLimit maxChannels trace later := by
  cases action with
  | getChannel choice =>
      simp only [Reserved, Option.mem_def, not_forall] at crowded
      obtain ⟨connection, found, channels, live, fewer, noRoom⟩ := crowded
      have stepped : RMQConnector.step maxChannels connector
          (.getChannel choice) = some ({ connector.turn with
            pending := connector.pending ++ [connector.cursor] }, []) := by
        rw [RMQConnector.step, getChannel_of_fewer found live fewer]
      have many : maxChannels < connection.openChannels.length +
          (connector.pending ++ [connector.cursor]).count
            connector.cursor := by
        rw [List.count_append, List.count_singleton_self]
        omega
      obtain ⟨trace, later, overRun, overfull, member, exceeds⟩ :=
        exists_overflow (run.any.act _ trivial stepped) found many
      refine ⟨trace, later, overRun, ?_⟩
      intro within
      have limit := within.limit overfull member
      omega
  | opened number => exact absurd trivial crowded
  | openFailed number => exact absurd trivial crowded
  | close => exact absurd trivial crowded

/-- Two calls at once open two channels where one is allowed, and the first one
of them is dropped. -/
theorem concurrent_calls_overflow :
    ¬ ∀ (maxConnections maxChannels : Nat) (trace : List ConnectorEvent)
      (connector : RMQConnector),
      Transition.AnyRun (RMQConnector.step maxChannels)
        (initialized maxConnections) trace connector →
        WithinLimit maxChannels trace connector := by
  intro always
  have ran : ∃ trace connector,
      Transition.AnyRun (RMQConnector.step 1) (initialized 1) trace
        connector ∧
      connector.connections =
        [{ channels := some [1], openChannels := [0, 1] }] := by
    apply Transition.Run.exists_state_of_exec
      [.getChannel 0, .getChannel 0, .opened 0, .opened 0]
    decide
  obtain ⟨trace, connector, run, connections⟩ := ran
  have limit := (always 1 1 trace connector run).limit
    { channels := some [1], openChannels := [0, 1] }
    (by rw [connections]; exact List.mem_cons_self)
  exact absurd limit (by decide)

end RMQConnector

end Rmq

end TinyChat
