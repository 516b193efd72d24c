import TinyChat.Lib.Table
import TinyChat.Lib.Transition

/-!
# The repository of the stub groups of a service

Every address of a service has a stub group.  The groups are kept in a
dictionary, in a round robin and in a hash ring; discovery adds and removes
addresses, and the monitor removes the groups that are down.  The monitor
waits for the reconnections of lost stubs between its two looks at the groups,
and everything else may happen in between.
-/

namespace TinyChat

namespace Rpc

inductive ChannelState where
  | idle
  | alive
  | subjectRebuild
  | subjectDown
  | etcdReportUp
  | etcdReportDown
  deriving DecidableEq

/-- The bits of a group. -/
abbrev State := BitVec 6

namespace ChannelState

def number : ChannelState → State
  | .idle => 1
  | .alive => 2
  | .subjectRebuild => 4
  | .subjectDown => 8
  | .etcdReportUp => 16
  | .etcdReportDown => 32

end ChannelState

namespace State

open ChannelState

/-- `state & flag`. -/
def has (state : State) (flag : ChannelState) : Bool :=
  state &&& flag.number != 0#6

def isDown (state : State) : Bool :=
  state &&& (subjectDown.number ||| etcdReportDown.number) != 0#6

/-- An online event for a group that is there. -/
def online (state : State) : State :=
  (state ||| etcdReportUp.number) &&& ~~~etcdReportDown.number

/-- An offline event for a group that is still healthy. -/
def offline (state : State) : State :=
  (state &&& ~~~etcdReportUp.number) |||
    (etcdReportDown.number ||| subjectRebuild.number)

def rebuild (state : State) : State := state ||| subjectRebuild.number

/-- `state &= ~SUBJECT_DOWN`. -/
def notDown (state : State) : State := state &&& ~~~subjectDown.number

end State

/-- What the channel of a stub looks like when it is asked. -/
inductive StubStatus where
  | ready
  | lost
  | hibernating
  deriving DecidableEq

def checkIfAnyHealthy (stubs : List StubStatus) : Bool :=
  stubs.contains .ready

/-- The stubs that `rebuild_if_needs` makes a task for. -/
def rebuildIfNeeds (stubs : List StubStatus) : List StubStatus :=
  stubs.filter (fun stub => stub = .lost)

/-- What a look of the monitor does to a group. -/
structure Look where
  state : State
  pending : Bool := false
  needsPop : Bool := false
  deriving DecidableEq

/-- The first loop of a pass. -/
def scanGroup (stubs : List StubStatus) (state : State) : Look :=
  if state.has .subjectRebuild then
    let tasks := rebuildIfNeeds stubs
    if tasks ≠ [] then
      { state :=
          if tasks.length < stubs.length then state.notDown else state
        pending := true }
    else
      { state := state &&&
          ~~~(ChannelState.subjectRebuild.number |||
            ChannelState.subjectDown.number) }
  else if !checkIfAnyHealthy stubs then
    if state.isDown then { state, needsPop := true }
    else { state := state &&& ChannelState.subjectRebuild.number }
  else { state := state.notDown }

/-- The second loop of a pass. -/
def recheckGroup (stubs : List StubStatus) (state : State) : Look :=
  let cleared := state &&& ~~~ChannelState.subjectRebuild.number
  if !checkIfAnyHealthy stubs then
    let down := cleared ||| ChannelState.subjectDown.number
    { state := down, needsPop := down.has .etcdReportDown }
  else { state := cleared.notDown }

abbrev ServiceAddr := String

structure StubGroup where
  addr : ServiceAddr
  state : State := ChannelState.idle.number
  deriving DecidableEq

/-- The consistent hashing ring is a library of its own. -/
structure HashRing (ρ : Type) where
  new : ρ
  addNode : ρ → ServiceAddr → ρ
  removeNode : ρ → ServiceAddr → ρ
  nodes : ρ → List ServiceAddr

/-- What is relied on: a node that is not there can be added, and one that is
there can be removed. -/
structure HashRing.Lawful {ρ : Type} (hashRing : HashRing ρ) : Prop where
  new : hashRing.nodes hashRing.new = []
  addNode : ∀ ring addr, addr ∉ hashRing.nodes ring →
    (hashRing.nodes (hashRing.addNode ring addr)).Perm
      (addr :: hashRing.nodes ring)
  removeNode : ∀ ring addr, addr ∈ hashRing.nodes ring →
    (hashRing.nodes (hashRing.removeNode ring addr)).Perm
      ((hashRing.nodes ring).erase addr)

/-- A ring that is only its list of nodes. -/
def nodeList : HashRing (List ServiceAddr) where
  new := []
  addNode := fun nodes addr => addr :: nodes
  removeNode := List.erase
  nodes := id

/-- The awaits of the monitor: the waiter of the next check, the
reconnections with the addresses that were listed so far, and the pause after
an exception. -/
inductive MonitorPhase where
  | absent
  | waiting
  | gathering (needsPop : List ServiceAddr)
  | sleeping
  deriving DecidableEq

/-- The groups are numbered in the order of their creation. -/
structure Repository (ρ : Type) where
  groups : Nat → StubGroup := fun _ => { addr := "" }
  created : Nat := 0
  services : Table ServiceAddr Nat := []
  roundRobin : List Nat := []
  ring : ρ
  waiterDone : Bool := false
  monitor : MonitorPhase := .absent

inductive Event where
  | online (addr : ServiceAddr)
  | offline (addr : ServiceAddr)
  | popped (addr : ServiceAddr)
  | keyError
  deriving DecidableEq

namespace Repository

variable {ρ : Type}

def state (repository : Repository ρ) (group : Nat) : State :=
  (repository.groups group).state

/-- Change the state of some groups. -/
def visit (repository : Repository ρ) (visited : List Nat)
    (change : Nat → State → State) : Repository ρ :=
  { repository with
    groups := fun group =>
      if group ∈ visited then
        { repository.groups group with
          state := change group (repository.state group) }
      else repository.groups group }

def setState (repository : Repository ρ) (group : Nat) (state : State) :
    Repository ρ :=
  repository.visit [group] (fun _ _ => state)

/-- `force_check_waiter.set_result(None)` unless it is done. -/
def wake (repository : Repository ρ) : Repository ρ :=
  { repository with waiterDone := true }

def startMonitor (repository : Repository ρ) : Repository ρ :=
  if repository.monitor = .absent then
    { repository with monitor := .waiting, waiterDone := false }
  else repository

/-- The three structures get a new group. -/
def insert (hashRing : HashRing ρ) (addr : ServiceAddr) (state : State)
    (repository : Repository ρ) : Repository ρ :=
  { repository with
    groups := Function.update repository.groups repository.created
      { addr, state }
    created := repository.created + 1
    services := repository.services.assign addr repository.created
    roundRobin := repository.roundRobin ++ [repository.created]
    ring := hashRing.addNode repository.ring addr }

/-- `RoundRobin.remove` and `HashRing.remove_node`. -/
def unlink (hashRing : HashRing ρ) (addr : ServiceAddr) (group : Nat)
    (repository : Repository ρ) : Repository ρ :=
  { repository with
    roundRobin := repository.roundRobin.erase group
    ring := hashRing.removeNode repository.ring addr }

/-- `services.pop(addr)`. -/
def popService (addr : ServiceAddr) (repository : Repository ρ) :
    Repository ρ :=
  { repository with services := repository.services.pop addr }

def add (hashRing : HashRing ρ) (addr : ServiceAddr)
    (stubs : List StubStatus) (repository : Repository ρ) :
    Repository ρ :=
  match repository.services.lookup addr with
  | some group =>
      repository.setState group (repository.state group).online
  | none =>
      let started := repository.startMonitor
      let state :=
        ChannelState.idle.number ||| ChannelState.etcdReportUp.number
      if checkIfAnyHealthy stubs then started.insert hashRing addr state
      else started.wake.insert hashRing addr state.rebuild

def remove (hashRing : HashRing ρ) (addr : ServiceAddr)
    (stubs : List StubStatus) (repository : Repository ρ) :
    Repository ρ :=
  match repository.services.lookup addr with
  | none => repository
  | some group =>
      let state := repository.state group
      if state.has .subjectDown ∨ !checkIfAnyHealthy stubs then
        (repository.popService addr).unlink hashRing addr group
      else (repository.setState group state.offline).wake

def notifyConnectionAlive (group : Nat) (repository : Repository ρ) :
    Repository ρ :=
  repository.setState group (repository.state group).notDown

def notifyConnectionLost (group : Nat) (repository : Repository ρ) :
    Repository ρ :=
  let state := repository.state group
  if state.has .subjectRebuild then repository
  else (repository.setState group state.rebuild).wake

/-- The last loop of a pass over the addresses in `needs_pop`. -/
def popAll (hashRing : HashRing ρ) :
    List ServiceAddr → Repository ρ → Repository ρ × List Event
  | [], repository => (repository, [])
  | addr :: needsPop, repository =>
      match repository.services.lookup addr with
      | none => (repository, [.keyError])
      | some group =>
          let popped := repository.popService addr
          let result := popAll hashRing needsPop
            (if (repository.state group).isDown then
              popped.unlink hashRing addr group
            else popped)
          (result.1, .popped addr :: result.2)

/-- The end of a pass: a new waiter, or the pause after an exception. -/
def endPass (result : Repository ρ × List Event) :
    Repository ρ × List Event :=
  if .keyError ∈ result.2 then
    ({ result.1 with monitor := .sleeping }, result.2)
  else ({ result.1 with monitor := .waiting, waiterDone := false }, result.2)

def serviceGroups (repository : Repository ρ) : List Nat :=
  repository.services.map Prod.snd

/-- The addresses whose group a look has listed. -/
def listed (repository : Repository ρ) (look : Nat → State → Look) :
    List ServiceAddr :=
  (repository.services.filter (fun entry =>
    (look entry.2 (repository.state entry.2)).needsPop)).map Prod.fst

/-- Whether a look has found lost stubs. -/
def anyPending (repository : Repository ρ) (look : Nat → State → Look) :
    Bool :=
  repository.serviceGroups.any (fun group =>
    (look group (repository.state group)).pending)

/-- The monitor after the first loop of a pass. -/
def scan (hashRing : HashRing ρ) (stubs : Nat → List StubStatus)
    (repository : Repository ρ) : Repository ρ × List Event :=
  let look := fun group => scanGroup (stubs group)
  let needsPop := repository.listed look
  let scanned := repository.visit repository.serviceGroups
    (fun group state => (look group state).state)
  if repository.anyPending look then
    ({ scanned with monitor := .gathering needsPop }, [])
  else endPass (popAll hashRing needsPop scanned)

/-- The monitor after the reconnections.  The renewal of the linked stubs of
a group may raise. -/
def recheck (hashRing : HashRing ρ) (stubs : Nat → List StubStatus)
    (failure : Option Nat) (needsPop : List ServiceAddr)
    (repository : Repository ρ) : Repository ρ × List Event :=
  let look := fun group => recheckGroup (stubs group)
  let change := fun group state => (look group state).state
  match failure with
  | some place =>
      ({ repository.visit (repository.serviceGroups.take (place + 1))
          change with monitor := .sleeping }, [])
  | none =>
      endPass (popAll hashRing (needsPop ++ repository.listed look)
        (repository.visit repository.serviceGroups change))

end Repository

/-- The calls of a repository with what the channels look like then, and the
steps of its monitor. -/
inductive Action where
  | add (addr : ServiceAddr) (stubs : List StubStatus)
  | remove (addr : ServiceAddr) (stubs : List StubStatus)
  | notifyConnectionAlive (group : Nat)
  | notifyConnectionLost (group : Nat)
  | awakeMonitor
  | scan (stubs : Nat → List StubStatus)
  | recheck (stubs : Nat → List StubStatus) (failure : Option Nat)
  | resume

namespace Repository

variable {ρ : Type}

def start (hashRing : HashRing ρ) : Repository ρ := { ring := hashRing.new }

def step (hashRing : HashRing ρ) :
    Transition.Step (Repository ρ) Action Event
  | repository, .add addr stubs =>
      some (repository.add hashRing addr stubs, [.online addr])
  | repository, .remove addr stubs =>
      some (repository.remove hashRing addr stubs, [.offline addr])
  | repository, .notifyConnectionAlive group =>
      if group < repository.created then
        some (repository.notifyConnectionAlive group, [])
      else none
  | repository, .notifyConnectionLost group =>
      if group < repository.created then
        some (repository.notifyConnectionLost group, [])
      else none
  | repository, .awakeMonitor =>
      if repository.monitor ≠ .absent then some (repository.wake, [])
      else none
  | repository, .scan stubs =>
      if repository.monitor = .waiting ∧ repository.waiterDone then
        some (repository.scan hashRing stubs)
      else none
  | repository, .recheck stubs failure =>
      match repository.monitor with
      | .gathering needsPop =>
          some (repository.recheck hashRing stubs failure needsPop)
      | _ => none
  | repository, .resume =>
      if repository.monitor = .sleeping then
        some ({ repository with monitor := .waiting }, [])
      else none

end Repository

end Rpc

end TinyChat
