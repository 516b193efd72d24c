import TinyChat.Lib.Table
import TinyChat.Lib.Transition
import TinyChat.Manager.Statistic

/-!
# The workers of a process manager

The master numbers its workers.  A cycle of `monitor` marks the workers that
have died, discards those that it had marked before and gives their numbers to
new workers.
-/

namespace TinyChat

namespace Multiprocess

open Manager (ProcessState)

/-- The identity of a process object is its place in the order of creation. -/
structure WorkerProcess where
  ident : Nat
  processSeq : Nat
  state : ProcessState := .running
  alive : Bool := true
  deriving DecidableEq

/-- The keys of `_processes_tasks_map` and the list `needs_schedule` are
process objects. -/
structure ProcessManager where
  numWorkers : Int
  availableSequence : List Nat
  processes : Table Nat WorkerProcess := []
  tasksMap : List Nat := []
  needsDiscard : List Nat := []
  needsSchedule : List Nat := []
  created : Nat := 0
  deriving DecidableEq

/-- A worker dies, the statistic manager handles a worker that was marked, or
`monitor` runs its next cycle; the choices say which numbers the set gives
away. -/
inductive WorkerAction where
  | die (processSeq : Nat)
  | handle (processSeq : Nat)
  | cycle (choices : Nat → Nat)

/-- A `KeyError` of a set or of a dictionary. -/
inductive WorkerEvent where
  | keyError
  deriving DecidableEq

namespace ProcessManager

/-! ## Reaping -/

/-- A worker that was marked before loses its task, and its number is free
while the worker is still to be discarded. -/
def release (manager : ProcessManager) (proc : WorkerProcess) :
    ProcessManager :=
  { manager with
    tasksMap := manager.tasksMap.erase proc.ident
    needsDiscard := manager.needsDiscard ++ [proc.processSeq]
    availableSequence :=
      manager.availableSequence.insert proc.processSeq }

/-- The loop of `reap_workers` over the entries of `processes`. -/
def reap : ProcessManager → Table Nat WorkerProcess →
    Option (Table Nat WorkerProcess × ProcessManager)
  | manager, [] => some ([], manager)
  | manager, (key, proc) :: rest =>
      if proc.alive then
        (reap manager rest).map (Prod.map ((key, proc) :: ·) id)
      else if proc.ident ∉ manager.tasksMap then none
      else if proc.state = .running then
        (reap manager rest).map
          (Prod.map ((key, { proc with state := .dirty }) :: ·) id)
      else
        (reap (manager.release proc) rest).map
          (Prod.map ((key, proc) :: ·) id)

def reapWorkers (manager : ProcessManager) : Option ProcessManager :=
  (manager.reap manager.processes).map fun reaped =>
    { reaped.2 with processes := reaped.1 }

/-- `processes.pop` for the numbers in a list. -/
def popAll : Table Nat WorkerProcess → List Nat →
    Option (Table Nat WorkerProcess)
  | processes, [] => some processes
  | processes, processSeq :: rest =>
      if (processes.lookup processSeq).isSome then
        popAll (processes.pop processSeq) rest
      else none

def discardWorkers (manager : ProcessManager) : Option ProcessManager :=
  (popAll manager.processes manager.needsDiscard).map fun processes =>
    { manager with processes := processes, needsDiscard := [] }

/-! ## Spawning -/

/-- `set.pop` gives away an arbitrary number. -/
def popSequence (available : List Nat) (choice : Nat) :
    Option (Nat × List Nat) :=
  available[choice % available.length]?.map fun processSeq =>
    (processSeq, available.erase processSeq)

/-- One turn of the loop of `spawn_workers`, with a fork that succeeds. -/
def spawn (manager : ProcessManager) (scheduled : Bool) (choice : Nat) :
    Option ProcessManager :=
  (popSequence manager.availableSequence choice).map fun popped =>
    { manager with
      availableSequence := popped.2
      processes := manager.processes.assign popped.1
        { ident := manager.created, processSeq := popped.1 }
      needsSchedule :=
        if scheduled then manager.needsSchedule ++ [manager.created]
        else manager.needsSchedule
      created := manager.created + 1 }

/-- `spawn_workers` for a number of workers. -/
def spawnWorkers (scheduled : Bool) (choices : Nat → Nat) :
    Nat → ProcessManager → Option ProcessManager
  | 0, manager => some manager
  | count + 1, manager =>
      (manager.spawn scheduled (choices count)).bind
        (spawnWorkers scheduled choices count)

/-- The tasks for the new workers. -/
def scheduleTasks (manager : ProcessManager) : ProcessManager :=
  { manager with
    tasksMap := manager.tasksMap ++ manager.needsSchedule
    needsSchedule := [] }

/-! ## The manager -/

/-- A cycle of `monitor` after its pause. -/
def cycle (manager : ProcessManager) (choices : Nat → Nat) :
    Option ProcessManager :=
  manager.reapWorkers.bind fun reaped =>
    reaped.discardWorkers.bind fun kept =>
      let missing := kept.numWorkers - kept.processes.length
      if 0 < missing then
        (kept.spawnWorkers true choices missing.toNat).map scheduleTasks
      else some kept

/-- `__init__`. -/
def init (numWorkers : Int) : ProcessManager where
  numWorkers := numWorkers
  availableSequence := List.range' 1 numWorkers.toNat

/-- The first `spawn_workers`, and `start` up to `monitor`. -/
def start (numWorkers : Int) (choices : Nat → Nat) : Option ProcessManager :=
  ((init numWorkers).spawnWorkers false choices numWorkers.toNat).map
    fun manager =>
      { manager with
        tasksMap := manager.processes.map fun entry => entry.2.ident }

/-- Change the object that is stored under a number. -/
def change (manager : ProcessManager) (processSeq : Nat)
    (update : WorkerProcess → WorkerProcess) : ProcessManager :=
  { manager with
    processes := manager.processes.map fun entry =>
      if entry.1 = processSeq then (entry.1, update entry.2) else entry }

/-- `proc_consistency` for one worker. -/
def handle (proc : WorkerProcess) : WorkerProcess :=
  if proc.state = .dirty then { proc with state := .done } else proc

def step : Transition.Step ProcessManager WorkerAction WorkerEvent
  | manager, .die processSeq =>
      some (manager.change processSeq
        (fun proc => { proc with alive := false }), [])
  | manager, .handle processSeq =>
      some (manager.change processSeq handle, [])
  | manager, .cycle choices =>
      match manager.cycle choices with
      | none => some (manager, [.keyError])
      | some next => some (next, [])

/-- The free numbers and the keys of `processes` are apart and together those
up to `num_workers`; every process has its number and a task. -/
structure Numbered (manager : ProcessManager) : Prop where
  disjoint : ∀ processSeq ∈ manager.availableSequence,
    processSeq ∉ manager.processes.map Prod.fst
  together : ∀ processSeq,
    processSeq ∈ manager.availableSequence ∨
        processSeq ∈ manager.processes.map Prod.fst ↔
      1 ≤ processSeq ∧ (processSeq : Int) ≤ manager.numWorkers
  sequence : ∀ entry ∈ manager.processes, entry.2.processSeq = entry.1
  tasks : ∀ entry ∈ manager.processes, entry.2.ident ∈ manager.tasksMap

end ProcessManager

end Multiprocess

end TinyChat
