import Mathlib.Data.Rat.Defs
import TinyChat.Lib.Table
import TinyChat.Lib.Transition

/-!
# The usage of services by the workers

The master counts for every service how often each worker has used it, and
divides the counts by their total.  A timer takes the workers that have died
out of the tables.
-/

namespace TinyChat

namespace Manager

structure UsagePair where
  count : Int := 0
  proportion : ℚ := 0
  deriving DecidableEq

structure ServiceUsage where
  totalCount : Int := 0
  usages : Table Nat UsagePair := []
  deriving DecidableEq

inductive StatisticError where
  | zeroDivision
  | keyError
  | typeError
  | valueError
  | structError
  deriving DecidableEq

namespace ServiceUsage

def update (service : ServiceUsage) (procSeq : Nat) (count : Int) :
    ServiceUsage × Option StatisticError :=
  let totalCount := service.totalCount + count
  let usagePair := (service.usages.lookup procSeq).getD {}
  let counted := { usagePair with count := usagePair.count + count }
  if totalCount = 0 then
    ({ totalCount := totalCount
       usages := service.usages.assign procSeq counted },
      some .zeroDivision)
  else
    ({ totalCount := totalCount
       usages := service.usages.assign procSeq
        { counted with proportion := counted.count / totalCount } },
      none)

/-- `pop`, which has one parameter; `others` are further arguments of the
call. -/
def pop (service : ServiceUsage) (procSeq : Nat)
    (others : List (Option UsagePair)) :
    ServiceUsage × Option StatisticError :=
  match others, service.usages.lookup procSeq with
  | _ :: _, _ => (service, some .typeError)
  | [], none => (service, some .keyError)
  | [], some pair =>
      let usages := service.usages.pop procSeq
      let total := service.totalCount - pair.count
      if total = 0 ∧ usages ≠ [] then
        ({ totalCount := total, usages := usages }, some .zeroDivision)
      else
        ({ totalCount := total
           usages := usages.map fun entry =>
            (entry.1, { entry.2 with
              proportion := entry.2.count / total }) },
          none)

end ServiceUsage

inductive ProcessState where
  | ready
  | running
  | dirty
  | done
  deriving DecidableEq

structure LoadItem where
  srvAddr : String
  usageCount : Int

structure LoadInfo where
  procSeq : Nat
  srvName : String
  totalCount : Int
  loads : List LoadItem

/-- The manager with the workers of the process manager; `extracting` is the
task of `extract_info_multi_mode`, and `scheduled` the timer of
`proc_consistency`. -/
structure StatisticManager where
  nameMapUsages : Table String ServiceUsage := []
  procUsages : Table Nat Int := []
  workers : Table Nat ProcessState := []
  extracting : Bool := true
  scheduled : Bool := true
  deriving DecidableEq

/-- An exception of the task or of the timer, and a run of the timer with the
dirty workers that it handled and the manager that it left. -/
inductive StatisticReport where
  | raised (error : StatisticError)
  | checked (handled : List Nat) (manager : StatisticManager)

/-- The task gets an event, the event loop runs the timer, and the process
manager changes the state of a worker or discards it. -/
inductive StatisticCall where
  | extract (info : LoadInfo)
  | procConsistency
  | setState (procSeq : Nat) (state : ProcessState)
  | discard (procSeq : Nat)

namespace StatisticManager

def service (manager : StatisticManager) (name : String) : ServiceUsage :=
  (manager.nameMapUsages.lookup name).getD {}

def setService (manager : StatisticManager) (name : String)
    (service : ServiceUsage) : StatisticManager :=
  { manager with
    nameMapUsages := manager.nameMapUsages.assign name service }

def serviceTag (srvName : String) (item : LoadItem) : String :=
  srvName ++ "/" ++ item.srvAddr

def updateItem (manager : StatisticManager) (srvName : String)
    (procSeq : Nat) (item : LoadItem) :
    StatisticManager × Option StatisticError :=
  let name := serviceTag srvName item
  let updated := (manager.service name).update procSeq item.usageCount
  (manager.setService name updated.1, updated.2)

/-- The loop over the items of an event. -/
def updateAll (srvName : String) (procSeq : Nat) :
    StatisticManager → List LoadItem →
    StatisticManager × Option StatisticError
  | manager, [] => (manager, none)
  | manager, item :: items =>
      match manager.updateItem srvName procSeq item with
      | (next, some error) => (next, some error)
      | (next, none) => updateAll srvName procSeq next items

def noteTotal (manager : StatisticManager) (info : LoadInfo) :
    StatisticManager :=
  { manager with
    procUsages := manager.procUsages.assign info.procSeq info.totalCount }

/-- One turn of the task's loop; an exception ends the task. -/
def extract (manager : StatisticManager) (info : LoadInfo) :
    StatisticManager × List StatisticReport :=
  match updateAll info.srvName info.procSeq (manager.noteTotal info)
    info.loads with
  | (next, some error) => ({ next with extracting := false }, [.raised error])
  | (next, none) => (next, [])

/-- `usages.pop(proc_seq, None)` for every service. -/
def popAll (procSeq : Nat) : Table String ServiceUsage →
    Table String ServiceUsage × Option StatisticError
  | [] => ([], none)
  | (name, service) :: rest =>
      match service.pop procSeq [none] with
      | (popped, some error) => ((name, popped) :: rest, some error)
      | (popped, none) =>
          let others := popAll procSeq rest
          ((name, popped) :: others.1, others.2)

/-- The loop of `proc_consistency` over the dirty workers. -/
def handleAll : StatisticManager → List Nat →
    StatisticManager × Option StatisticError
  | manager, [] => (manager, none)
  | manager, procSeq :: rest =>
      let popped := popAll procSeq manager.nameMapUsages
      let next :=
        { manager with
          workers := manager.workers.assign procSeq .done
          procUsages := manager.procUsages.pop procSeq
          nameMapUsages := popped.1 }
      match popped.2 with
      | some error => (next, some error)
      | none => handleAll next rest

def dirtyWorkers (manager : StatisticManager) : List Nat :=
  (manager.workers.filter fun entry => entry.2 = .dirty).map Prod.fst

/-- `proc_consistency`, as a callback that is not scheduled any longer. -/
def procConsistency (manager : StatisticManager) :
    StatisticManager × List StatisticReport :=
  match handleAll { manager with scheduled := false } manager.dirtyWorkers with
  | (next, some error) => (next, [.raised error])
  | (next, none) =>
      let next := { next with scheduled := true }
      (next, [.checked manager.dirtyWorkers next])

def step : Transition.Step StatisticManager StatisticCall StatisticReport
  | manager, .extract info =>
      if manager.extracting then some (manager.extract info) else none
  | manager, .procConsistency =>
      if manager.scheduled then some manager.procConsistency else none
  | manager, .setState procSeq state =>
      some ({ manager with
        workers := manager.workers.assign procSeq state }, [])
  | manager, .discard procSeq =>
      some ({ manager with workers := manager.workers.pop procSeq }, [])

end StatisticManager

end Manager

end TinyChat
