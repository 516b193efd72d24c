import Mathlib.Data.List.Basic
import Mathlib.Logic.Function.Basic

/-!
# The instance ids of the workers of a platform

A platform asks for a range of instance ids and leaves its first id in an
array of eight bytes that its workers share.  The first byte holds a mask with
the number of workers that have not read the id yet.
-/

namespace TinyChat

namespace Snowflake

/-- `context.Array("B", 8)`. -/
abbrev SharedArray := Fin 8 → UInt8

/-- What a worker does to the array while it holds the lock: its id, or
`none` for an `IndexError`. -/
def takeInstanceId (sharedArray : SharedArray) :
    Option (UInt8 × SharedArray) :=
  let data := sharedArray 0
  let ripple := ((data &&& 0xF0) >>> 4).toNat
  if bound : ripple < 8 then
    let instanceId := sharedArray ⟨ripple, bound⟩
    if 1 < data &&& 0x0F then
      some (instanceId, Function.update sharedArray 0 (data - 1))
    else
      let zeroed := Function.update sharedArray 0 0
      some (instanceId, Function.update zeroed ⟨ripple, bound⟩ 0)
  else none

/-- A worker waits for the mask, has seen one, has its id, has raised an
`IndexError`, or has exited; then it may have read the array or not. -/
inductive WorkerState where
  | waiting
  | awake
  | obtained (instanceId : Int)
  | raised
  | exited (read : Bool)
  deriving DecidableEq

/-- Where the master is. -/
inductive Phase where
  | getting
  | locking
  | counting
  | storing (startId : Nat)
  | flicked (startId : Nat)
  | masked (startId : Nat)
  | serving (startId : Nat)
  | refused
  deriving DecidableEq

/-- What `get_or_flick_instance_id` has returned. -/
def Phase.startId : Phase → Option Nat
  | .flicked startId => some startId
  | .masked startId => some startId
  | .serving startId => some startId
  | _ => none

/-- A platform that runs.  In the single mode the only worker is a task of
the master itself. -/
structure Platform where
  numWorkers : Nat
  single : Bool
  phase : Phase := .getting
  sharedArray : SharedArray
  workers : List WorkerState

inductive Move where
  | mask
  | publish
  | look (index : Nat)
  | obtain (index : Nat)
  | exit (index : Nat)
  | respawn (index : Nat)
  deriving DecidableEq

namespace Platform

/-- The last byte of the array tells the workers that they may begin; the
virtual worker does not look at it. -/
def spawn (numWorkers : Nat) (single : Bool) : Platform where
  numWorkers := numWorkers
  single := single
  sharedArray :=
    if single then fun _ => 0 else Function.update (fun _ => 0) 7 1
  workers := List.replicate numWorkers .waiting

def processSeq (platform : Platform) (index : Nat) : Nat :=
  if platform.single then 0 else index + 1

def setWorker (platform : Platform) (index : Nat) (worker : WorkerState) :
    Platform :=
  { platform with workers := platform.workers.set index worker }

/-- The first write of the master. -/
def mask (platform : Platform) : Option Platform :=
  match platform.phase with
  | .flicked startId =>
      some { platform with
        phase := .masked startId
        sharedArray := Function.update platform.sharedArray 0
          (UInt8.ofNat (platform.numWorkers ||| 0x10)) }
  | _ => none

/-- The second write of the master. -/
def publish (platform : Platform) : Option Platform :=
  match platform.phase with
  | .masked startId =>
      some { platform with
        phase := .serving startId
        sharedArray := Function.update platform.sharedArray 1
          (UInt8.ofNat startId) }
  | _ => none

/-- The master is between its two writes. -/
def halfway (platform : Platform) : Bool :=
  match platform.phase with
  | .masked _ => true
  | _ => false

/-- A worker finds the first byte set; the task of a single platform does not
run between the two writes. -/
def look (platform : Platform) (index : Nat) : Option Platform :=
  match platform.workers[index]? with
  | some .waiting =>
      if platform.sharedArray 0 ≠ 0 ∧
          !(platform.single && platform.halfway) then
        some (platform.setWorker index .awake)
      else none
  | _ => none

/-- `wait_for_instance_id` with the lock, and the offset of the worker. -/
def obtain (platform : Platform) (index : Nat) : Option Platform :=
  match platform.workers[index]? with
  | some .awake =>
      match takeInstanceId platform.sharedArray with
      | none => some (platform.setWorker index .raised)
      | some (instanceId, sharedArray) =>
          some { platform.setWorker index (.obtained
            (instanceId.toNat + platform.processSeq index - 1)) with
              sharedArray }
  | _ => none

/-- A worker process ends. -/
def exit (platform : Platform) (index : Nat) : Option Platform :=
  if platform.single then none
  else
    match platform.workers[index]? with
    | some .waiting => some (platform.setWorker index (.exited false))
    | some .awake => some (platform.setWorker index (.exited false))
    | some .raised => some (platform.setWorker index (.exited false))
    | some (.obtained _) => some (platform.setWorker index (.exited true))
    | _ => none

/-- The monitor starts a process again, with the same sequence number. -/
def respawn (platform : Platform) (index : Nat) : Option Platform :=
  match platform.workers[index]? with
  | some (.exited _) => some (platform.setWorker index .waiting)
  | _ => none

def move (platform : Platform) : Move → Option Platform
  | .mask => platform.mask
  | .publish => platform.publish
  | .look index => platform.look index
  | .obtain index => platform.obtain index
  | .exit index => platform.exit index
  | .respawn index => platform.respawn index

end Platform

end Snowflake

end TinyChat
