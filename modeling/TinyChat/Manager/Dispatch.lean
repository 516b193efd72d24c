import TinyChat.Lib.Framing
import TinyChat.Manager.Statistic

/-!
# Events from the master to its workers

The master serializes an event once and puts it, with its length in one byte
in front, into the queue of every running worker.  A task writes the queue
into the pipe of the worker, which reads a length and a body in turns.
-/

namespace TinyChat

namespace Manager

/-- How the events are serialized. -/
structure ProcCodec (ε : Type) where
  serializeToString : ε → List UInt8
  fromString : List UInt8 → Option ε
  roundTrip : ∀ event, fromString (serializeToString event) = some event

/-- `pack(">B", length)`. -/
def packByte (length : Nat) : Option (List UInt8) :=
  if length < 256 then some [UInt8.ofNat length] else none

/-- `unpack(">B", size)[0]`. -/
def unpackByte : List UInt8 → Nat
  | [size] => size.toNat
  | _ => 0

def byteHeader : LengthHeader UInt8 where
  width := 1
  positive := Nat.one_pos
  pack := packByte
  unpack := unpackByte
  pack_length := by
    intro length header packed
    unfold packByte at packed
    split at packed
    · cases packed
      rfl
    · cases packed
  unpack_pack := by
    intro length header packed
    unfold packByte at packed
    split at packed
    · rename_i small
      cases packed
      exact UInt8.toNat_ofNat_of_lt small
    · cases packed

/-- A worker with its `service_queue`, the bytes that are in its pipe, and
what it has read; it has failed if it got a body that is not an event. -/
structure ChildProcess where
  state : ProcessState := .running
  serviceQueue : List (List UInt8) := []
  pipe : List UInt8 := []
  reader : LengthHeader.Reader UInt8 := {}
  failed : Bool := false

structure ProcessManager where
  processes : Table Nat ChildProcess := []
  hinting : Bool := true

/-- The events that were passed to `dispatch_event` and those that a worker
has decoded, and the exceptions. -/
inductive DispatchReport (ε : Type) where
  | dispatched (event : ε)
  | structError
  | hintFailed (error : StatisticError)
  | decoded (procSeq : Nat) (event : ε)
  | decodeError (procSeq : Nat)

/-- An event is dispatched, the timer of `statistic_info` runs, the task of a
worker writes into its pipe, some bytes get through the pipe, the worker
reads, and workers are started and end. -/
inductive DispatchCall (ε : Type) where
  | dispatchEvent (event : ε)
  | statisticInfo (nameMapUsages : Table String ServiceUsage)
  | publishEvent (procSeq : Nat)
  | arrive (procSeq count : Nat)
  | read (procSeq : Nat)
  | spawn (procSeq : Nat)
  | setState (procSeq : Nat) (state : ProcessState)
  | discard (procSeq : Nat)

/-- The fields of an event that hold a message, and the classes of these. -/
inductive EvtEntity where
  | srvEvt
  | loadEvt
  deriving DecidableEq

inductive EntityClass where
  | serviceEvent
  | loadHintEvent
  deriving DecidableEq

def EvtEntity.entityClass : EvtEntity → EntityClass
  | .srvEvt => .serviceEvent
  | .loadEvt => .loadHintEvent

/-- The constructor of an event refuses a message of another class. -/
def EvtEntity.assign (field : EvtEntity) (value : EntityClass) :
    Option StatisticError :=
  if field.entityClass = value then none else some .typeError

/-- `pack(">1B", int(usage.proportion * 100))`. -/
def packWeight (usage : UsagePair) : Option StatisticError :=
  let percent := usage.proportion * 100
  let weight := percent.num.tdiv percent.den
  if 0 ≤ weight ∧ weight < 256 then none else some .structError

/-- The hint for the first worker of a service, which is put into the field
of the other class. -/
def hintService (entry : String × ServiceUsage) : Option StatisticError :=
  if (entry.1.splitOn "/").length ≠ 2 then some .valueError
  else
    match entry.2.usages with
    | [] => none
    | (_, usage) :: _ =>
        (packWeight usage).or (EvtEntity.srvEvt.assign .loadHintEvent)

namespace ProcessManager

variable {ε : Type}

def child (manager : ProcessManager) (procSeq : Nat) :
    Option ChildProcess :=
  manager.processes.lookup procSeq

def setChild (manager : ProcessManager) (procSeq : Nat)
    (child : ChildProcess) : ProcessManager :=
  { manager with processes := manager.processes.assign procSeq child }

/-- `feed_data` of a running worker. -/
def feedData (data : List UInt8) (child : ChildProcess) : ChildProcess :=
  match child.state with
  | .running =>
      { child with serviceQueue := child.serviceQueue ++ [data] }
  | _ => child

/-- `dispatch_event`. -/
def dispatchEvent (codec : ProcCodec ε) (manager : ProcessManager)
    (event : ε) : ProcessManager × List (DispatchReport ε) :=
  match byteHeader.frame (codec.serializeToString event) with
  | none => (manager, [.dispatched event, .structError])
  | some data =>
      ({ manager with
          processes := manager.processes.map fun entry =>
            (entry.1, feedData data entry.2) },
        [.dispatched event])

/-- `statistic_info`: the first service with a usage ends the timer. -/
def statisticInfo (manager : ProcessManager)
    (nameMapUsages : Table String ServiceUsage) :
    ProcessManager × List (DispatchReport ε) :=
  match nameMapUsages.findSome? hintService with
  | none => (manager, [])
  | some error => ({ manager with hinting := false }, [.hintFailed error])

/-- `_publish_event` takes one frame from the queue. -/
def publishEvent (child : ChildProcess) : Option ChildProcess :=
  match child.serviceQueue with
  | [] => none
  | data :: rest =>
      some { child with serviceQueue := rest, pipe := child.pipe ++ data }

def arrive (child : ChildProcess) (count : Nat) : ChildProcess :=
  { child with
    pipe := child.pipe.drop count
    reader :=
      { child.reader with
        buffer := child.reader.buffer ++ child.pipe.take count } }

/-- The loop of `child_proc_task` up to the next `readexactly`. -/
def read (codec : ProcCodec ε) (procSeq : Nat) (child : ChildProcess) :
    Option (ChildProcess × List (DispatchReport ε)) :=
  if child.failed then none
  else
    match byteHeader.read child.reader with
    | none => none
    | some (reader, none) => some ({ child with reader := reader }, [])
    | some (reader, some body) =>
        match codec.fromString body with
        | none =>
            some ({ child with reader := reader, failed := true },
              [.decodeError procSeq])
        | some event =>
            some ({ child with reader := reader },
              [.decoded procSeq event])

def step (codec : ProcCodec ε) :
    Transition.Step ProcessManager (DispatchCall ε) (DispatchReport ε)
  | manager, .dispatchEvent event =>
      some (manager.dispatchEvent codec event)
  | manager, .statisticInfo nameMapUsages =>
      if manager.hinting then some (manager.statisticInfo nameMapUsages)
      else none
  | manager, .publishEvent procSeq =>
      match (manager.child procSeq).bind publishEvent with
      | none => none
      | some child => some (manager.setChild procSeq child, [])
  | manager, .arrive procSeq count =>
      match manager.child procSeq with
      | none => none
      | some child =>
          some (manager.setChild procSeq (arrive child count), [])
  | manager, .read procSeq =>
      match (manager.child procSeq).bind (read codec procSeq) with
      | none => none
      | some (child, events) =>
          some (manager.setChild procSeq child, events)
  | manager, .spawn procSeq => some (manager.setChild procSeq {}, [])
  | manager, .setState procSeq state =>
      match manager.child procSeq with
      | none => none
      | some child =>
          some (manager.setChild procSeq { child with state := state }, [])
  | manager, .discard procSeq =>
      some ({ manager with processes := manager.processes.pop procSeq }, [])

/-- A call does not start or end the worker. -/
def Stays (procSeq : Nat) (_ : ProcessManager) : DispatchCall ε → Prop
  | .spawn other => other ≠ procSeq
  | .setState other _ => other ≠ procSeq
  | .discard other => other ≠ procSeq
  | .dispatchEvent _ => True
  | .statisticInfo _ => True
  | .publishEvent _ => True
  | .arrive _ _ => True
  | .read _ => True

instance (procSeq : Nat) (manager : ProcessManager) :
    (call : DispatchCall ε) → Decidable (manager.Stays procSeq call)
  | .spawn _ | .setState _ _ | .discard _ =>
      inferInstanceAs (Decidable (_ ≠ procSeq))
  | .dispatchEvent _ | .statisticInfo _ | .publishEvent _ | .arrive _ _
  | .read _ => .isTrue trivial

end ProcessManager

end Manager

end TinyChat
