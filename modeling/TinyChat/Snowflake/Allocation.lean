import TinyChat.Lib.Table
import TinyChat.Lib.Transition
import TinyChat.Snowflake.SharedArray

/-!
# The ranges of instance ids of the platforms

A platform finds its range in etcd, or takes the next one from a counter in
redis while it holds a lock in etcd, and stores it there.
-/

namespace TinyChat

namespace Snowflake

/-- All platforms, with etcd and redis: the key of a platform holds its first
id and the number of its ids. -/
structure System (π : Type) where
  platforms : Table π Platform := []
  etcd : Table π (Nat × Nat) := []
  counter : Nat := 0
  lock : Option π := none

inductive Action (π : Type) where
  | start (platform : π) (numWorkers : Nat) (single : Bool)
  | get (platform : π)
  | acquire (platform : π)
  | incr (platform : π)
  | lost (platform : π)
  | retry (platform : π)
  | put (platform : π)
  | move (platform : π) (move : Move)
  | stop (platform : π)
  deriving DecidableEq

namespace System

variable {π : Type} [DecidableEq π]

def setPlatform (system : System π) (platform : π) (next : Platform) :
    System π :=
  { system with platforms := system.platforms.assign platform next }

def setPhase (system : System π) (platform : π) (current : Platform)
    (phase : Phase) : System π :=
  system.setPlatform platform { current with phase }

def unlock (system : System π) (platform : π) : System π :=
  if system.lock = some platform then { system with lock := none } else system

/-- The answer of etcd for the key of a platform. -/
def getPhase (current : Platform) : Option (Nat × Nat) → Phase
  | none => .locking
  | some (startId, length) =>
      if length < current.numWorkers then .refused else .flicked startId

def step : Transition.Step (System π) (Action π) Empty
  | system, .start platform numWorkers single =>
      if (system.platforms.lookup platform).isNone ∧ 0 < numWorkers ∧
          (single = true → numWorkers = 1) then
        some (system.setPlatform platform (.spawn numWorkers single), [])
      else none
  | system, .get platform =>
      match system.platforms.lookup platform with
      | none => none
      | some current =>
          if current.phase = .getting then
            some (system.setPhase platform current
              (getPhase current (system.etcd.lookup platform)), [])
          else none
  | system, .acquire platform =>
      match system.platforms.lookup platform with
      | none => none
      | some current =>
          if current.phase = .locking ∧ system.lock = none then
            some ({ system.setPhase platform current .counting with
              lock := some platform }, [])
          else none
  | system, .incr platform =>
      match system.platforms.lookup platform with
      | none => none
      | some current =>
          if current.phase = .counting then
            let endId := system.counter + current.numWorkers
            some ({ system.setPhase platform current
              (.storing (endId - current.numWorkers + 1)) with
                counter := endId }, [])
          else none
  | system, .lost platform =>
      match system.platforms.lookup platform with
      | none => none
      | some current =>
          if current.phase = .counting then
            some ({ system with
              counter := system.counter + current.numWorkers }, [])
          else none
  | system, .retry platform =>
      match system.platforms.lookup platform with
      | none => none
      | some current =>
          if current.phase = .counting then
            some ((system.setPhase platform current .locking).unlock
              platform, [])
          else none
  | system, .put platform =>
      match system.platforms.lookup platform with
      | none => none
      | some current =>
          match current.phase with
          | .storing startId =>
              some (({ system.setPhase platform current
                (.flicked startId) with
                  etcd := system.etcd.assign platform
                    (startId, current.numWorkers) } : System π).unlock
                      platform, [])
          | _ => none
  | system, .move platform move =>
      match system.platforms.lookup platform with
      | none => none
      | some current =>
          match current.move move with
          | none => none
          | some next => some (system.setPlatform platform next, [])
  | system, .stop platform =>
      if (system.platforms.lookup platform).isSome then
        some (({ system with
          platforms := system.platforms.pop platform } : System π).unlock
            platform, [])
      else none

/-- Every worker that has an id has the one of its platform and its sequence
number, no two workers that run have the same one, and a worker that waits for
its id finds the mask. -/
structure Correct (system : System π) : Prop where
  right : ∀ platform (current : Platform),
    system.platforms.lookup platform = some current →
      ∀ (index : Nat) instanceId,
        current.workers[index]? = some (.obtained instanceId) →
        ∃ startId, current.phase.startId = some startId ∧
          instanceId = startId + current.processSeq index - 1
  distinct : ∀ first second (current other : Platform),
    system.platforms.lookup first = some current →
    system.platforms.lookup second = some other →
      ∀ (index place : Nat) instanceId,
        current.workers[index]? = some (.obtained instanceId) →
        other.workers[place]? = some (.obtained instanceId) →
          first = second ∧ index = place
  served : ∀ platform (current : Platform) startId,
    system.platforms.lookup platform = some current →
    current.phase = .serving startId →
      ∀ (index : Nat) worker, current.workers[index]? = some worker →
        worker ≠ .raised ∧
          (worker = .waiting ∨ worker = .awake →
            current.sharedArray 0 ≠ 0)

end System

end Snowflake

end TinyChat
