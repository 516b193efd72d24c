import TinyChat.Push.Channel

/-!
# The push manager of a gateway

The reader of every session puts the acknowledgement frames of its client on
one shared queue.  The task `ack_to_rpc` takes the frames from it and hands
each log to the channel that the log names; a log that names no channel is a
`KeyError`, which ends the task.
-/

namespace TinyChat

namespace Push

/-- The fields of a log that the gateway reads. -/
structure MessageLog where
  channelNumber : Int
  deliveryId : Nat
  deriving DecidableEq

/-- The dictionary of the channels by number. -/
abbrev Channels := Int → Option PushChannel

structure PushManager where
  channels : Channels := fun _ => none
  /-- The next number of `channel_number_generator`. -/
  channelNumber : Nat := 0
  channelQueue : List (List MessageLog) := []
  /-- The task `ack_to_rpc` has not ended. -/
  running : Bool := true

/-- `MAX_INT32`, which the source writes as `2 << 31`. -/
def maxInt32 : Nat := 2 <<< 31

/-- What can be observed of a manager.  For every log of a frame that is
taken from the queue, `handled` says whether it names a channel and whether
the queue of this channel contains its id after the frame. -/
inductive ManagerEvent where
  | arrived (sessionKey : Int) (logs : List MessageLog)
  | handled (log : MessageLog) (live contained : Bool)
  | channel (number : Int) (event : ChannelEvent)
  deriving DecidableEq

/-- A session puts a frame, `ack_to_rpc` takes one, a channel is connected or
removed, or something happens in a channel. -/
inductive ManagerAction where
  | put (sessionKey : Int) (logs : List MessageLog)
  | get
  | connect
  | disconnect (number : Int)
  | channel (number : Int) (action : ChannelAction)
  deriving DecidableEq

/-- The loop of `ack_to_rpc` over the logs of a frame.  It also says whether
the loop came to its end. -/
def ackLogs (channels : Channels) : List MessageLog → Channels × Bool
  | [] => (channels, true)
  | log :: logs =>
      match channels log.channelNumber with
      | none => (channels, false)
      | some channel =>
          ackLogs
            (Function.update channels log.channelNumber
              (some (channel.ackLog log.deliveryId))) logs

/-- The logs of a frame that the loop reaches. -/
def reachedLogs (channels : Channels) (logs : List MessageLog) :
    List MessageLog :=
  logs.takeWhile (fun log => (channels log.channelNumber).isSome)

namespace PushManager

/-- The queue of the channel that a log names contains the id of the log. -/
def contains (channels : Channels) (log : MessageLog) : Bool :=
  match channels log.channelNumber with
  | none => false
  | some channel => channel.ackQueue.contains log.deliveryId

/-- What is observed of a frame. -/
def frameEvents (channels : Channels) (logs : List MessageLog) :
    List ManagerEvent :=
  (reachedLogs channels logs).map (fun log =>
      .channel log.channelNumber (.added log.deliveryId)) ++
    logs.map (fun log =>
      .handled log (channels log.channelNumber).isSome
        (contains (ackLogs channels logs).1 log))

def step : Transition.Step PushManager ManagerAction ManagerEvent
  | manager, .put sessionKey logs =>
      some ({ manager with channelQueue := manager.channelQueue ++ [logs] },
        [.arrived sessionKey logs])
  | manager, .get =>
      match manager.running, manager.channelQueue with
      | true, logs :: frames =>
          let result := ackLogs manager.channels logs
          some ({ manager with
              channels := result.1
              channelQueue := frames
              running := result.2 },
            frameEvents manager.channels logs)
      | _, _ => none
  | manager, .connect =>
      some ({ manager with
          channels :=
            Function.update manager.channels manager.channelNumber (some {})
          channelNumber := (manager.channelNumber + 1) % maxInt32 }, [])
  | manager, .disconnect number =>
      match manager.channels number with
      | none => none
      | some _ =>
          some ({ manager with
            channels := Function.update manager.channels number none }, [])
  | manager, .channel number action =>
      match manager.channels number with
      | none => none
      | some channel =>
          match channel.step action with
          | none => none
          | some (next, events) =>
              some ({ manager with
                  channels :=
                    Function.update manager.channels number (some next) },
                events.map (.channel number))

end PushManager

end Push

end TinyChat
