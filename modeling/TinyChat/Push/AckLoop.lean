import TinyChat.Message.QueueRuns
import TinyChat.Push.ChannelSteps
import TinyChat.Push.Manager

/-!
# The loop that hands acknowledgements to the channels

One task serves all sessions and all channels.  It goes on, and adds the ids
of all logs, exactly as long as every log names a channel that exists when
the log is handled.
-/

namespace TinyChat

namespace Push

open Transition

variable {channels : Channels} {logs : List MessageLog}

/-- The queue of every channel is well-formed. -/
def AllWf (channels : Channels) : Prop :=
  ∀ number channel, channels number = some channel →
    ∃ nodes, AckQueue.Wf channel.ackQueue nodes

theorem AllWf.update (wf : AllWf channels) (number : Int)
    {channel : PushChannel}
    (channelWf : ∃ nodes, AckQueue.Wf channel.ackQueue nodes) :
    AllWf (Function.update channels number (some channel)) := by
  intro other found listed
  rw [Function.update_apply] at listed
  split at listed
  · cases listed
    exact channelWf
  · exact wf other found listed

theorem AllWf.remove (wf : AllWf channels) (number : Int) :
    AllWf (Function.update channels number none) := by
  intro other found listed
  rw [Function.update_apply] at listed
  split at listed
  · cases listed
  · exact wf other found listed

theorem PushChannel.Moved.wf {channel next : PushChannel}
    {action : ChannelAction} {events : List ChannelEvent}
    (moved : Moved channel action next events)
    (wf : ∃ nodes, AckQueue.Wf channel.ackQueue nodes) :
    ∃ nodes, AckQueue.Wf next.ackQueue nodes := by
  obtain ⟨nodes, wf⟩ := wf
  cases moved with
  | ended position queue phase => exact ⟨[], queue ▸ wf.clear⟩
  | yielded position start end_ encodable queue phase =>
      exact ⟨nodes, queue ▸ wf⟩
  | refused position start end_ queue phase => exact ⟨nodes, queue ▸ wf⟩
  | @added deliveryId rest adds queue phase tail =>
      obtain ⟨nodes', added⟩ := wf.add_cases deliveryId
      exact ⟨nodes', queue ▸ wf.added added⟩
  | idle queue phase => exact ⟨nodes, queue ▸ wf⟩

theorem AllWf.ackLog (wf : AllWf channels) {number : Int}
    {channel : PushChannel} (found : channels number = some channel)
    (deliveryId : Nat) :
    AllWf (Function.update channels number
      (some (channel.ackLog deliveryId))) := by
  apply wf.update
  obtain ⟨nodes, channelWf⟩ := wf number channel found
  obtain ⟨nodes', added⟩ := channelWf.add_cases deliveryId
  rw [PushChannel.ackLog_ackQueue]
  exact ⟨nodes', channelWf.added added⟩

theorem AllWf.contains_ackLog (wf : AllWf channels) {log : MessageLog}
    {channel : PushChannel}
    (found : channels log.channelNumber = some channel)
    (other : MessageLog) :
    PushManager.contains
        (Function.update channels log.channelNumber
          (some (channel.ackLog log.deliveryId))) other = true ↔
      PushManager.contains channels other = true ∨ other = log := by
  obtain ⟨nodes, channelWf⟩ := wf log.channelNumber channel found
  obtain ⟨number, deliveryId⟩ := log
  obtain ⟨otherNumber, otherId⟩ := other
  unfold PushManager.contains
  by_cases same : otherNumber = number
  · subst same
    simp only [Function.update_self, PushChannel.ackLog_ackQueue, found,
      channelWf.contains_add, MessageLog.mk.injEq, true_and,
      Int.natCast_inj]
  · simp only [Function.update_of_ne same, MessageLog.mk.injEq, same,
      false_and, or_false]

theorem AllWf.ackLogs (wf : AllWf channels) :
    AllWf (ackLogs channels logs).1 := by
  induction logs generalizing channels with
  | nil => exact wf
  | cons log logs induction =>
      simp only [Push.ackLogs]
      split
      · exact wf
      · rename_i channel found
        exact induction (wf.ackLog found log.deliveryId)

/-- The logs of a frame remove nothing. -/
theorem AllWf.contains_ackLogs (wf : AllWf channels) {log : MessageLog}
    (contained : PushManager.contains channels log = true) :
    PushManager.contains (Push.ackLogs channels logs).1 log = true := by
  induction logs generalizing channels with
  | nil => exact contained
  | cons first logs induction =>
      simp only [Push.ackLogs]
      split
      · exact contained
      · rename_i channel found
        apply induction (wf.ackLog found first.deliveryId)
        exact (wf.contains_ackLog found log).mpr (Or.inl contained)

theorem isSome_update {number : Int} {channel : PushChannel}
    (found : (channels number).isSome) (other : Int) :
    (Function.update channels number (some channel) other).isSome =
      (channels other).isSome := by
  rw [Function.update_apply]
  split
  · rename_i same
    rw [same, found]
    rfl
  · rfl

/-- The loop comes to its end exactly if every log names a channel. -/
theorem ackLogs_completes_iff :
    (ackLogs channels logs).2 = true ↔
      ∀ log ∈ logs, (channels log.channelNumber).isSome = true := by
  induction logs generalizing channels with
  | nil => simp [ackLogs]
  | cons log logs induction =>
      simp only [ackLogs, List.forall_mem_cons]
      cases found : channels log.channelNumber with
      | none => simp
      | some channel =>
          have live : (channels log.channelNumber).isSome := by simp [found]
          simp only [induction, isSome_update live, Option.isSome_some,
            true_and]

theorem AllWf.contains_of_live (wf : AllWf channels)
    (live : ∀ log ∈ logs, (channels log.channelNumber).isSome = true) :
    ∀ log ∈ logs,
      PushManager.contains (Push.ackLogs channels logs).1 log = true := by
  induction logs generalizing channels with
  | nil => exact nofun
  | cons first logs induction =>
      obtain ⟨firstLive, restLive⟩ := List.forall_mem_cons.mp live
      obtain ⟨channel, found⟩ := Option.isSome_iff_exists.mp firstLive
      have later := wf.ackLog found first.deliveryId
      simp only [Push.ackLogs, found, List.forall_mem_cons]
      constructor
      · apply later.contains_ackLogs
        exact (wf.contains_ackLog found first).mpr (Or.inr rfl)
      · apply induction later
        intro log member
        rw [isSome_update firstLive]
        exact restLive log member

namespace PushManager

variable {manager next : PushManager} {action : ManagerAction}
  {trace events : List ManagerEvent}

/-- Every log that was handled named a channel. -/
def NamesLive (trace : List ManagerEvent) : Prop :=
  ∀ log live contained, .handled log live contained ∈ trace → live = true

/-- Every log that was handled and named a channel was added to it. -/
def AddsLive (trace : List ManagerEvent) : Prop :=
  ∀ log live contained, .handled log live contained ∈ trace →
    live = true → contained = true

/-- What holds after every run. -/
structure Serves (trace : List ManagerEvent) (manager : PushManager) :
    Prop where
  wf : AllWf manager.channels
  runs : manager.running = true ↔ NamesLive trace
  adds : NamesLive trace → AddsLive trace

theorem Serves.quiet (serves : Serves trace manager)
    (quiet : ∀ log live contained, .handled log live contained ∉ events)
    (wf : AllWf next.channels) (same : next.running = manager.running) :
    Serves (trace ++ events) next := by
  have handled : ∀ log live contained,
      .handled log live contained ∈ trace ++ events ↔
        .handled log live contained ∈ trace := by
    intro log live contained
    simp only [List.mem_append, quiet log live contained, or_false]
  have names : NamesLive (trace ++ events) ↔ NamesLive trace := by
    simp only [NamesLive, handled]
  constructor
  · exact wf
  · rw [same, names]
    exact serves.runs
  · rw [names]
    intro live log isLive contained member
    exact serves.adds live log isLive contained
      ((handled log isLive contained).mp member)

theorem mem_frameEvents {log : MessageLog} {live contained : Bool} :
    .handled log live contained ∈ frameEvents channels logs ↔
      log ∈ logs ∧ (channels log.channelNumber).isSome = live ∧
        contains (ackLogs channels logs).1 log = contained := by
  rw [frameEvents, List.mem_append, List.mem_map, List.mem_map]
  constructor
  · rintro (⟨_, _, impossible⟩ | ⟨found, member, same⟩)
    · cases impossible
    · cases same
      exact ⟨member, rfl, rfl⟩
  · rintro ⟨member, rfl, rfl⟩
    exact Or.inr ⟨log, member, rfl⟩

theorem namesLive_frame (before : NamesLive trace) :
    NamesLive (trace ++ frameEvents channels logs) ↔
      ∀ log ∈ logs, (channels log.channelNumber).isSome = true := by
  constructor
  · intro names log member
    apply names log _ _ (List.mem_append_right _ _)
    · exact contains (ackLogs channels logs).1 log
    · exact mem_frameEvents.mpr ⟨member, rfl, rfl⟩
  · intro live log isLive contained member
    rcases List.mem_append.mp member with earlier | now
    · exact before log isLive contained earlier
    · obtain ⟨inFrame, rfl, _⟩ := mem_frameEvents.mp now
      exact live log inFrame

theorem Serves.get (serves : Serves trace manager) {logs : List MessageLog}
    {frames : List (List MessageLog)} (running : manager.running = true) :
    Serves (trace ++ frameEvents manager.channels logs)
      { manager with
        channels := (ackLogs manager.channels logs).1
        channelQueue := frames
        running := (ackLogs manager.channels logs).2 } := by
  have before := serves.runs.mp running
  have live : NamesLive (trace ++ frameEvents manager.channels logs) ↔ _ :=
    namesLive_frame before
  constructor
  · exact serves.wf.ackLogs
  · exact ackLogs_completes_iff.trans live.symm
  · intro names log isLive contained member isLiveEq
    rcases List.mem_append.mp member with earlier | now
    · exact serves.adds before log isLive contained earlier isLiveEq
    · obtain ⟨inFrame, _, rfl⟩ := mem_frameEvents.mp now
      exact serves.wf.contains_of_live (live.mp names) log inFrame

theorem Serves.step (serves : Serves trace manager)
    (stepped : step manager action = some (next, events)) :
    Serves (trace ++ events) next := by
  cases action with
  | put sessionKey logs =>
      cases stepped
      exact serves.quiet (by simp) serves.wf rfl
  | get =>
      simp only [PushManager.step] at stepped
      split at stepped
      · rename_i logs frames running _
        cases stepped
        exact serves.get running
      · cases stepped
  | connect =>
      cases stepped
      exact serves.quiet (by simp)
        (serves.wf.update _ ⟨[], AckQueue.new_wf⟩) rfl
  | disconnect number =>
      simp only [PushManager.step] at stepped
      split at stepped
      · cases stepped
      · cases stepped
        exact serves.quiet (by simp) (serves.wf.remove number) rfl
  | channel number action =>
      simp only [PushManager.step] at stepped
      split at stepped
      · cases stepped
      · rename_i channel found
        split at stepped
        · cases stepped
        · rename_i later channelEvents channelStepped
          cases stepped
          have moved := PushChannel.step_moved channelStepped
          apply serves.quiet (by simp)
          · exact serves.wf.update number
              (moved.wf (serves.wf number channel found))
          · rfl

/-- In every run the task goes on and adds every log that names a channel,
exactly if every log that it takes names a channel. -/
theorem ackToRpc_serves_iff (run : AnyRun step {} trace manager) :
    manager.running = true ∧ AddsLive trace ↔ NamesLive trace := by
  have serves : Serves trace manager := by
    apply run.invariant
    · exact ⟨nofun, ⟨fun _ => nofun, fun _ => rfl⟩, fun _ => nofun⟩
    · intro trace events manager next action serves _ stepped
      exact serves.step stepped
  constructor
  · intro holds
    exact serves.runs.mp holds.1
  · intro names
    exact ⟨serves.runs.mpr names, serves.adds names⟩

/-- The task handles a frame for two channels. -/
theorem ackToRpc_serves_two_channels :
    ∃ trace manager, AnyRun step {} trace manager ∧
      trace ≠ [] ∧ (manager.running = true ∧ AddsLive trace) := by
  have executed : (exec step (fun _ _ => True) {}
      [.connect, .connect, .put 6 [⟨1, 4⟩, ⟨0, 2⟩], .get]).map Prod.snd =
      some [.arrived 6 [⟨1, 4⟩, ⟨0, 2⟩], .channel 1 (.added 4),
        .channel 0 (.added 2), .handled ⟨1, 4⟩ true true,
        .handled ⟨0, 2⟩ true true] := by
    decide
  obtain ⟨manager, run⟩ := Run.exists_of_exec executed
  refine ⟨_, manager, run, by simp, (ackToRpc_serves_iff run).mpr ?_⟩
  intro log live contained member
  simp at member
  rcases member with ⟨_, rfl, _⟩ | ⟨_, rfl, _⟩
  · rfl
  · rfl

/-- A log of a removed channel ends the task before it reaches a log of a
live channel in the same frame. -/
theorem removed_channel_ends_loop :
    ∃ trace manager, AnyRun step {} trace manager ∧
      ¬ (manager.running = true ∧ AddsLive trace) := by
  have executed : (exec step (fun _ _ => True) {}
      [.connect, .connect, .disconnect 0, .put 6 [⟨0, 2⟩, ⟨1, 4⟩],
        .get]).map Prod.snd =
      some [.arrived 6 [⟨0, 2⟩, ⟨1, 4⟩], .handled ⟨0, 2⟩ false false,
        .handled ⟨1, 4⟩ true false] := by
    decide
  obtain ⟨manager, run⟩ := Run.exists_of_exec executed
  refine ⟨_, manager, run, ?_⟩
  rintro ⟨_, adds⟩
  have added := adds ⟨1, 4⟩ true false (by simp) rfl
  cases added

end PushManager

end Push

end TinyChat
