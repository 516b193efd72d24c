import TinyChat.Push.AckLoop

/-!
# Where the ids of a range come from

Whatever happens to the list under the generator, a span holds only ids that
were added to its queue.  So every range that a channel yields consists of
ids that somebody has added to this channel.
-/

namespace TinyChat

namespace AckQueue

variable {queue queue' : AckQueue} {nodes nodes' : List Ref}
  {known : Int → Prop}

/-- The spans of all nodes, also of those that are not on the list, hold only
integers of a given kind. -/
def OnlyHolds (known : Int → Prop) (queue : AckQueue) : Prop :=
  ∀ ref value, (queue.heap ref).start ≤ value →
    value < (queue.heap ref).end_ → known value

theorem new_onlyHolds (sentinel : known (-1)) : OnlyHolds known new := by
  intro ref value lower upper
  simp only [new] at lower upper
  rw [show value = -1 by omega]
  exact sentinel

theorem OnlyHolds.mono {more : Int → Prop} (holds : OnlyHolds known queue)
    (implies : ∀ value, known value → more value) :
    OnlyHolds more queue := by
  intro ref value lower upper
  exact implies value (holds ref value lower upper)

theorem OnlyHolds.clear (holds : OnlyHolds known queue) :
    OnlyHolds known queue.clear := by
  unfold AckQueue.clear
  split
  · exact holds
  · intro ref value lower upper
    simp only [Heap.setPrev_apply, Heap.setNext_apply] at lower upper
    exact holds ref value lower upper

/-- `add` puts its argument, and nothing else, into the spans. -/
theorem OnlyHolds.added (holds : OnlyHolds known queue)
    (wf : Wf queue nodes) {start : Int} (isKnown : known start)
    (added : Added queue nodes start queue' nodes') :
    OnlyHolds known queue' := by
  intro ref value lower upper
  cases added with
  | ignored negative => exact holds ref value lower upper
  | @merged front rest leftSpan rightSpan nonneg split foundLeft foundRight =>
      obtain ⟨_, endEq⟩ := wf.rightTable start leftSpan foundLeft
      obtain ⟨_, startEq⟩ := wf.leftTable (start + 1) rightSpan foundRight
      simp only [AckQueue.addMerge, Heap.setEnd_apply, Heap.setPrev_apply,
        Heap.setNext_apply] at lower upper
      split_ifs at upper with isLeft
      · subst isLeft
        rcases lt_trichotomy value start with below | same | above
        · exact holds ref value lower (by omega)
        · rw [same]
          exact isKnown
        · exact holds rightSpan value (by omega) upper
      · exact holds ref value lower upper
  | @grownRight leftSpan nonneg foundLeft foundRight =>
      obtain ⟨_, endEq⟩ := wf.rightTable start leftSpan foundLeft
      simp only [AckQueue.addLeft, Heap.setEnd_apply] at lower upper
      split_ifs at upper with isLeft
      · subst isLeft
        by_cases same : value = start
        · rw [same]
          exact isKnown
        · exact holds ref value lower (by omega)
      · exact holds ref value lower upper
  | @grownLeft rightSpan nonneg foundLeft foundRight =>
      obtain ⟨_, startEq⟩ := wf.leftTable (start + 1) rightSpan foundRight
      simp only [AckQueue.addRight, Heap.setStart_apply] at lower upper
      split_ifs at lower with isRight
      · subst isRight
        by_cases same : value = start
        · rw [same]
          exact isKnown
        · exact holds ref value (by omega) upper
      · exact holds ref value lower upper
  | listed nonneg foundLeft foundRight =>
      rw [wf.addNew_start] at lower
      rw [wf.addNew_end] at upper
      split_ifs at lower upper with isNew
      · rw [show value = start by omega]
        exact isKnown
      · exact holds ref value lower upper

end AckQueue

namespace Push

variable {channels : Channels} {known more : Int → Int → Prop}

/-- The queue of every channel is well-formed and holds only ids that are
known for the number of the channel. -/
def Known (known : Int → Int → Prop) (channels : Channels) : Prop :=
  ∀ number channel, channels number = some channel →
    (∃ nodes, AckQueue.Wf channel.ackQueue nodes) ∧
      AckQueue.OnlyHolds (known number) channel.ackQueue

theorem Known.mono (holds : Known known channels)
    (implies : ∀ number value, known number value → more number value) :
    Known more channels := by
  intro number channel found
  obtain ⟨wf, only⟩ := holds number channel found
  exact ⟨wf, only.mono (implies number)⟩

theorem Known.update (holds : Known known channels) {number : Int}
    {channel : PushChannel}
    (wf : ∃ nodes, AckQueue.Wf channel.ackQueue nodes)
    (only : AckQueue.OnlyHolds (known number) channel.ackQueue) :
    Known known (Function.update channels number (some channel)) := by
  intro other found listed
  rw [Function.update_apply] at listed
  split at listed
  · rename_i same
    cases listed
    subst same
    exact ⟨wf, only⟩
  · exact holds other found listed

theorem Known.remove (holds : Known known channels) (number : Int) :
    Known known (Function.update channels number none) := by
  intro other found listed
  rw [Function.update_apply] at listed
  split at listed
  · cases listed
  · exact holds other found listed

/-- A step of a channel puts only the ids that it adds into the queue, and
yields only what the queue holds. -/
theorem PushChannel.Moved.onlyHolds {channel next : PushChannel}
    {action : ChannelAction} {events : List ChannelEvent}
    {known : Int → Prop} (moved : Moved channel action next events)
    (wf : ∃ nodes, AckQueue.Wf channel.ackQueue nodes)
    (holds : AckQueue.OnlyHolds known channel.ackQueue)
    (knows : ∀ deliveryId : Nat, .added deliveryId ∈ events →
      known deliveryId) :
    AckQueue.OnlyHolds known next.ackQueue ∧
      ∀ node start end_, .feedback node start end_ true ∈ events →
        0 ≤ start ∧ ∀ value, start ≤ value → value < end_ →
          known value := by
  obtain ⟨nodes, wf⟩ := wf
  cases moved with
  | ended position queue phase =>
      refine ⟨queue ▸ holds.clear, ?_⟩
      simp
  | @yielded ref remaining yielded start end_ position startEq endEq
      encodable queue phase =>
      refine ⟨queue ▸ holds, ?_⟩
      intro node _ _ member
      simp only [List.mem_singleton] at member
      cases member
      refine ⟨encodable.1.1, ?_⟩
      intro value lower upper
      exact holds ref value (startEq ▸ lower) (endEq ▸ upper)
  | refused position startEq endEq queue phase =>
      refine ⟨queue ▸ holds, ?_⟩
      simp
  | @added deliveryId rest adds queue phase tail =>
      obtain ⟨nodes', added⟩ := wf.add_cases deliveryId
      have isKnown := knows deliveryId List.mem_cons_self
      refine ⟨queue ▸ holds.added wf isKnown added, ?_⟩
      rcases tail with rfl | rfl
      · simp
      · simp
  | idle queue phase =>
      refine ⟨queue ▸ holds, ?_⟩
      simp

theorem reachedLogs_cons {log : MessageLog} {logs : List MessageLog}
    {channel : PushChannel}
    (found : channels log.channelNumber = some channel) :
    reachedLogs channels (log :: logs) =
      log :: reachedLogs
        (Function.update channels log.channelNumber
          (some (channel.ackLog log.deliveryId))) logs := by
  have live : (channels log.channelNumber).isSome := by simp [found]
  simp only [reachedLogs, List.takeWhile_cons, live, if_true,
    isSome_update live]

/-- A frame adds only the logs that its loop reaches. -/
theorem Known.ackLogs (holds : Known known channels)
    {logs : List MessageLog}
    (knows : ∀ log ∈ reachedLogs channels logs,
      known log.channelNumber log.deliveryId) :
    Known known (ackLogs channels logs).1 := by
  induction logs generalizing channels with
  | nil => exact holds
  | cons log logs induction =>
      cases found : channels log.channelNumber with
      | none =>
          simp only [Push.ackLogs, found]
          exact holds
      | some channel =>
          simp only [Push.ackLogs, found]
          rw [reachedLogs_cons found, List.forall_mem_cons] at knows
          obtain ⟨⟨nodes, wf⟩, only⟩ := holds log.channelNumber channel found
          obtain ⟨nodes', added⟩ := wf.add_cases log.deliveryId
          apply induction _ knows.2
          apply holds.update
          · rw [PushChannel.ackLog_ackQueue]
            exact ⟨nodes', wf.added added⟩
          · rw [PushChannel.ackLog_ackQueue]
            exact only.added wf knows.1 added

namespace PushManager

variable {manager next : PushManager} {action : ManagerAction}
  {events : List ManagerEvent}

/-- A step of a gateway puts only the ids that it adds into the queues, and
yields only what the queues hold. -/
theorem known_step (holds : Known known manager.channels)
    (sentinel : ∀ number, known number (-1))
    (knows : ∀ number (deliveryId : Nat),
      .channel number (.added deliveryId) ∈ events →
        known number deliveryId)
    (stepped : step manager action = some (next, events)) :
    Known known next.channels ∧
      ∀ number node start end_,
        .channel number (.feedback node start end_ true) ∈ events →
        0 ≤ start ∧ ∀ value, start ≤ value → value < end_ →
          known number value := by
  cases action with
  | put sessionKey logs =>
      cases stepped
      exact ⟨holds, by simp⟩
  | get =>
      simp only [step] at stepped
      split at stepped
      · rename_i logs frames running _
        cases stepped
        constructor
        · apply holds.ackLogs
          intro log member
          apply knows
          exact List.mem_append_left _ (List.mem_map.mpr ⟨log, member, rfl⟩)
        · intro number node start end_ member
          simp [frameEvents] at member
      · cases stepped
  | connect =>
      cases stepped
      refine ⟨holds.update ⟨[], AckQueue.new_wf⟩ ?_, by simp⟩
      exact AckQueue.new_onlyHolds (sentinel _)
  | disconnect number =>
      simp only [step] at stepped
      split at stepped
      · cases stepped
      · cases stepped
        exact ⟨holds.remove number, by simp⟩
  | channel number action =>
      simp only [step] at stepped
      split at stepped
      · cases stepped
      · rename_i channel found
        split at stepped
        · cases stepped
        · rename_i later channelEvents channelStepped
          cases stepped
          have moved := PushChannel.step_moved channelStepped
          obtain ⟨wf, only⟩ := holds number channel found
          have channelKnows : ∀ deliveryId : Nat,
              .added deliveryId ∈ channelEvents →
                known number deliveryId := by
            intro deliveryId member
            exact knows number deliveryId
              (List.mem_map.mpr ⟨_, member, rfl⟩)
          obtain ⟨after, yields⟩ := moved.onlyHolds wf only channelKnows
          refine ⟨holds.update (moved.wf wf) after, ?_⟩
          intro other node start end_ member
          obtain ⟨event, inChannel, same⟩ := List.mem_map.mp member
          cases same
          exact yields node start end_ inChannel

end PushManager

end Push

end TinyChat
