import TinyChat.Push.Channel

/-!
# Waking up the generator

`ack_to_rpc` starts a timer that sets the result of the waiter, the kick
handler sets it at once, and the other push handlers leave it to somebody
else.  The generator is woken up for every id unless one of the latter adds
an id when nobody has taken care of the waiter; the kick handler must not
find the waiter done.
-/

namespace TinyChat

namespace Push

open Transition

namespace PushChannel

variable {channel next : PushChannel} {action : ChannelAction}
  {trace events : List ChannelEvent}

/-- The generator is about to wake up, or the timer that wakes it up is
running. -/
def Signalled (channel : PushChannel) : Prop :=
  channel.ackWaiter = true ∨ channel.cancelWritingWaiter = true ∨
    ∃ timer ∈ channel.armed, channel.ackTriggerHandle = some timer

instance (channel : PushChannel) : Decidable channel.Signalled :=
  inferInstanceAs (Decidable (_ ∨ _ ∨ ∃ timer ∈ channel.armed, _))

/-- An id of a user without a session is added to a waiting channel only if
the generator is woken up anyway, and a kick is confirmed only if the waiter
is not done. -/
def HandlesWaiter (channel : PushChannel) : ChannelAction → Prop
  | .offline _ => channel.feedback = .waiting → channel.Signalled
  | .kicked _ => channel.ackWaiter = false
  | .wake => True
  | .resume => True
  | .ackLog _ => True
  | .fire _ => True
  | .cancelWriting => True
  | .dropGenerator => True

instance (channel : PushChannel) :
    ∀ action, Decidable (channel.HandlesWaiter action)
  | .offline _ =>
      inferInstanceAs (Decidable (_ → channel.Signalled))
  | .kicked _ => inferInstanceAs (Decidable (channel.ackWaiter = false))
  | .wake => .isTrue trivial
  | .resume => .isTrue trivial
  | .ackLog _ => .isTrue trivial
  | .fire _ => .isTrue trivial
  | .cancelWriting => .isTrue trivial
  | .dropGenerator => .isTrue trivial

/-- The handle belongs to a timer that is running or has set the waiter. -/
def Triggered (channel : PushChannel) : Prop :=
  ∀ timer, channel.ackTriggerHandle = some timer →
    timer ∈ channel.armed ∨ channel.ackWaiter = true

/-- A channel that waits with ids in its queue will be woken up. -/
def Awaited (channel : PushChannel) : Prop :=
  channel.feedback = .waiting → channel.ackQueue.len ≠ 0 →
    channel.Signalled

theorem clear_len (queue : AckQueue) : queue.clear.len = 0 := by
  unfold AckQueue.clear AckQueue.len
  split
  · assumption
  · rfl

theorem endPass_awaited (ended : channel.endPass = (next, events)) :
    (next.Triggered ∧ next.Awaited) ∧ .invalidState ∉ events := by
  have cleared := clear_len channel.ackQueue
  unfold endPass at ended
  dsimp only at ended
  split at ended
  · cases ended
    refine ⟨⟨nofun, ?_⟩, by simp⟩
    intro _ nonempty
    exact absurd cleared nonempty
  · cases ended
    refine ⟨⟨nofun, ?_⟩, by simp⟩
    intro _ nonempty
    exact absurd cleared nonempty

theorem visit_awaited (triggered : channel.Triggered) {node : Option Ref}
    {remaining : Nat} {yielded : List (Int × Int)}
    (visited : channel.visit node remaining yielded = (next, events)) :
    (next.Triggered ∧ next.Awaited) ∧ .invalidState ∉ events := by
  unfold visit at visited
  split at visited
  · cases visited
    exact ⟨⟨triggered, nofun⟩, by simp⟩
  · dsimp only at visited
    split at visited
    · cases visited
      exact ⟨⟨triggered, nofun⟩, by simp⟩
    · cases visited
      exact ⟨⟨triggered, nofun⟩, by simp⟩

theorem iterate_awaited (triggered : channel.Triggered) {node : Option Ref}
    {remaining : Nat} {yielded : List (Int × Int)}
    (iterated : channel.iterate node yielded remaining = (next, events)) :
    (next.Triggered ∧ next.Awaited) ∧ .invalidState ∉ events := by
  cases remaining with
  | zero => exact endPass_awaited iterated
  | succ remaining => exact visit_awaited triggered iterated

/-- A log starts the timer unless it is already running or has fired. -/
theorem Triggered.ackLog (triggered : channel.Triggered)
    (deliveryId : Nat) :
    (channel.ackLog deliveryId).Triggered ∧
      (channel.ackLog deliveryId).Signalled := by
  unfold PushChannel.ackLog addAck
  dsimp only
  split
  · rename_i timer started
    refine ⟨triggered, ?_⟩
    rcases triggered timer started with running | done
    · exact Or.inr (Or.inr ⟨timer, running, started⟩)
    · exact Or.inl done
  · constructor
    · intro timer started
      cases started
      exact Or.inl List.mem_cons_self
    · exact Or.inr (Or.inr ⟨_, List.mem_cons_self, rfl⟩)

theorem ackCb_ackWaiter : channel.ackCb.ackWaiter = true := by
  unfold ackCb
  split
  · assumption
  · rfl

theorem awaited_step (triggered : channel.Triggered)
    (handles : channel.HandlesWaiter action)
    (stepped : step channel action = some (next, events)) :
    (next.Triggered ∧ next.Awaited) ∧ .invalidState ∉ events := by
  cases action with
  | wake =>
      simp only [step] at stepped
      split at stepped
      · split at stepped
        · exact iterate_awaited triggered (Option.some.inj stepped)
        · cases stepped
      · cases stepped
  | resume =>
      simp only [step] at stepped
      split at stepped
      · exact iterate_awaited triggered (Option.some.inj stepped)
      · cases stepped
  | ackLog deliveryId =>
      cases stepped
      obtain ⟨triggered, signalled⟩ := triggered.ackLog deliveryId
      exact ⟨⟨triggered, fun _ _ => signalled⟩, by simp⟩
  | fire timer =>
      simp only [step] at stepped
      split at stepped
      · cases stepped
        refine ⟨⟨?_, ?_⟩, by simp⟩
        · intro _ _
          exact Or.inr ackCb_ackWaiter
        · intro _ _
          exact Or.inl ackCb_ackWaiter
      · cases stepped
  | offline deliveryId =>
      cases stepped
      refine ⟨⟨triggered, ?_⟩, by simp⟩
      intro waiting _
      exact handles waiting
  | kicked deliveryId =>
      simp only [HandlesWaiter] at handles
      simp only [step, confirmKick, addAck, handles] at stepped
      cases stepped
      refine ⟨⟨fun _ _ => Or.inr rfl, fun _ _ => Or.inl rfl⟩, by simp⟩
  | cancelWriting =>
      cases stepped
      refine ⟨⟨triggered, ?_⟩, by simp⟩
      intro _ _
      exact Or.inr (Or.inl rfl)
  | dropGenerator =>
      cases stepped
      exact ⟨⟨triggered, nofun⟩, by simp⟩

/-- In every run in which the push handlers take care of the waiter, a
waiting generator is woken up for what is in the queue, and no handler sets
the result of a waiter that is done. -/
theorem awaited_run (run : Run step HandlesWaiter {} trace channel) :
    channel.Awaited ∧ .invalidState ∉ trace := by
  have holds : (channel.Triggered ∧ channel.Awaited) ∧
      .invalidState ∉ trace := by
    apply run.invariant
    · exact ⟨⟨nofun, fun _ nonempty => absurd rfl nonempty⟩, nofun⟩
    · intro trace events channel next action holds handles stepped
      obtain ⟨⟨triggered, _⟩, valid⟩ := holds
      have stepped := awaited_step triggered handles stepped
      refine ⟨stepped.1, ?_⟩
      intro invalid
      rcases List.mem_append.mp invalid with earlier | now
      · exact valid earlier
      · exact stepped.2 now
  exact ⟨holds.1.2, holds.2⟩

/-- An id of a user without a session joins the ids of a log. -/
theorem awaited_run_logged :
    ∃ trace channel, Run step HandlesWaiter {} trace channel ∧
      channel.feedback = .waiting ∧ channel.ackQueue.len ≠ 0 ∧
      channel.Signalled ∧ .invalidState ∉ trace := by
  have ran : ∃ trace channel, Run step HandlesWaiter {} trace channel ∧
      (channel.feedback = .waiting ∧ channel.ackQueue.len ≠ 0) := by
    apply Run.exists_state_of_exec
      [.kicked 7, .wake, .resume, .ackLog 1, .offline 5]
    decide
  obtain ⟨trace, channel, run, waiting, nonempty⟩ := ran
  obtain ⟨awaited, valid⟩ := awaited_run run
  exact ⟨trace, channel, run, waiting, nonempty, awaited waiting nonempty,
    valid⟩

/-- Nobody wakes up the generator for the id of a user without a session; two
kicks set the result of the waiter twice. -/
theorem unsignalled_or_invalid :
    (∃ trace channel, AnyRun step {} trace channel ∧ ¬ channel.Awaited) ∧
      ∃ trace channel, AnyRun step {} trace channel ∧
        .invalidState ∈ trace := by
  constructor
  · have ran : ∃ trace channel, AnyRun step {} trace channel ∧
        (channel.feedback = .waiting ∧ channel.ackQueue.len ≠ 0 ∧
          ¬ channel.Signalled) := by
      apply Run.exists_state_of_exec [.offline 1]
      decide
    obtain ⟨trace, channel, run, waiting, nonempty, missed⟩ := ran
    refine ⟨trace, channel, run, ?_⟩
    intro awaited
    exact missed (awaited waiting nonempty)
  · have executed : (exec step (fun _ _ => True) {}
        [.kicked 1, .kicked 2]).map Prod.snd =
        some [.added 1, .added 2, .invalidState] := by
      decide
    obtain ⟨channel, run⟩ := Run.exists_of_exec executed
    exact ⟨_, channel, run, by decide⟩

end PushChannel

end Push

end TinyChat
