import TinyChat.Push.Channel

/-!
# The steps of a push channel

What a step can do to the queue and to the generator, with the tests that
select it.  The properties of the channel are derived from this list.
-/

namespace TinyChat

namespace Push

namespace PushChannel

variable {channel next : PushChannel} {action : ChannelAction}
  {events : List ChannelEvent}

/-- The node that the iterator would hand out, what the pass has yielded and
how many steps are left. -/
inductive Position (channel : PushChannel) :
    Option Ref → List (Int × Int) → Nat → Prop where
  | first : channel.feedback = .waiting →
      Position channel (channel.ackQueue.heap AckQueue.spanRoot).next []
        channel.ackQueue.cnt
  | after {node : Ref} {remaining : Nat} {yielded : List (Int × Int)} :
      channel.feedback = .walking node remaining yielded →
      Position channel (channel.ackQueue.heap node).next yielded remaining

/-- The id that an action adds. -/
def addedBy : ChannelAction → Option Nat
  | .ackLog deliveryId => some deliveryId
  | .offline deliveryId => some deliveryId
  | .kicked deliveryId => some deliveryId
  | .wake => none
  | .resume => none
  | .fire _ => none
  | .cancelWriting => none
  | .dropGenerator => none

/-- Everything that a step can do to the queue and the generator. -/
inductive Moved (channel : PushChannel) (action : ChannelAction)
    (next : PushChannel) : List ChannelEvent → Prop where
  | ended {node : Option Ref} {yielded : List (Int × Int)} :
      channel.Position node yielded 0 →
      next.ackQueue = channel.ackQueue.clear →
      next.feedback = .waiting ∨ next.feedback = .exhausted →
      Moved channel action next [.cleared]
  | yielded {ref : Ref} {remaining : Nat} {yielded : List (Int × Int)}
      {start end_ : Int} :
      channel.Position (some ref) yielded (remaining + 1) →
      (channel.ackQueue.heap ref).start = start →
      (channel.ackQueue.heap ref).end_ = end_ →
      Encodable start end_ →
      next.ackQueue = channel.ackQueue →
      next.feedback =
        .walking ref remaining (yielded ++ [(start, end_)]) →
      Moved channel action next [.feedback ref start end_ true]
  | refused {ref : Ref} {remaining : Nat} {yielded : List (Int × Int)}
      {start end_ : Int} :
      channel.Position (some ref) yielded (remaining + 1) →
      (channel.ackQueue.heap ref).start = start →
      (channel.ackQueue.heap ref).end_ = end_ →
      next.ackQueue = channel.ackQueue →
      next.feedback = .stopped →
      Moved channel action next [.feedback ref start end_ false]
  | added {deliveryId : Nat} {rest : List ChannelEvent} :
      addedBy action = some deliveryId →
      next.ackQueue = channel.ackQueue.add deliveryId →
      next.feedback = channel.feedback →
      rest = [] ∨ rest = [.invalidState] →
      Moved channel action next (.added deliveryId :: rest)
  | idle : next.ackQueue = channel.ackQueue →
      next.feedback = channel.feedback ∨ next.feedback = .stopped →
      Moved channel action next []

theorem endPass_moved {node : Option Ref} {yielded : List (Int × Int)}
    (position : channel.Position node yielded 0)
    (stepped : channel.endPass = (next, events)) :
    Moved channel action next events := by
  unfold endPass at stepped
  dsimp only at stepped
  split at stepped
  · cases stepped
    exact .ended position rfl (Or.inr rfl)
  · cases stepped
    exact .ended position rfl (Or.inl rfl)

theorem visit_moved {node : Option Ref} {yielded : List (Int × Int)}
    {remaining : Nat}
    (position : channel.Position node yielded (remaining + 1))
    (stepped : channel.visit node remaining yielded = (next, events)) :
    Moved channel action next events := by
  unfold visit at stepped
  split at stepped
  · cases stepped
    exact .idle rfl (Or.inr rfl)
  · dsimp only at stepped
    split at stepped
    · rename_i encodable
      cases stepped
      exact .yielded position rfl rfl encodable rfl rfl
    · cases stepped
      exact .refused position rfl rfl rfl rfl

theorem iterate_moved {node : Option Ref} {yielded : List (Int × Int)}
    {remaining : Nat} (position : channel.Position node yielded remaining)
    (stepped : channel.iterate node yielded remaining = (next, events)) :
    Moved channel action next events := by
  cases remaining with
  | zero => exact endPass_moved position stepped
  | succ remaining => exact visit_moved position stepped

@[simp] theorem ackLog_ackQueue (deliveryId : Nat) :
    (channel.ackLog deliveryId).ackQueue =
      channel.ackQueue.add deliveryId := by
  unfold ackLog addAck
  dsimp only
  split <;> rfl

@[simp] theorem ackLog_feedback (deliveryId : Nat) :
    (channel.ackLog deliveryId).feedback = channel.feedback := by
  unfold ackLog addAck
  dsimp only
  split <;> rfl

@[simp] theorem ackCb_ackQueue :
    channel.ackCb.ackQueue = channel.ackQueue := by
  unfold ackCb
  split <;> rfl

@[simp] theorem ackCb_feedback :
    channel.ackCb.feedback = channel.feedback := by
  unfold ackCb
  split <;> rfl

theorem step_moved (stepped : step channel action = some (next, events)) :
    Moved channel action next events := by
  cases action with
  | wake =>
      simp only [step] at stepped
      split at stepped
      · rename_i waiting
        split at stepped
        · exact iterate_moved (.first waiting) (Option.some.inj stepped)
        · cases stepped
      · cases stepped
  | resume =>
      simp only [step] at stepped
      split at stepped
      · rename_i node remaining yielded walking
        exact iterate_moved (.after walking) (Option.some.inj stepped)
      · cases stepped
  | ackLog deliveryId =>
      cases stepped
      exact .added rfl (ackLog_ackQueue _) (ackLog_feedback _) (Or.inl rfl)
  | fire timer =>
      simp only [step] at stepped
      split at stepped
      · cases stepped
        exact .idle ackCb_ackQueue (Or.inl ackCb_feedback)
      · cases stepped
  | offline deliveryId =>
      cases stepped
      exact .added rfl rfl rfl (Or.inl rfl)
  | kicked deliveryId =>
      simp only [step, confirmKick] at stepped
      split at stepped
      · cases stepped
        exact .added rfl rfl rfl (Or.inr rfl)
      · cases stepped
        exact .added rfl rfl rfl (Or.inl rfl)
  | cancelWriting =>
      cases stepped
      exact .idle rfl (Or.inl rfl)
  | dropGenerator =>
      cases stepped
      exact .idle rfl (Or.inr rfl)

theorem iterate_refused {node : Option Ref} {yielded : List (Int × Int)}
    {remaining : Nat} {ref : Ref} {start end_ : Int}
    (refused : .feedback ref start end_ false ∈
      (channel.iterate node yielded remaining).2) :
    ¬ Encodable start end_ := by
  cases remaining with
  | zero =>
      simp only [iterate, endPass] at refused
      split at refused <;> simp at refused
  | succ remaining =>
      simp only [iterate, visit] at refused
      split at refused
      · cases refused
      · split at refused
        · simp at refused
        · rename_i unencodable
          simp only [List.mem_singleton, ChannelEvent.feedback.injEq,
            and_true] at refused
          rw [refused.2.1, refused.2.2]
          exact unencodable

theorem step_refused (stepped : step channel action = some (next, events))
    {ref : Ref} {start end_ : Int}
    (refused : .feedback ref start end_ false ∈ events) :
    ¬ Encodable start end_ := by
  cases action with
  | wake =>
      simp only [step] at stepped
      split at stepped
      · split at stepped
        · apply iterate_refused
          rw [Option.some.inj stepped]
          exact refused
        · cases stepped
      · cases stepped
  | resume =>
      simp only [step] at stepped
      split at stepped
      · apply iterate_refused
        rw [Option.some.inj stepped]
        exact refused
      · cases stepped
  | ackLog deliveryId =>
      cases stepped
      simp at refused
  | fire timer =>
      simp only [step] at stepped
      split at stepped
      · cases stepped
        cases refused
      · cases stepped
  | offline deliveryId =>
      cases stepped
      simp at refused
  | kicked deliveryId =>
      simp only [step, confirmKick] at stepped
      split at stepped
      · cases stepped
        simp at refused
      · cases stepped
        simp at refused
  | cancelWriting =>
      cases stepped
      cases refused
  | dropGenerator =>
      cases stepped
      cases refused

/-- Only the action that adds an id reports it. -/
theorem Moved.addedBy_eq (moved : Moved channel action next events)
    {deliveryId : Nat} (member : .added deliveryId ∈ events) :
    addedBy action = some deliveryId := by
  cases moved with
  | ended position queue phase => simp at member
  | yielded position start end_ encodable queue phase => simp at member
  | refused position start end_ queue phase => simp at member
  | added adds queue phase tail =>
      rcases tail with rfl | rfl
      · simp only [List.mem_singleton] at member
        cases member
        exact adds
      · simp only [List.mem_cons, List.not_mem_nil, or_false] at member
        rcases member with first | second
        · cases first
          exact adds
        · cases second
  | idle queue phase => cases member

end PushChannel

end Push

end TinyChat
