import TinyChat.Front.UserSession
import TinyChat.Worker.Convergence

/-!
# Redelivery after a restart

A worker that restarts has an empty cache and the values that the former one
left in Redis; the broker delivers messages again.  Whether it recognises
them depends on the numbering of the client: the watermark stops at the first
id that was not the id of a message.
-/

namespace TinyChat

namespace Worker

namespace Pacer

open Transition

/-- A restarted worker to which only the given ids are delivered, whose reads
from Redis succeed, and in which no call resumes with an outdated value. -/
def Redelivers (sent : List Int) (pacer : Pacer) : PacerAction → Prop
  | .filterOrNot deliveryId _ => deliveryId ∈ sent
  | .wake index => WakesUpToDate pacer (.wake index)
  | .getReply success => success = true
  | .onHandledNewItem deliveryId => deliveryId ∈ pacer.unfinished
  | .setReply _ => True
  | .external _ => False

def Ignores : PacerEvent → Prop
  | .classified _ _ state => state = .canIgnore
  | _ => True

section

variable {sent : List Int} {value : Int} {pacer next : Pacer}
  {action : PacerAction} {trace events : List PacerEvent}

/-- Nothing was accepted yet, and the watermark is what Redis has. -/
structure Replaying (sent : List Int) (value : Int) (pacer : Pacer) :
    Prop where
  redis : pacer.redis.getD 1 = value
  next : pacer.info.initialized → pacer.info.nextDeliveryId = value
  finished : pacer.unfinished = []
  within : Within sent pacer
  filters : ∀ stored, .store stored ∉ pacer.info.lock.tasks

theorem Replaying.accepts_none (replaying : Replaying sent value pacer)
    (above : ∀ deliveryId ∈ sent, deliveryId < value) {deliveryId : Int}
    (ready : pacer.info.initialized) (member : deliveryId ∈ sent) :
    ¬ pacer.info.nextDeliveryId ≤ deliveryId := by
  rw [replaying.next ready]
  exact not_le_of_gt (above deliveryId member)

theorem Replaying.unreported (replaying : Replaying sent value pacer)
    (deliveryId : Int) :
    ¬ Redelivers sent pacer (.onHandledNewItem deliveryId) := by
  intro member
  simp only [Redelivers, replaying.finished] at member
  cases member

/-- A step of the restarted worker accepts nothing and stores nothing. -/
theorem Replaying.ignores (replaying : Replaying sent value pacer)
    (above : ∀ deliveryId ∈ sent, deliveryId < value)
    (redelivers : Redelivers sent pacer action)
    (moved : Moved pacer action next events) :
    ∀ event ∈ events, Ignores event := by
  have within := replaying.within.tasks
  cases moved with
  | ignored =>
      intro event member
      rw [List.mem_singleton.mp member]
      rfl
  | wokenIgnored =>
      intro event member
      rw [List.mem_singleton.mp member]
      rfl
  | accepted ready fresh =>
      exact absurd fresh (replaying.accepts_none above ready redelivers)
  | wokenAccepted resumed ready fresh absent =>
      have current :=
        wokenAccepted_upToDate redelivers resumed ready fresh absent
      have member := within _ _ _ (AsyncLock.mem_tasks_of_resumed resumed)
      exact absurd current (replaying.accepts_none above ready member)
  | wokenStoring resumed =>
      exact absurd (AsyncLock.mem_tasks_of_resumed resumed)
        (replaying.filters _)
  | loadFailed => cases redelivers
  | loadIgnored =>
      intro event member
      simp only [List.mem_cons, List.not_mem_nil, or_false] at member
      rcases member with rfl | rfl
      · trivial
      · rfl
  | loadAccepted held fresh =>
      have member := within _ _ _ (AsyncLock.mem_tasks_of_held held)
      rw [replaying.redis] at fresh
      exact absurd fresh (not_le_of_gt (above _ member))
  | handledOther => exact absurd redelivers (replaying.unreported _)
  | handledStoring => exact absurd redelivers (replaying.unreported _)
  | handledWaiting => exact absurd redelivers (replaying.unreported _)
  | external => exact absurd redelivers not_false
  | _ =>
      intro event member
      cases member

theorem Replaying.moved (replaying : Replaying sent value pacer)
    (above : ∀ deliveryId ∈ sent, deliveryId < value)
    (redelivers : Redelivers sent pacer action)
    (moved : Moved pacer action next events) :
    Replaying sent value next := by
  have ignores := replaying.ignores above redelivers moved
  refine ⟨?_, ?_, ?_, ?_, ?_⟩
  · cases moved with
    | stored held =>
        exact absurd (AsyncLock.mem_tasks_of_held held) (replaying.filters _)
    | external => exact absurd redelivers not_false
    | _ => exact replaying.redis
  · intro ready
    cases moved with
    | loadIgnored => exact replaying.redis
    | loadAccepted => exact replaying.redis
    | handledStoring => exact absurd redelivers (replaying.unreported _)
    | handledWaiting => exact absurd redelivers (replaying.unreported _)
    | _ => exact replaying.next ready
  · apply List.eq_nil_iff_forall_not_mem.mpr
    intro deliveryId member
    rcases moved.unfinished_origin member with
      earlier | ⟨messageId, state, new, accepted⟩
    · rw [replaying.finished] at earlier
      cases earlier
    · have ignored : state = .canIgnore := ignores _ new
      rw [ignored] at accepted
      rcases accepted with impossible | impossible
      · cases impossible
      · cases impossible
  · apply replaying.within.moved _ moved
    intro deliveryId messageId called
    rw [called] at redelivers
    exact redelivers
  · intro stored member
    rcases moved.task_origin member with
      earlier | ⟨_, _, _, _, other⟩ | ⟨deliveryId, called, _⟩
    · exact replaying.filters stored earlier
    · cases other
    · rw [called] at redelivers
      exact absurd redelivers (replaying.unreported deliveryId)

theorem start_replaying (sent : List Int) (senderId : Int)
    (redis : Option Int) :
    Replaying sent (redis.getD 1) (start senderId redis) := by
  refine ⟨rfl, ?_, rfl, ⟨?_, ?_⟩, ?_⟩
  · intro ready
    exact absurd ready (lt_irrefl 0)
  · intro deliveryId member
    cases member
  · intro captured deliveryId messageId member
    cases member
  · intro stored member
    cases member

/-- If Redis has a value above all ids, all redelivered messages are
ignored. -/
theorem redelivered_ignored {senderId : Int} {redis : Option Int}
    (above : ∀ deliveryId ∈ sent, deliveryId < redis.getD 1)
    (run : Run step (Redelivers sent) (start senderId redis) trace pacer) :
    ∀ event ∈ trace, Ignores event := by
  have replayed : (∀ event ∈ trace, Ignores event) ∧
      Replaying sent (redis.getD 1) pacer := by
    apply run.invariant
    · refine ⟨?_, start_replaying sent senderId redis⟩
      intro event member
      cases member
    · intro trace events pacer next action holds redelivers stepped
      obtain ⟨ignored, replaying⟩ := holds
      have moved := step_moved stepped
      refine ⟨?_, replaying.moved above redelivers moved⟩
      intro event member
      rcases List.mem_append.mp member with earlier | now
      · exact ignored event earlier
      · exact replaying.ignores above redelivers moved event now
  exact replayed.1

theorem redelivered_accepted (senderId : Int) {redis : Option Int}
    {deliveryId : Int} (member : deliveryId ∈ sent)
    (reached : redis.getD 1 ≤ deliveryId) :
    ∃ pacer, Run step (Redelivers sent) (start senderId redis)
      [.loaded (redis.getD 1), .classified deliveryId 0 .newItem] pacer := by
  have delivered : Redelivers sent (start senderId redis)
      (.filterOrNot deliveryId 0) := member
  have answered : Redelivers sent (loadingFirst senderId redis deliveryId 0)
      (.getReply true) := rfl
  have begun := Run.refl.snoc delivered (step_first senderId redis _ _)
  exact ⟨_, begun.snoc answered (step_first_accepted reached)⟩

end

/-- After one session of a client whose messages have all been handled, a
restarted worker ignores every redelivery of them exactly if no id from the
stored value on was left out before the id of a message. -/
theorem redelivery_ignored_iff_gapless (senderId : Int)
    (session : Front.UserSession) (history : List Front.ClientEvent)
    (stored : Option Int) (positive : 1 ≤ stored.getD 1)
    (trace : List PacerEvent) (pacer : Pacer)
    (run : Run step (Orderly (session.sentIds history))
      (start senderId stored) trace pacer)
    (complete : Complete (session.sentIds history) trace pacer) :
    (∀ replayed final,
      Run step (Redelivers (session.sentIds history))
        (start senderId pacer.redis) replayed final →
      ∀ event ∈ replayed, Ignores event) ↔
      Gapless (stored.getD 1) (session.sentIds history) := by
  have orderly := orderlyRun positive run
  rw [orderly.gapless_iff complete]
  constructor
  · intro ignored deliveryId member
    by_contra reached
    obtain ⟨final, replay⟩ :=
      redelivered_accepted senderId member (le_of_not_gt reached)
    have impossible := ignored _ final replay
      (.classified deliveryId 0 .newItem)
      (List.mem_cons_of_mem _ List.mem_cons_self)
    cases impossible
  · intro above replayed final replay
    exact redelivered_ignored above replay

/-- Two messages are sent, then one is received. -/
theorem redelivery_ignored_two_sends :
    ∃ trace pacer, Run step (Orderly [1, 2]) (start 7 none) trace pacer ∧
      Complete [1, 2] trace pacer ∧
      ∀ replayed final,
        Run step (Redelivers [1, 2]) (start 7 pacer.redis) replayed final →
        ∀ event ∈ replayed, Ignores event := by
  have ids : Front.UserSession.sentIds { userSeq := 7, chatSessions := [8] }
      [.send "a" 8 1, .send "b" 8 1, .push 8 50] = [1, 2] := by
    decide
  have executed : (exec step (Orderly [1, 2]) (start 7 none)
      [.filterOrNot 1 100, .filterOrNot 2 101, .getReply true, .wake 0,
        .onHandledNewItem 1, .setReply true, .onHandledNewItem 2]).map
      (fun result => (result.2, result.1.unfinished,
        result.1.info.lock.tasks.isEmpty)) =
      some ([.loaded 1, .classified 1 100 .newItem,
        .classified 2 101 .newItem, .handled 1, .redisSet 3, .handled 2],
        [], true) := by
    decide
  obtain ⟨⟨pacer, trace⟩, result, same⟩ :=
    Option.map_eq_some_iff.mp executed
  simp only [Prod.mk.injEq, List.isEmpty_iff] at same
  obtain ⟨rfl, finished, idle⟩ := same
  have complete : Complete [1, 2] [.loaded 1, .classified 1 100 .newItem,
      .classified 2 101 .newItem, .handled 1, .redisSet 3, .handled 2]
      pacer := by
    refine ⟨?_, finished, idle⟩
    decide
  refine ⟨_, pacer, .of_exec result, complete, ?_⟩
  rw [← ids] at result complete ⊢
  apply (redelivery_ignored_iff_gapless 7 _ _ none (by decide) _ pacer
    (.of_exec result) complete).mpr
  rw [ids]
  intro deliveryId member between lower upper
  simp only [List.mem_cons, List.not_mem_nil, or_false] at member ⊢
  simp only [Option.getD_none] at lower
  omega

/-- One message is received before one is sent: the id of the message is
`2`, the value in Redis stays at `1`, and the message is handled again after
a restart. -/
theorem redelivery_accepted_after_push :
    ∃ (session : Front.UserSession) (history : List Front.ClientEvent)
      (trace : List PacerEvent) (pacer : Pacer),
      Run step (Orderly (session.sentIds history)) (start 7 none) trace
        pacer ∧
      Complete (session.sentIds history) trace pacer ∧
      ∃ replayed final,
        Run step (Redelivers (session.sentIds history))
          (start 7 pacer.redis) replayed final ∧
        ∃ event ∈ replayed, ¬ Ignores event := by
  have ids : Front.UserSession.sentIds { userSeq := 7, chatSessions := [8] }
      [.push 8 50, .send "a" 8 1] = [2] := by
    decide
  have executed : (exec step (Orderly [2]) (start 7 none)
      [.filterOrNot 2 100, .getReply true, .onHandledNewItem 2]).map
      (fun result => (result.2, result.1.redis, result.1.unfinished,
        result.1.info.lock.tasks.isEmpty)) =
      some ([.loaded 1, .classified 2 100 .newItem, .handled 2],
        none, [], true) := by
    decide
  obtain ⟨⟨pacer, trace⟩, result, same⟩ :=
    Option.map_eq_some_iff.mp executed
  simp only [Prod.mk.injEq, List.isEmpty_iff] at same
  obtain ⟨events, redis, finished, idle⟩ := same
  have again : ∃ final, Run step (Redelivers [2]) (start 7 none)
      [.loaded 1, .classified 2 0 .newItem] final :=
    redelivered_accepted 7 (by decide) (by decide)
  obtain ⟨final, replay⟩ := again
  refine ⟨{ userSeq := 7, chatSessions := [8] },
    [.push 8 50, .send "a" 8 1], trace, pacer, ?_, ⟨?_, finished, idle⟩,
    [.loaded 1, .classified 2 0 .newItem], final, ?_,
    .classified 2 0 .newItem, by decide, ?_⟩
  · rw [ids]
    exact .of_exec result
  · rw [ids, events]
    decide
  · rw [ids, redis]
    exact replay
  · intro ignored
    cases ignored

end Pacer

end Worker

end TinyChat
