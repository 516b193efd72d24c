import Mathlib.Data.List.Nodup
import TinyChat.Redis.ServiceSteps

/-!
# The life of a task

A task is in one place at a time, and the consumer that has taken it is the
only one that resolves its waiter.  What the waiter is resolved with is what
the trace has recorded.
-/

namespace TinyChat

namespace Redis

/-- The coroutine is not in an executor. -/
def Phase.Free : Phase → Prop
  | .running _ | .draining _ => False
  | _ => True

theorem Phase.Free.not_holds {consumer : Consumer}
    (free : consumer.phase.Free) (task : Nat) : ¬ consumer.Holds task := by
  rintro (running | draining)
  · rw [running] at free
    exact free
  · rw [draining] at free
    exact free

theorem free_of_done {consumer : Consumer} (done : consumer.live = false) :
    consumer.phase.Free := by
  rw [Consumer.live] at done
  cases phase : consumer.phase <;> rw [phase] at done <;> trivial

/-- A consumer whose task is done is restarted, or nothing happens. -/
theorem runCallbacks_free {consumer : Consumer}
    (done : consumer.live = false) :
    consumer.runCallbacks.phase.Free := by
  have free := free_of_done done
  rw [Consumer.runCallbacks]
  split
  · split
    · trivial
    · exact free
  · exact free

/-- The places and the waiters of the tasks, against the trace. -/
structure Tended (trace : List ServiceEvent) (service : Service) : Prop where
  queued : ∀ role, ∀ task ∈ service.channel role,
    (service.tasks task).place = .queued ∧ (service.tasks task).role = role
  distinct : ∀ role, (service.channel role).Nodup
  held : ∀ index task, (service.consumers index).Holds task →
    (service.tasks task).place = .taken index
  unanswered : ∀ task, (service.tasks task).place ≠ .left →
    (service.tasks task).waiter = .pending ∨
      (service.tasks task).waiter = .cancelled
  called : ∀ task, (service.tasks task).place ≠ .unused →
    .called task (service.tasks task).taskType ∈ trace
  gaveUp : ∀ task, (service.tasks task).waiter = .cancelled →
    .gaveUp task ∈ trace
  resolved : ∀ index task reply, .resolved index task reply ∈ trace →
    (service.tasks task).waiter = .result reply ∧
      (reply = .absent ∨ .completed task reply ∈ trace)

/-- How a task leaves its consumer: with its waiter as it is, or with a
reply. -/
inductive Finished (index number : Nat) (task : ServiceTask) :
    ServiceTask → List ServiceEvent → Prop where
  | left {events : List ServiceEvent} :
      (∀ other task reply,
        ServiceEvent.resolved other task reply ∉ events) →
      Finished index number task task.leave events
  | answered {reply : Reply} {events : List ServiceEvent} :
      task.waiter = .pending →
      (∀ other task_ given,
        ServiceEvent.resolved other task_ given ∈ events →
          task_ = number ∧ given = reply) →
      reply = .absent ∨ .completed number reply ∈ events →
      Finished index number task (task.answer reply) events

/-- What the work of a consumer does to the tasks. -/
inductive Handled (service : Service) (index : Nat) (effect : Effect) :
    Prop where
  | nothing : effect.popped = false → effect.task = none →
      effect.consumer.phase.Free →
      (∀ other task reply,
        ServiceEvent.resolved other task reply ∉ effect.events) →
      Handled service index effect
  | released {number : Nat} {task : ServiceTask} :
      (service.consumers index).Holds number → effect.popped = false →
      effect.task = some (number, task) →
      effect.consumer.phase.Free →
      Finished index number (service.tasks number) task effect.events →
      Handled service index effect
  | passed {number : Nat} {rest : List Nat} {task : ServiceTask} :
      service.channel (service.consumers index).role = number :: rest →
      effect.popped = true → effect.task = some (number, task) →
      effect.consumer.phase.Free →
      Finished index number (service.tasks number) task effect.events →
      Handled service index effect
  | taken {number : Nat} {rest : List Nat} :
      service.channel (service.consumers index).role = number :: rest →
      effect.popped = true →
      effect.task = some (number,
        { service.tasks number with place := .taken index }) →
      (∀ task, effect.consumer.Holds task → task = number) →
      (∀ other task reply,
        ServiceEvent.resolved other task reply ∉ effect.events) →
      Handled service index effect

section

variable {config : ServiceConfig} {service : Service} {index number : Nat}

theorem waiter_pending {task : ServiceTask}
    (undone : task.waiter.done = false) : task.waiter = .pending := by
  cases waiter : task.waiter with
  | pending => rfl
  | result | timeout | cancelled =>
      rw [waiter] at undone
      cases undone

theorem turn_free (consumer : Consumer) (closing : Bool) :
    (consumer.turn closing).phase.Free := by
  rcases consumer.turn_cases closing with ⟨-, turned⟩ | ⟨-, turned⟩ <;>
    · rw [turned]
      trivial

theorem failed_consumer {consumer : Consumer} :
    (service.failed index consumer number).consumer = consumer := by
  rw [Service.failed]
  split <;> rfl

namespace Handled

theorem failed {consumer : Consumer}
    (holds : (service.consumers index).Holds number)
    (free : consumer.phase.Free) :
    Handled service index (service.failed index consumer number) := by
  rw [Service.failed]
  split
  · refine .released holds rfl rfl free (.left ?_)
    exact fun _ _ _ => List.not_mem_nil
  · rename_i undone
    refine .released holds rfl rfl free (.answered ?_ ?_ (.inl rfl))
    · exact waiter_pending (Bool.not_eq_true _ ▸ undone)
    · intro other task given member
      cases List.mem_singleton.mp member
      exact ⟨rfl, rfl⟩

theorem interrupted {effect : Effect}
    (interrupted :
      (service.consumers index).Interrupted service.tasks effect.task)
    (popped : effect.popped = false)
    (free : effect.consumer.phase.Free)
    (quiet : ∀ other task reply,
      ServiceEvent.resolved other task reply ∉ effect.events) :
    Handled service index effect := by
  rcases interrupted with ⟨-, nothing⟩ | ⟨number, running, abandoned⟩
  · exact .nothing popped nothing free quiet
  · exact .released (.inl running) popped abandoned free (.left quiet)

end Handled

theorem Effected.handled {work : Work} {effect : Effect}
    (effected : Effected config service index (service.consumers index) work
      effect) : Handled service index effect := by
  cases effected with
  | started | crashed | killed =>
      exact .nothing rfl rfl trivial (fun _ _ _ => List.not_mem_nil)
  | resumed | ponged =>
      exact .nothing rfl rfl (turn_free _ _)
        (fun _ _ _ => List.not_mem_nil)
  | skipped _ _ first =>
      exact .passed first rfl rfl (turn_free _ _)
        (.left (fun _ _ _ => List.not_mem_nil))
  | rejected _ _ first undone =>
      refine .passed first rfl rfl (turn_free _ _)
       
        (.answered (waiter_pending undone) ?_ (.inl rfl))
      intro other task given member
      simp only [List.mem_cons, reduceCtorEq, List.not_mem_nil, or_false,
        false_or, ServiceEvent.resolved.injEq] at member
      exact member.2
  | ran _ _ first =>
      refine .taken first rfl rfl ?_ ?_
      · rintro task (running | draining)
        · exact (Phase.running.inj running).symm
        · cases draining
      · simp
  | replied _ running undone =>
      refine .released (.inl running) rfl rfl (turn_free _ _)
       
        (.answered (waiter_pending undone) ?_ (.inr List.mem_cons_self))
      intro other task given member
      simp only [List.mem_cons, reduceCtorEq, List.not_mem_nil, or_false,
        false_or, ServiceEvent.resolved.injEq] at member
      exact member.2
  | ignored _ running =>
      exact .released (.inl running) rfl rfl (turn_free _ _)
        (.left (by simp))
  | undone _ running =>
      exact .released (.inl running) rfl rfl (turn_free _ _)
        (.left (by simp))
  | refused _ running =>
      exact .released (.inl running) rfl rfl (turn_free _ _)
        (.left (by simp))
  | failed _ running =>
      exact .failed (.inl running) (turn_free _ _)
  | stopped _ interrupted | swept _ interrupted
  | sweptRefused _ interrupted =>
      exact .interrupted interrupted rfl trivial
        (fun _ _ _ => List.not_mem_nil)
  | sweptUndone _ interrupted =>
      exact .interrupted interrupted rfl trivial (by simp)
  | drainInterrupted _ draining | drainFailed _ draining =>
      exact .failed (.inr draining) trivial
  | drainEnded =>
      exact .nothing rfl rfl trivial (fun _ _ _ => List.not_mem_nil)
  | drainSkipped sweeping first =>
      refine .passed first rfl rfl ?_
        (.left (fun _ _ _ => List.not_mem_nil))
      exact sweeping ▸ trivial
  | drainCrashed _ first =>
      exact .passed first rfl rfl trivial
        (.left (fun _ _ _ => List.not_mem_nil))
  | drainTook _ first =>
      refine .taken first rfl rfl ?_ (fun _ _ _ => List.not_mem_nil)
      rintro task (running | draining)
      · cases running
      · exact (Phase.draining.inj draining).symm
  | drainReplied _ draining undone =>
      refine .released (.inr draining) rfl rfl trivial
        (.answered (waiter_pending undone) ?_ (.inr List.mem_cons_self))
      intro other task given member
      simp only [List.mem_cons, reduceCtorEq, List.not_mem_nil, or_false,
        false_or, ServiceEvent.resolved.injEq] at member
      exact member.2
  | drainIgnored _ draining =>
      exact .released (.inr draining) rfl rfl trivial
        (.left (by simp))
  | drainUndone _ draining =>
      exact .released (.inr draining) rfl rfl trivial
        (.left (by simp))
  | drainRefused _ draining =>
      exact .released (.inr draining) rfl rfl trivial
        (.left (by simp))

variable {trace events : List ServiceEvent} {next : Service}

namespace Tended

theorem opened (tended : Tended trace service)
    (stays : (service.tasks number).place ≠ .left) (reply : Reply) :
    (service.tasks number).waiter ≠ .result reply := by
  intro answered
  rcases tended.unanswered number stays with waiter | waiter <;>
    · rw [waiter] at answered
      cases answered

/-- Neither a task nor a channel changes, and nobody takes a task. -/
theorem congr (tended : Tended trace service)
    (tasks : next.tasks = service.tasks)
    (channel : next.channel = service.channel)
    (held : ∀ index task, (next.consumers index).Holds task →
      (service.consumers index).Holds task)
    (quiet : ∀ index task reply,
      ServiceEvent.resolved index task reply ∉ events) :
    Tended (trace ++ events) next where
  queued := by
    rw [tasks, channel]
    exact tended.queued
  distinct := by
    rw [channel]
    exact tended.distinct
  held := by
    intro index task holds
    rw [tasks]
    exact tended.held index task (held index task holds)
  unanswered := by
    rw [tasks]
    exact tended.unanswered
  called := by
    intro task used
    rw [tasks] at used ⊢
    exact List.mem_append_left _ (tended.called task used)
  gaveUp := by
    intro task cancelled
    rw [tasks] at cancelled
    exact List.mem_append_left _ (tended.gaveUp task cancelled)
  resolved := by
    intro index task reply member
    rcases List.mem_append.mp member with old | new
    · rw [tasks]
      obtain ⟨result, honest⟩ := tended.resolved index task reply old
      exact ⟨result, honest.imp_right (List.mem_append_left _)⟩
    · exact absurd new (quiet index task reply)

/-- One task without an answer changes. -/
theorem change (tended : Tended trace service) {task : ServiceTask}
    (tasks : next.tasks = Function.update service.tasks number task)
    (opened : ∀ reply, (service.tasks number).waiter ≠ .result reply)
    (queued : ∀ role, ∀ other ∈ next.channel role,
      other ≠ number ∧ other ∈ service.channel role ∨
        other = number ∧ task.place = .queued ∧ task.role = role)
    (distinct : ∀ role, (next.channel role).Nodup)
    (held : ∀ index other, (next.consumers index).Holds other →
      other ≠ number ∧ (service.consumers index).Holds other ∨
        other = number ∧ task.place = .taken index)
    (unanswered : task.place ≠ .left →
      task.waiter = .pending ∨ task.waiter = .cancelled)
    (called : task.place ≠ .unused →
      .called number task.taskType ∈ trace ++ events)
    (gaveUp : task.waiter = .cancelled → .gaveUp number ∈ trace ++ events)
    (resolved : ∀ index other reply,
      ServiceEvent.resolved index other reply ∈ events →
        other = number ∧ task.waiter = .result reply ∧
          (reply = .absent ∨ .completed number reply ∈ events)) :
    Tended (trace ++ events) next where
  queued := by
    intro role other member
    rw [tasks]
    rcases queued role other member with ⟨others, old⟩ | ⟨rfl, here⟩
    · rw [Function.update_of_ne others]
      exact tended.queued role other old
    · rw [Function.update_self]
      exact here
  distinct := distinct
  held := by
    intro index other holds
    rw [tasks]
    rcases held index other holds with ⟨others, old⟩ | ⟨rfl, here⟩
    · rw [Function.update_of_ne others]
      exact tended.held index other old
    · rw [Function.update_self]
      exact here
  unanswered := by
    intro other stays
    rw [tasks] at stays ⊢
    rcases eq_or_ne other number with rfl | others
    · rw [Function.update_self] at stays ⊢
      exact unanswered stays
    · rw [Function.update_of_ne others] at stays ⊢
      exact tended.unanswered other stays
  called := by
    intro other used
    rw [tasks] at used ⊢
    rcases eq_or_ne other number with rfl | others
    · rw [Function.update_self] at used ⊢
      exact called used
    · rw [Function.update_of_ne others] at used ⊢
      exact List.mem_append_left _ (tended.called other used)
  gaveUp := by
    intro other cancelled
    rw [tasks] at cancelled
    rcases eq_or_ne other number with rfl | others
    · rw [Function.update_self] at cancelled
      exact gaveUp cancelled
    · rw [Function.update_of_ne others] at cancelled
      exact List.mem_append_left _ (tended.gaveUp other cancelled)
  resolved := by
    intro index other reply member
    rw [tasks]
    rcases List.mem_append.mp member with old | new
    · obtain ⟨result, honest⟩ := tended.resolved index other reply old
      have others : other ≠ number := by
        rintro rfl
        exact opened reply result
      rw [Function.update_of_ne others]
      exact ⟨result, honest.imp_right (List.mem_append_left _)⟩
    · obtain ⟨rfl, result, honest⟩ := resolved index other reply new
      rw [Function.update_self]
      exact ⟨result, honest.imp_right (List.mem_append_right _)⟩

theorem touch (tended : Tended trace service) {task : ServiceTask}
    {effect : Effect} (changed : effect.task = some (number, task))
    (place : (service.tasks number).place = .queued ∨
      (service.tasks number).place = .taken index)
    (queued : ∀ role,
      ∀ other ∈ (service.apply index effect).channel role,
        other ≠ number ∧ other ∈ service.channel role)
    (distinct : ∀ role,
      ((service.apply index effect).channel role).Nodup)
    (held : ∀ other, effect.consumer.Holds other →
      other = number ∧ task.place = .taken index)
    (unanswered : task.place ≠ .left →
      task.waiter = (service.tasks number).waiter)
    (same : task.taskType = (service.tasks number).taskType)
    (cancelled : task.waiter = .cancelled →
      (service.tasks number).waiter = .cancelled)
    (resolved : ∀ other task_ reply,
      ServiceEvent.resolved other task_ reply ∈ effect.events →
        task_ = number ∧ task.waiter = .result reply ∧
          (reply = .absent ∨
            .completed number reply ∈ effect.events)) :
    Tended (trace ++ effect.events) (service.apply index effect) := by
  have active : (service.tasks number).place ≠ .left ∧
      (service.tasks number).place ≠ .unused := by
    rcases place with place | place <;>
      · rw [place]
        exact ⟨Place.noConfusion, Place.noConfusion⟩
  have tasks : (service.apply index effect).tasks =
      Function.update service.tasks number task := by
    simp only [Service.apply, changed]
  apply tended.change tasks (tended.opened active.1)
  case queued =>
    exact fun role other member =>
      .inl (queued role other member)
  case distinct => exact distinct
  case held =>
    intro other task_ holds
    rcases eq_or_ne other index with rfl | others
    · simp only [Service.apply, Function.update_self] at holds
      exact .inr (held task_ holds)
    · simp only [Service.apply, Function.update_of_ne others] at holds
      refine .inl ⟨?_, holds⟩
      rintro rfl
      have elsewhere := tended.held other task_ holds
      rcases place with place | place
      · rw [place] at elsewhere
        cases elsewhere
      · rw [place] at elsewhere
        exact others (Place.taken.inj elsewhere).symm
  case unanswered =>
    intro stays
    rw [unanswered stays]
    exact tended.unanswered number active.1
  case called =>
    intro _
    rw [same]
    exact List.mem_append_left _ (tended.called number active.2)
  case gaveUp =>
    intro given
    exact List.mem_append_left _ (tended.gaveUp number (cancelled given))
  case resolved => exact resolved

end Tended

theorem Finished.left_place {task later : ServiceTask}
    (finished : Finished index number task later events) :
    later.place = .left ∧ later.taskType = task.taskType := by
  cases finished <;> exact ⟨rfl, rfl⟩

theorem Finished.cancelled {task later : ServiceTask}
    (finished : Finished index number task later events)
    (cancelled : later.waiter = .cancelled) : task.waiter = .cancelled := by
  cases finished with
  | left => exact cancelled
  | answered pending =>
      rw [ServiceTask.answer, pending] at cancelled
      cases cancelled

theorem Finished.resolved {task later : ServiceTask}
    (finished : Finished index number task later events)
    {other task_ : Nat} {reply : Reply}
    (member : ServiceEvent.resolved other task_ reply ∈ events) :
    task_ = number ∧ later.waiter = .result reply ∧
      (reply = .absent ∨ .completed number reply ∈ events) := by
  cases finished with
  | left quiet => exact absurd member (quiet other task_ reply)
  | answered pending only honest =>
      obtain ⟨rfl, rfl⟩ := only other task_ reply member
      refine ⟨rfl, ?_, honest⟩
      rw [ServiceTask.answer, pending]
      rfl

theorem Tended.popped (tended : Tended trace service) {effect : Effect}
    {rest : List Nat}
    (first : service.channel (service.consumers index).role =
      number :: rest) (pops : effect.popped = true) (role : Role) :
    ((service.apply index effect).channel role).Nodup ∧
      ∀ other ∈ (service.apply index effect).channel role,
        other ≠ number ∧ other ∈ service.channel role := by
  have whole := tended.distinct (service.consumers index).role
  rw [first] at whole
  have apart := List.nodup_cons.mp whole
  simp only [Service.apply, pops, if_true, first, List.tail_cons]
  rcases eq_or_ne role (service.consumers index).role with rfl | others
  · rw [Function.update_self, first]
    refine ⟨apart.2, ?_⟩
    intro other member
    refine ⟨?_, List.mem_cons_of_mem _ member⟩
    rintro rfl
    exact apart.1 member
  · rw [Function.update_of_ne others]
    refine ⟨tended.distinct role, ?_⟩
    intro other member
    refine ⟨?_, member⟩
    rintro rfl
    have mine := (tended.queued role other member).2
    have theirs := (tended.queued (service.consumers index).role other
      (first ▸ List.mem_cons_self)).2
    exact others (mine.symm.trans theirs)

theorem Tended.handled (tended : Tended trace service) {effect : Effect}
    (handled : Handled service index effect) :
    Tended (trace ++ effect.events) (service.apply index effect) := by
  cases handled with
  | nothing stays untouched free quiet =>
      apply tended.congr
      case tasks => simp only [Service.apply, untouched]
      case channel => simp [Service.apply, stays]
      case held =>
        intro other task holds
        rcases eq_or_ne other index with rfl | others
        · simp only [Service.apply, Function.update_self] at holds
          exact absurd holds (free.not_holds task)
        · simpa only [Service.apply, Function.update_of_ne others]
            using holds
      case quiet => exact quiet
  | @released number task holds stays changed free finished =>
      have place := tended.held index number holds
      have channel : (service.apply index effect).channel =
          service.channel := by
        simp [Service.apply, stays]
      apply tended.touch changed (.inr place)
      case queued =>
        intro role other member
        rw [channel] at member
        refine ⟨?_, member⟩
        rintro rfl
        rw [(tended.queued role other member).1] at place
        cases place
      case distinct =>
        rw [channel]
        exact tended.distinct
      case held =>
        exact fun other held =>
          absurd held (free.not_holds other)
      case unanswered =>
        exact fun stays =>
          absurd finished.left_place.1 stays
      case same => exact finished.left_place.2
      case cancelled => exact finished.cancelled
      case resolved => exact fun _ _ _ member => finished.resolved member
  | @passed number rest task first pops changed free finished =>
      have place := (tended.queued _ number
        (first ▸ List.mem_cons_self)).1
      apply tended.touch changed (.inl place)
      case queued => exact fun role => (tended.popped first pops role).2
      case distinct => exact fun role => (tended.popped first pops role).1
      case held =>
        exact fun other held =>
          absurd held (free.not_holds other)
      case unanswered =>
        exact fun stays =>
          absurd finished.left_place.1 stays
      case same => exact finished.left_place.2
      case cancelled => exact finished.cancelled
      case resolved => exact fun _ _ _ member => finished.resolved member
  | @taken number rest first pops changed held quiet =>
      have place := (tended.queued _ number
        (first ▸ List.mem_cons_self)).1
      apply tended.touch changed (.inl place)
      case queued => exact fun role => (tended.popped first pops role).2
      case distinct => exact fun role => (tended.popped first pops role).1
      case held => exact fun other holds => ⟨held other holds, rfl⟩
      case unanswered => exact fun _ => rfl
      case same => rfl
      case cancelled => exact id
      case resolved =>
        exact fun other task reply member =>
          absurd member (quiet other task reply)

namespace Tended

/-- A task changes that no consumer holds and no channel has, and nothing
else does. -/
theorem outside (tended : Tended trace service) {task : ServiceTask}
    (tasks : next.tasks = Function.update service.tasks number task)
    (channel : next.channel = service.channel)
    (consumers : next.consumers = service.consumers)
    (place : (service.tasks number).place = .unused ∨
      (service.tasks number).place = .putting)
    (waiter : task.place ≠ .left → task.waiter = .pending)
    (given : task.waiter = .cancelled → .gaveUp number ∈ trace ++ events)
    (called : task.place ≠ .unused →
      .called number task.taskType ∈ trace ++ events)
    (quiet : ∀ index task reply,
      ServiceEvent.resolved index task reply ∉ events) :
    Tended (trace ++ events) next := by
  have away : (service.tasks number).place ≠ .left ∧
      (service.tasks number).place ≠ .queued ∧
      ∀ index, (service.tasks number).place ≠ .taken index := by
    rcases place with place | place <;>
      · rw [place]
        exact ⟨Place.noConfusion, Place.noConfusion,
          fun _ => Place.noConfusion⟩
  apply tended.change tasks (tended.opened away.1)
  case queued =>
    intro role other member
    rw [channel] at member
    refine .inl ⟨?_, member⟩
    rintro rfl
    exact away.2.1 (tended.queued role other member).1
  case distinct =>
    rw [channel]
    exact tended.distinct
  case held =>
    intro index other holds
    rw [consumers] at holds
    refine .inl ⟨?_, holds⟩
    rintro rfl
    exact away.2.2 index (tended.held index other holds)
  case unanswered => exact fun stays => .inl (waiter stays)
  case called => exact called
  case gaveUp => exact given
  case resolved =>
    exact fun index other reply member =>
      absurd member (quiet index other reply)

theorem put (tended : Tended trace service)
    (putting : (service.tasks number).place = .putting)
    (tasks : next.tasks = Function.update service.tasks number
      { service.tasks number with place := .queued })
    (channel : next.channel = Function.update service.channel
      (service.tasks number).role
      (service.channel (service.tasks number).role ++ [number]))
    (consumers : next.consumers = service.consumers) :
    Tended (trace ++ []) next := by
  have absent : ∀ role, number ∉ service.channel role := by
    intro role member
    have place := (tended.queued role number member).1
    rw [putting] at place
    cases place
  have stays : (service.tasks number).place ≠ .left := by
    rw [putting]
    exact Place.noConfusion
  apply tended.change tasks (tended.opened stays)
  case queued =>
    intro role other member
    rw [channel] at member
    rcases eq_or_ne role (service.tasks number).role with rfl | others
    · rw [Function.update_self] at member
      rcases List.mem_append.mp member with old | new
      · refine .inl ⟨?_, old⟩
        rintro rfl
        exact absent _ old
      · exact .inr ⟨List.mem_singleton.mp new, rfl, rfl⟩
    · rw [Function.update_of_ne others] at member
      refine .inl ⟨?_, member⟩
      rintro rfl
      exact absent _ member
  case distinct =>
    intro role
    rw [channel]
    rcases eq_or_ne role (service.tasks number).role with rfl | others
    · rw [Function.update_self]
      apply (tended.distinct _).append (List.nodup_singleton number)
      exact List.disjoint_singleton.mpr (absent _)
    · rw [Function.update_of_ne others]
      exact tended.distinct role
  case held =>
    intro index other holds
    rw [consumers] at holds
    refine .inl ⟨?_, holds⟩
    rintro rfl
    have place := tended.held index other holds
    rw [putting] at place
    cases place
  case unanswered => exact fun _ => tended.unanswered number stays
  case called =>
    intro _
    apply List.mem_append_left
    exact tended.called number (putting ▸ Place.noConfusion)
  case gaveUp =>
    exact fun cancelled =>
      List.mem_append_left _ (tended.gaveUp number cancelled)
  case resolved =>
    exact fun _ _ _ member => absurd member List.not_mem_nil

theorem giveUp (tended : Tended trace service)
    (used : (service.tasks number).place ≠ .unused)
    (pending : (service.tasks number).waiter = .pending)
    (tasks : next.tasks = Function.update service.tasks number
      { service.tasks number with waiter := .cancelled })
    (channel : next.channel = service.channel)
    (consumers : next.consumers = service.consumers) :
    Tended (trace ++ [.gaveUp number]) next := by
  have opened : ∀ reply, (service.tasks number).waiter ≠ .result reply := by
    intro reply answered
    rw [pending] at answered
    cases answered
  apply tended.change tasks opened
  case queued =>
    intro role other member
    rw [channel] at member
    rcases eq_or_ne other number with rfl | others
    · exact .inr ⟨rfl, tended.queued role other member⟩
    · exact .inl ⟨others, member⟩
  case distinct =>
    rw [channel]
    exact tended.distinct
  case held =>
    intro index other holds
    rw [consumers] at holds
    rcases eq_or_ne other number with rfl | others
    · exact .inr ⟨rfl, tended.held index other holds⟩
    · exact .inl ⟨others, holds⟩
  case unanswered => exact fun _ => .inr rfl
  case called =>
    exact fun _ => List.mem_append_left _ (tended.called number used)
  case gaveUp => exact fun _ => List.mem_append_right _ List.mem_cons_self
  case resolved =>
    intro index other reply member
    cases List.mem_singleton.mp member

theorem aenter (config : ServiceConfig) :
    Tended [] (Service.aenter config) where
  queued := fun _ _ member => absurd member List.not_mem_nil
  distinct := fun _ => List.nodup_nil
  held := by
    intro index task holds
    have free : ((Service.aenter config).consumers index).phase.Free := by
      rw [Service.aenter]
      rcases spawnTask_phase _ _ _ index with started | before
      · rw [started]
        trivial
      · rw [before]
        rcases spawnTask_phase _ _ _ index with started | before
        · rw [started]
          trivial
        · rw [before]
          trivial
    exact absurd holds (free.not_holds task)
  unanswered := fun _ _ => .inl rfl
  called := fun _ used => absurd rfl used
  gaveUp := fun _ cancelled => by cases cancelled
  resolved := fun _ _ _ member => absurd member List.not_mem_nil

/-- A spawn gives nobody a task. -/
theorem spawnTask_holds {role : Role} {num task : Nat}
    (holds : ((service.spawnTask role num).consumers index).Holds task) :
    (service.consumers index).Holds task := by
  simp only [Consumer.Holds] at holds ⊢
  rcases spawnTask_phase service role num index with started | before
  · rw [started] at holds
    rcases holds with phase | phase <;> cases phase
  · rw [before] at holds
    exact holds

theorem spawnTask (tended : Tended trace service) (role : Role)
    (num : Nat) : Tended trace (service.spawnTask role num) := by
  have kept : Tended (trace ++ []) (service.spawnTask role num) :=
    tended.congr rfl rfl (fun _ _ holds => spawnTask_holds holds)
      (fun _ _ _ => List.not_mem_nil)
  rwa [List.append_nil] at kept

theorem rebalanced_holds {pass : Pass} {task : Nat}
    (holds : ((service.rebalanced pass).consumers index).Holds task) :
    (service.consumers index).Holds task := by
  rw [Service.rebalanced] at holds
  split at holds
  · simp only [Consumer.Holds] at holds ⊢
    split at holds <;> simpa using holds
  · have before := spawnTask_holds holds
    simp only [Consumer.Holds] at before ⊢
    split at before <;> simpa using before

theorem step (tended : Tended trace service) {action : ServiceAction}
    (stepped : serve config service action = some (next, events)) :
    Tended (trace ++ events) next := by
  cases serve_served stepped with
  | called opened unused =>
      apply tended.outside
      case tasks => rfl
      case channel => rfl
      case consumers => rfl
      case place => exact .inl unused
      case waiter => exact fun _ => rfl
      case given => exact fun cancelled => by cases cancelled
      case called =>
        exact fun _ => List.mem_append_right _ List.mem_cons_self
      case quiet => simp
  | put putting => exact tended.put putting rfl rfl rfl
  | @withdrew task putting =>
      have used : (service.tasks task).place ≠ .unused :=
        putting ▸ Place.noConfusion
      apply tended.outside
      case tasks => rfl
      case channel => rfl
      case consumers => rfl
      case place => exact .inr putting
      case waiter => exact fun stays => absurd rfl stays
      case given =>
        exact fun _ => List.mem_append_right _ List.mem_cons_self
      case called =>
        exact fun _ => List.mem_append_left _ (tended.called task used)
      case quiet => simp
  | gaveUp used sent pending => exact tended.giveUp used pending rfl rfl rfl
  | worked created effected => exact tended.handled effected.handled
  | @calledBack index ended pending =>
      refine tended.congr rfl rfl ?_ (fun _ _ _ => List.not_mem_nil)
      intro other task holds
      rcases eq_or_ne other index with rfl | others
      · simp only [Function.update_self] at holds
        exact absurd holds ((runCallbacks_free ended).not_holds task)
      · simpa only [Function.update_of_ne others] using holds
  | @rebalanced sample pass passed listed =>
      exact tended.congr (by rw [Service.rebalanced]; split <;> rfl)
        (by rw [Service.rebalanced]; split <;> rfl)
        (fun _ _ holds => rebalanced_holds holds)
        (fun _ _ _ => List.not_mem_nil)
  | @spawned role num =>
      rw [List.append_nil]
      exact tended.spawnTask role num
  | undid =>
      exact tended.congr rfl rfl (fun _ _ holds => holds)
        (fun _ _ _ => List.not_mem_nil)
  | closed =>
      refine tended.congr rfl rfl ?_ (fun _ _ _ => List.not_mem_nil)
      intro index task holds
      simp only [Consumer.Holds, Service.aexit] at holds ⊢
      split at holds <;> simpa using holds

end Tended

/-- A task keeps its type, and a waiter that was cancelled stays so. -/
structure Later (service next : Service) : Prop where
  used : ∀ task, (service.tasks task).place ≠ .unused →
    (next.tasks task).place ≠ .unused
  taskType : ∀ task, (service.tasks task).place ≠ .unused →
    (next.tasks task).taskType = (service.tasks task).taskType
  cancelled : ∀ task, (service.tasks task).place ≠ .unused →
    (service.tasks task).waiter = .cancelled →
      (next.tasks task).waiter = .cancelled

namespace Later

theorem of_tasks (tasks : next.tasks = service.tasks) :
    Later service next where
  used := by
    rw [tasks]
    exact fun _ used => used
  taskType := by
    rw [tasks]
    exact fun _ _ => rfl
  cancelled := by
    rw [tasks]
    exact fun _ _ cancelled => cancelled

theorem of_change {task : ServiceTask}
    (tasks : next.tasks = Function.update service.tasks number task)
    (used : (service.tasks number).place ≠ .unused →
      task.place ≠ .unused)
    (taskType : (service.tasks number).place ≠ .unused →
      task.taskType = (service.tasks number).taskType)
    (cancelled : (service.tasks number).place ≠ .unused →
      (service.tasks number).waiter = .cancelled →
        task.waiter = .cancelled) : Later service next where
  used := by
    intro other before
    rw [tasks]
    rcases eq_or_ne other number with rfl | others
    · rw [Function.update_self]
      exact used before
    · rw [Function.update_of_ne others]
      exact before
  taskType := by
    intro other before
    rw [tasks]
    rcases eq_or_ne other number with rfl | others
    · rw [Function.update_self]
      exact taskType before
    · rw [Function.update_of_ne others]
  cancelled := by
    intro other before
    rw [tasks]
    rcases eq_or_ne other number with rfl | others
    · rw [Function.update_self]
      exact cancelled before
    · rw [Function.update_of_ne others]
      exact id

theorem of_finished {task : ServiceTask}
    (tasks : next.tasks = Function.update service.tasks number task)
    (finished : Finished index number (service.tasks number) task events) :
    Later service next := by
  apply of_change tasks
  case used =>
    intro _
    rw [finished.left_place.1]
    exact Place.noConfusion
  case taskType => exact fun _ => finished.left_place.2
  case cancelled =>
    intro _ before
    cases finished with
    | left => exact before
    | answered pending =>
        rw [pending] at before
        cases before

theorem handled {effect : Effect}
    (handled : Handled service index effect) :
    Later service (service.apply index effect) := by
  cases handled with
  | nothing _ untouched =>
      apply of_tasks
      simp only [Service.apply, untouched]
  | released _ _ changed _ finished =>
      exact of_finished (by simp only [Service.apply, changed]) finished
  | passed _ _ changed _ finished =>
      exact of_finished (by simp only [Service.apply, changed]) finished
  | @taken number rest _ _ changed =>
      have tasks : (service.apply index effect).tasks =
          Function.update service.tasks number
            { service.tasks number with place := .taken index } := by
        simp only [Service.apply, changed]
      apply of_change tasks
      case used => exact fun _ => Place.noConfusion
      case taskType => exact fun _ => rfl
      case cancelled => exact fun _ cancelled => cancelled

theorem step {action : ServiceAction}
    (stepped : serve config service action = some (next, events)) :
    Later service next := by
  cases serve_served stepped with
  | called opened unused =>
      apply of_change
      case tasks => rfl
      case used => exact fun used => absurd unused used
      case taskType => exact fun used => absurd unused used
      case cancelled => exact fun used => absurd unused used
  | put =>
      apply of_change
      case tasks => rfl
      case used => exact fun _ => Place.noConfusion
      case taskType => exact fun _ => rfl
      case cancelled => exact fun _ cancelled => cancelled
  | withdrew =>
      apply of_change
      case tasks => rfl
      case used => exact fun _ => Place.noConfusion
      case taskType => exact fun _ => rfl
      case cancelled => exact fun _ cancelled => cancelled
  | gaveUp used =>
      apply of_change
      case tasks => rfl
      case used => exact id
      case taskType => exact fun _ => rfl
      case cancelled => exact fun _ _ => rfl
  | worked created effected => exact .handled effected.handled
  | calledBack | spawned | undid | closed => exact .of_tasks rfl
  | rebalanced =>
      apply of_tasks
      rw [Service.rebalanced]
      split <;> rfl

end Later

end

end Redis

end TinyChat
