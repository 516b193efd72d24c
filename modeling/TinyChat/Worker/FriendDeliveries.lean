import TinyChat.Lib.Transition
import TinyChat.Worker.FriendQueues
import Mathlib.Data.List.Count

/-!
# Deliveries to a friend worker

The broker delivers while fewer than `initial_qos` messages are unacknowledged;
`on_consume` queues the events, and for either queue a `friend_handler` takes
them out and starts a task that settles the message.
-/

namespace TinyChat

namespace Worker

/-- A valid event of a kind is delivered, queued, or refused by a full queue;
it is taken by the `friend_handler` of its kind. -/
inductive DeliveryEvent where
  | delivered (kind : FriendKind)
  | enqueued (kind : FriendKind)
  | queueFull (kind : FriendKind)
  | drained (kind : FriendKind)
  deriving DecidableEq

/-- A message is delivered; a `friend_handler` takes an item; a task
acknowledges or rejects its message. -/
inductive DeliveryAction (Body : Type) where
  | deliver (appId : Option (List Char)) (body : Body)
  | drain (kind : FriendKind)
  | settle (deliveryTag : Nat)

/-- The queues, the messages that are unacknowledged, those which a task is
about to settle, and the next delivery tag. -/
structure FriendConsumer (maxsize : Nat) (Body Request Confirm : Type) where
  queues : FriendQueues maxsize Body Request Confirm := {}
  unacknowledged : List Nat := []
  tasks : List Nat := []
  nextTag : Nat := 1

def Consumed.report : Consumed → List DeliveryEvent
  | .enqueued kind => [.enqueued kind]
  | .queueFull kind => [.queueFull kind]
  | _ => []

section

variable {maxsize : Nat} {Body Request Confirm : Type}

/-- The kind of an event from a valid source that decodes. -/
def validKind (appIdPrefix : List Char)
    (fromString : Body → Option (FriendEvent Request Confirm))
    (message : IncomingMessage Body) : Option FriendKind :=
  match validateSource appIdPrefix message with
  | none | some false => none
  | some true =>
      match fromString message.body with
      | none => none
      | some event =>
          if event.evtTp = friendRequest then some .request
          else if event.evtTp = friendConfirm then some .confirm
          else none

namespace FriendQueues

/-- `queue.get()`, with the delivery tag of the message it returns. -/
def take (queues : FriendQueues maxsize Body Request Confirm) :
    FriendKind → Option (Nat × FriendQueues maxsize Body Request Confirm)
  | .request =>
      queues.requestEventQueue.getNowait.map (fun taken =>
        (taken.1.2.message.deliveryTag,
          { queues with requestEventQueue := taken.2 }))
  | .confirm =>
      queues.confirmEventQueue.getNowait.map (fun taken =>
        (taken.1.2.message.deliveryTag,
          { queues with confirmEventQueue := taken.2 }))

/-- The number of events of a kind in their queue. -/
def size (queues : FriendQueues maxsize Body Request Confirm) :
    FriendKind → Nat
  | .request => queues.requestEventQueue.items.length
  | .confirm => queues.confirmEventQueue.items.length

end FriendQueues

namespace FriendConsumer

def deliver (validKind : IncomingMessage Body → Option FriendKind)
    (onConsume : FriendQueues maxsize Body Request Confirm →
      IncomingMessage Body →
        FriendQueues maxsize Body Request Confirm × Consumed)
    (consumer : FriendConsumer maxsize Body Request Confirm)
    (appId : Option (List Char)) (body : Body) :
    FriendConsumer maxsize Body Request Confirm × List DeliveryEvent :=
  let message : IncomingMessage Body := ⟨consumer.nextTag, appId, body⟩
  match onConsume consumer.queues message with
  | (queues, consumed) =>
      ({ queues
         unacknowledged := consumer.unacknowledged ++ [consumer.nextTag]
         tasks :=
           if consumed = .discarded then consumer.tasks ++ [consumer.nextTag]
           else consumer.tasks
         nextTag := consumer.nextTag + 1 },
        ((validKind message).map .delivered).toList ++ consumed.report)

def step (initialQos : Nat)
    (validKind : IncomingMessage Body → Option FriendKind)
    (onConsume : FriendQueues maxsize Body Request Confirm →
      IncomingMessage Body →
        FriendQueues maxsize Body Request Confirm × Consumed) :
    Transition.Step (FriendConsumer maxsize Body Request Confirm)
      (DeliveryAction Body) DeliveryEvent
  | consumer, .deliver appId body =>
      if consumer.unacknowledged.length < initialQos then
        some (consumer.deliver validKind onConsume appId body)
      else none
  | consumer, .drain kind =>
      (consumer.queues.take kind).map (fun taken =>
        ({ consumer with
            queues := taken.2
            tasks := consumer.tasks ++ [taken.1] }, [.drained kind]))
  | consumer, .settle deliveryTag =>
      if deliveryTag ∈ consumer.tasks then
        some ({ consumer with
                 tasks := consumer.tasks.erase deliveryTag
                 unacknowledged := consumer.unacknowledged.erase deliveryTag },
          [])
      else none

end FriendConsumer

/-- The consumer of `friend_to_psql_worker`. -/
def FriendToPsql.step (appIdPrefix : List Char)
    (fromString : Body → Option (FriendEvent Request Confirm)) :
    Transition.Step (FriendConsumer FriendToPsql.maxsize Body Request Confirm)
      (DeliveryAction Body) DeliveryEvent :=
  FriendConsumer.step FriendToPsql.initialQos
    (validKind appIdPrefix fromString)
    (FriendToPsql.onConsume appIdPrefix fromString)

/-- The consumer of `friend_to_push_worker`. -/
def FriendToPush.step (appIdPrefix : List Char)
    (fromString : Body → Option (FriendEvent Request Confirm)) :
    Transition.Step (FriendConsumer FriendToPush.maxsize Body Request Confirm)
      (DeliveryAction Body) DeliveryEvent :=
  FriendConsumer.step FriendToPush.initialQos
    (validKind appIdPrefix fromString)
    (FriendToPush.onConsume appIdPrefix fromString)

end

/-- Every valid event that was delivered is queued. -/
structure EveryEventEnqueued (trace : List DeliveryEvent) : Prop where
  noQueueFull : ∀ kind, .queueFull kind ∉ trace
  enqueued : ∀ kind,
    trace.count (.enqueued kind) = trace.count (.delivered kind)

/-- Whenever an event of a kind is delivered, fewer than `maxsize` of those
before it are left to the `friend_handler` of the kind. -/
def KeptUp (maxsize : Nat) (trace : List DeliveryEvent) : Prop :=
  Transition.EachEvent
    (fun before event => ∀ kind, event = .delivered kind →
      before.count (.delivered kind) <
        before.count (.drained kind) + maxsize)
    [] trace

/-! ## What a step does -/

section

variable {maxsize : Nat} {Body Request Confirm : Type}
  {appIdPrefix : List Char}
  {fromString : Body → Option (FriendEvent Request Confirm)}

namespace FriendQueues

variable {queues next : FriendQueues maxsize Body Request Confirm}
  {message : IncomingMessage Body} {consumed : Consumed}

theorem onConsume_cases (positive : 0 < maxsize)
    (result : queues.onConsume appIdPrefix fromString message =
      (next, consumed)) :
    (∃ kind, validKind appIdPrefix fromString message = some kind ∧
      queues.size kind < maxsize ∧ consumed = .enqueued kind ∧
      ∀ other, next.size other =
        queues.size other + if other = kind then 1 else 0) ∨
    (∃ kind, validKind appIdPrefix fromString message = some kind ∧
      ¬ queues.size kind < maxsize ∧ consumed = .queueFull kind ∧
      next = queues) ∨
    (validKind appIdPrefix fromString message = none ∧
      consumed.report = [] ∧ ∀ other, next.size other = queues.size other) := by
  unfold onConsume at result
  unfold validKind
  dsimp only at result
  cases source : validateSource appIdPrefix message with
  | none =>
      rw [source] at result
      cases result
      exact .inr (.inr ⟨rfl, rfl, fun _ => rfl⟩)
  | some valid =>
      cases valid with
      | false =>
          rw [source] at result
          cases result
          exact .inr (.inr ⟨rfl, rfl, fun _ => rfl⟩)
      | true =>
          rw [source] at result
          dsimp only at result ⊢
          cases decoded : fromString message.body with
          | none =>
              rw [decoded] at result
              cases result
              exact .inr (.inr ⟨rfl, rfl, fun _ => rfl⟩)
          | some event =>
              rw [decoded] at result
              dsimp only at result ⊢
              by_cases request : event.evtTp = friendRequest
              · rw [if_pos request] at result ⊢
                split at result
                · rename_i refused
                  cases result
                  have full :=
                    (AsyncQueue.putNowait_eq_none_iff positive).mp refused
                  exact .inr (.inl ⟨.request, rfl, full, rfl, rfl⟩)
                · rename_i queue put
                  cases result
                  refine .inl ⟨.request, rfl,
                    AsyncQueue.length_lt_of_putNowait positive put, rfl, ?_⟩
                  intro other
                  cases other with
                  | request =>
                      simp [size, AsyncQueue.items_of_putNowait put]
                  | confirm => rfl
              · rw [if_neg request] at result ⊢
                by_cases confirm : event.evtTp = friendConfirm
                · rw [if_pos confirm] at result ⊢
                  split at result
                  · rename_i refused
                    cases result
                    have full :=
                      (AsyncQueue.putNowait_eq_none_iff positive).mp refused
                    exact .inr (.inl ⟨.confirm, rfl, full, rfl, rfl⟩)
                  · rename_i queue put
                    cases result
                    refine .inl ⟨.confirm, rfl,
                      AsyncQueue.length_lt_of_putNowait positive put, rfl, ?_⟩
                    intro other
                    cases other with
                    | request => rfl
                    | confirm =>
                        simp [size, AsyncQueue.items_of_putNowait put]
                · rw [if_neg confirm] at result ⊢
                  cases result
                  refine .inr (.inr ⟨rfl, rfl, ?_⟩)
                  intro other
                  cases other with
                  | request => rfl
                  | confirm => rfl

theorem size_of_take {kind : FriendKind} {deliveryTag : Nat}
    (taken : queues.take kind = some (deliveryTag, next)) (other : FriendKind) :
    queues.size other = next.size other + if other = kind then 1 else 0 := by
  cases kind with
  | request =>
      obtain ⟨⟨item, queue⟩, got, same⟩ := Option.map_eq_some_iff.mp taken
      cases same
      cases other with
      | request => simp [size, AsyncQueue.items_of_getNowait got]
      | confirm => rfl
  | confirm =>
      obtain ⟨⟨item, queue⟩, got, same⟩ := Option.map_eq_some_iff.mp taken
      cases same
      cases other with
      | request => rfl
      | confirm => simp [size, AsyncQueue.items_of_getNowait got]

end FriendQueues

namespace FriendConsumer

variable {initialQos : Nat} {action : DeliveryAction Body}
  {consumer next : FriendConsumer maxsize Body Request Confirm}
  {trace events : List DeliveryEvent}

theorem step_cases (positive : 0 < maxsize)
    (stepped : step initialQos (validKind appIdPrefix fromString)
      (FriendQueues.onConsume appIdPrefix fromString) consumer action =
        some (next, events)) :
    (∃ kind, events = [.delivered kind, .enqueued kind] ∧
      consumer.queues.size kind < maxsize ∧
      ∀ other, next.queues.size other =
        consumer.queues.size other + if other = kind then 1 else 0) ∨
    (∃ kind, events = [.delivered kind, .queueFull kind] ∧
      ¬ consumer.queues.size kind < maxsize ∧
      consumer.unacknowledged.length < initialQos ∧
      next.queues = consumer.queues) ∨
    (∃ kind, events = [.drained kind] ∧
      ∀ other, consumer.queues.size other =
        next.queues.size other + if other = kind then 1 else 0) ∨
    (events = [] ∧
      ∀ other, next.queues.size other = consumer.queues.size other) := by
  cases action with
  | deliver appId body =>
      rw [step] at stepped
      split at stepped
      · rename_i fewer
        generalize result : FriendQueues.onConsume appIdPrefix fromString
          consumer.queues ⟨consumer.nextTag, appId, body⟩ = consumed
        obtain ⟨queues, consumed⟩ := consumed
        simp only [deliver, result, Option.some.injEq, Prod.mk.injEq]
          at stepped
        obtain ⟨rfl, rfl⟩ := stepped
        rcases FriendQueues.onConsume_cases positive result with
          ⟨kind, valid, room, rfl, sizes⟩ |
          ⟨kind, valid, full, rfl, rfl⟩ | ⟨invalid, quiet, sizes⟩
        · rw [valid]
          exact .inl ⟨kind, rfl, room, sizes⟩
        · rw [valid]
          exact .inr (.inl ⟨kind, rfl, full, fewer, rfl⟩)
        · rw [invalid, quiet]
          exact .inr (.inr (.inr ⟨rfl, sizes⟩))
      · cases stepped
  | drain kind =>
      obtain ⟨⟨deliveryTag, queues⟩, taken, same⟩ :=
        Option.map_eq_some_iff.mp stepped
      cases same
      exact .inr (.inr (.inl
        ⟨kind, rfl, FriendQueues.size_of_take taken⟩))
  | settle deliveryTag =>
      rw [step] at stepped
      split at stepped
      · cases stepped
        exact .inr (.inr (.inr ⟨rfl, fun _ => rfl⟩))
      · cases stepped

/-- What is delivered is queued or refused, and what is queued is drained or
still there; nothing is refused while the draining tasks keep up. -/
structure Balanced (trace : List DeliveryEvent)
    (consumer : FriendConsumer maxsize Body Request Confirm) : Prop where
  queued : ∀ kind, consumer.queues.size kind +
    trace.count (.drained kind) = trace.count (.enqueued kind)
  delivered : ∀ kind, trace.count (.enqueued kind) +
    trace.count (.queueFull kind) = trace.count (.delivered kind)
  keptUp : (∀ kind, .queueFull kind ∉ trace) ↔ KeptUp maxsize trace

end FriendConsumer

end

theorem keptUp_append_delivered {maxsize : Nat} {trace : List DeliveryEvent}
    {kind : FriendKind} {answer : DeliveryEvent}
    (other : ∀ kind, answer ≠ .delivered kind) :
    KeptUp maxsize (trace ++ [.delivered kind, answer]) ↔
      KeptUp maxsize trace ∧ trace.count (.delivered kind) <
        trace.count (.drained kind) + maxsize := by
  unfold KeptUp
  rw [Transition.eachEvent_append, Transition.eachEvent_cons,
    Transition.eachEvent_cons, List.nil_append]
  constructor
  · rintro ⟨before, fewer, _⟩
    exact ⟨before, fewer kind rfl⟩
  · rintro ⟨before, fewer⟩
    refine ⟨before, ?_, ?_, trivial⟩
    · rintro kind ⟨⟩
      exact fewer
    · intro kind same
      exact absurd same (other kind)

theorem keptUp_append_drained {maxsize : Nat} {trace : List DeliveryEvent}
    (kind : FriendKind) :
    KeptUp maxsize (trace ++ [.drained kind]) ↔ KeptUp maxsize trace := by
  unfold KeptUp
  rw [Transition.eachEvent_append]
  constructor
  · exact fun both => both.1
  · intro before
    refine ⟨before, ?_, trivial⟩
    intro kind same
    cases same

section

variable {maxsize : Nat} {Body Request Confirm : Type}
  {appIdPrefix : List Char}
  {fromString : Body → Option (FriendEvent Request Confirm)}

namespace FriendConsumer

variable {initialQos : Nat} {action : DeliveryAction Body}
  {consumer next : FriendConsumer maxsize Body Request Confirm}
  {trace events : List DeliveryEvent} {kind : FriendKind}

theorem Balanced.enqueued (balanced : Balanced trace consumer)
    (room : consumer.queues.size kind < maxsize)
    (sizes : ∀ other, next.queues.size other =
      consumer.queues.size other + if other = kind then 1 else 0) :
    Balanced (trace ++ [.delivered kind, .enqueued kind]) next := by
  refine ⟨?_, ?_, ?_⟩
  · intro other
    have before := balanced.queued other
    rw [sizes other]
    by_cases same : other = kind
    · simp [same, List.count_append]
      rw [same] at before
      omega
    · have different : kind ≠ other := fun equal => same equal.symm
      simp [same, different, List.count_append]
      omega
  · intro other
    have before := balanced.delivered other
    by_cases same : kind = other
    · simp [same, List.count_append]
      omega
    · simp [same, List.count_append]
      omega
  · rw [keptUp_append_delivered (fun _ same => by cases same)]
    constructor
    · intro noQueueFull
      have before : ∀ kind, .queueFull kind ∉ trace := by
        intro kind member
        exact noQueueFull kind (List.mem_append_left _ member)
      have queued := balanced.queued kind
      have delivered := balanced.delivered kind
      rw [List.count_eq_zero_of_not_mem (before kind)] at delivered
      refine ⟨balanced.keptUp.mp before, ?_⟩
      omega
    · rintro ⟨before, _⟩ kind member
      have earlier : .queueFull kind ∈ trace := by
        simpa using member
      exact balanced.keptUp.mpr before kind earlier

theorem Balanced.refused (balanced : Balanced trace consumer)
    (full : ¬ consumer.queues.size kind < maxsize)
    (same : next.queues = consumer.queues) :
    Balanced (trace ++ [.delivered kind, .queueFull kind]) next := by
  refine ⟨?_, ?_, ?_⟩
  · intro other
    rw [same]
    simpa [List.count_append] using balanced.queued other
  · intro other
    have before := balanced.delivered other
    by_cases same : kind = other
    · simp [same, List.count_append]
      omega
    · simp [same, List.count_append]
      omega
  · rw [keptUp_append_delivered (fun _ same => by cases same)]
    constructor
    · intro noQueueFull
      exact absurd (by simp) (noQueueFull kind)
    · rintro ⟨before, fewer⟩
      have noQueueFull := balanced.keptUp.mpr before kind
      have queued := balanced.queued kind
      have delivered := balanced.delivered kind
      rw [List.count_eq_zero_of_not_mem noQueueFull] at delivered
      omega

theorem Balanced.drained (balanced : Balanced trace consumer)
    (sizes : ∀ other, consumer.queues.size other =
      next.queues.size other + if other = kind then 1 else 0) :
    Balanced (trace ++ [.drained kind]) next := by
  refine ⟨?_, ?_, ?_⟩
  · intro other
    have before := balanced.queued other
    rw [sizes other] at before
    by_cases same : other = kind
    · simp [same, List.count_append]
      rw [same, if_pos rfl] at before
      omega
    · have different : kind ≠ other := fun equal => same equal.symm
      simp [different, List.count_append]
      rw [if_neg same] at before
      omega
  · intro other
    simpa [List.count_append] using balanced.delivered other
  · rw [keptUp_append_drained, ← balanced.keptUp]
    simp

theorem Balanced.step (positive : 0 < maxsize)
    (balanced : Balanced trace consumer)
    (stepped : step initialQos (validKind appIdPrefix fromString)
      (FriendQueues.onConsume appIdPrefix fromString) consumer action =
        some (next, events)) :
    Balanced (trace ++ events) next := by
  rcases step_cases positive stepped with
    ⟨kind, rfl, room, sizes⟩ | ⟨kind, rfl, full, _, same⟩ |
    ⟨kind, rfl, sizes⟩ | ⟨rfl, sizes⟩
  · exact balanced.enqueued room sizes
  · exact balanced.refused full same
  · exact balanced.drained sizes
  · rw [List.append_nil]
    refine ⟨?_, balanced.delivered, balanced.keptUp⟩
    intro other
    rw [sizes other]
    exact balanced.queued other

theorem run_balanced (positive : 0 < maxsize)
    (run : Transition.AnyRun (FriendConsumer.step initialQos
      (validKind appIdPrefix fromString)
      (FriendQueues.onConsume appIdPrefix fromString)) {} trace consumer) :
    Balanced trace consumer := by
  apply run.invariant
  · refine ⟨?_, fun _ => rfl, ?_⟩
    · intro kind
      cases kind with
      | request => rfl
      | confirm => rfl
    · constructor
      · intro _
        trivial
      · intro _ kind
        exact List.not_mem_nil
  · intro trace events consumer next action balanced _ stepped
    exact balanced.step positive stepped

theorem run_everyEventEnqueued_iff (positive : 0 < maxsize)
    (run : Transition.AnyRun (FriendConsumer.step initialQos
      (validKind appIdPrefix fromString)
      (FriendQueues.onConsume appIdPrefix fromString)) {} trace consumer) :
    EveryEventEnqueued trace ↔ KeptUp maxsize trace := by
  have balanced := run_balanced positive run
  rw [← balanced.keptUp]
  constructor
  · exact fun every => every.noQueueFull
  · intro noQueueFull
    refine ⟨noQueueFull, ?_⟩
    intro kind
    have delivered := balanced.delivered kind
    rw [List.count_eq_zero_of_not_mem (noQueueFull kind)] at delivered
    exact delivered

/-! ## The prefetch limit -/

/-- What is queued or in a task is unacknowledged. -/
def Within (consumer : FriendConsumer maxsize Body Request Confirm) : Prop :=
  consumer.queues.size .request + consumer.queues.size .confirm +
    consumer.tasks.length ≤ consumer.unacknowledged.length

theorem Within.deliver (positive : 0 < maxsize) (within : consumer.Within)
    (appIdPrefix : List Char)
    (fromString : Body → Option (FriendEvent Request Confirm))
    (appId : Option (List Char)) (body : Body) :
    (consumer.deliver (validKind appIdPrefix fromString)
      (FriendQueues.onConsume appIdPrefix fromString) appId body).1.Within := by
  generalize result : FriendQueues.onConsume appIdPrefix fromString
    consumer.queues ⟨consumer.nextTag, appId, body⟩ = consumed
  obtain ⟨queues, consumed⟩ := consumed
  unfold Within at within
  rw [Within, FriendConsumer.deliver, result]
  rcases FriendQueues.onConsume_cases positive result with
    ⟨kind, _, _, rfl, sizes⟩ | ⟨kind, _, _, rfl, rfl⟩ | ⟨_, _, sizes⟩
  · have requests := sizes .request
    have confirms := sizes .confirm
    cases kind with
    | request =>
        simp at requests confirms ⊢
        omega
    | confirm =>
        simp at requests confirms ⊢
        omega
  · simp
    omega
  · have requests := sizes .request
    have confirms := sizes .confirm
    dsimp only
    split
    · simp
      omega
    · simp
      omega

theorem Within.drain (within : consumer.Within) {deliveryTag : Nat}
    {queues : FriendQueues maxsize Body Request Confirm}
    (taken : consumer.queues.take kind = some (deliveryTag, queues)) :
    Within { consumer with
      queues, tasks := consumer.tasks ++ [deliveryTag] } := by
  have requests := FriendQueues.size_of_take taken .request
  have confirms := FriendQueues.size_of_take taken .confirm
  unfold Within at within ⊢
  rw [requests, confirms] at within
  cases kind with
  | request =>
      simp at within ⊢
      omega
  | confirm =>
      simp at within ⊢
      omega

theorem Within.settle (within : consumer.Within) {deliveryTag : Nat}
    (member : deliveryTag ∈ consumer.tasks) :
    Within { consumer with
      tasks := consumer.tasks.erase deliveryTag
      unacknowledged := consumer.unacknowledged.erase deliveryTag } := by
  have tasks := List.length_erase_of_mem member
  have started := List.length_pos_of_mem member
  have unacknowledged :=
    List.le_length_erase (a := deliveryTag) (l := consumer.unacknowledged)
  unfold Within at within ⊢
  dsimp only
  omega

theorem Within.step (positive : 0 < maxsize) (within : consumer.Within)
    (stepped : step initialQos (validKind appIdPrefix fromString)
      (FriendQueues.onConsume appIdPrefix fromString) consumer action =
        some (next, events)) :
    next.Within := by
  cases action with
  | deliver appId body =>
      rw [FriendConsumer.step] at stepped
      split at stepped
      · have delivered := within.deliver positive appIdPrefix
          fromString appId body
        rw [Option.some.inj stepped] at delivered
        exact delivered
      · cases stepped
  | drain kind =>
      obtain ⟨⟨deliveryTag, queues⟩, taken, same⟩ :=
        Option.map_eq_some_iff.mp stepped
      cases same
      exact within.drain taken
  | settle deliveryTag =>
      rw [FriendConsumer.step] at stepped
      split at stepped
      · rename_i member
        cases stepped
        exact within.settle member
      · cases stepped

theorem size_le_of_within (within : consumer.Within) (kind : FriendKind) :
    consumer.queues.size kind ≤ consumer.unacknowledged.length := by
  unfold Within at within
  cases kind with
  | request => omega
  | confirm => omega

/-- Queues as large as the prefetch limit never overflow, whatever the
draining tasks do. -/
theorem run_everyEventEnqueued_of_le (positive : 0 < maxsize)
    (large : initialQos ≤ maxsize)
    (run : Transition.AnyRun (FriendConsumer.step initialQos
      (validKind appIdPrefix fromString)
      (FriendQueues.onConsume appIdPrefix fromString)) {} trace consumer) :
    EveryEventEnqueued trace := by
  have kept : consumer.Within ∧ ∀ kind, .queueFull kind ∉ trace := by
    apply run.invariant
    · exact ⟨Nat.le_refl _, fun _ => List.not_mem_nil⟩
    · rintro trace events consumer next action ⟨within, noQueueFull⟩ _
        stepped
      refine ⟨within.step positive stepped, ?_⟩
      intro other member
      rcases List.mem_append.mp member with before | now
      · exact noQueueFull other before
      · rcases step_cases positive stepped with
          ⟨kind, rfl, _, _⟩ | ⟨kind, _, full, fewer, _⟩ |
          ⟨kind, rfl, _⟩ | ⟨rfl, _⟩
        · simp at now
        · have few := size_le_of_within within kind
          omega
        · simp at now
        · cases now
  have balanced := run_balanced positive run
  exact (run_everyEventEnqueued_iff positive run).mpr
    (balanced.keptUp.mp kept.2)

end FriendConsumer

/-- In both modules every valid event is queued in the runs, and only in them,
in which the draining tasks keep up with the deliveries. -/
theorem friendWorkers_everyEventEnqueued_iff (appIdPrefix : List Char)
    (fromString : Body → Option (FriendEvent Request Confirm))
    (trace : List DeliveryEvent) :
    (∀ consumer, Transition.AnyRun
        (FriendToPsql.step appIdPrefix fromString) {} trace consumer →
      (EveryEventEnqueued trace ↔ KeptUp FriendToPsql.maxsize trace)) ∧
    (∀ consumer, Transition.AnyRun
        (FriendToPush.step appIdPrefix fromString) {} trace consumer →
      (EveryEventEnqueued trace ↔ KeptUp FriendToPush.maxsize trace)) := by
  constructor
  · intro consumer run
    exact FriendConsumer.run_everyEventEnqueued_iff (by decide) run
  · intro consumer run
    exact FriendConsumer.run_everyEventEnqueued_iff (by decide) run

end

/-- A request and a confirm are delivered, and the confirm is drained. -/
theorem friendWorkers_everyEventEnqueued_two :
    (∃ trace consumer, Transition.AnyRun
        (FriendToPsql.step [] (some : FriendEvent Unit Unit → _)) {}
          trace consumer ∧ EveryEventEnqueued trace) ∧
    (∃ trace consumer, Transition.AnyRun
        (FriendToPush.step [] (some : FriendEvent Unit Unit → _)) {}
          trace consumer ∧ EveryEventEnqueued trace) := by
  constructor
  · have ran : ∃ trace consumer, Transition.AnyRun
        (FriendToPsql.step [] (some : FriendEvent Unit Unit → _)) {}
          trace consumer ∧
        trace = [.delivered .request, .enqueued .request,
          .delivered .confirm, .enqueued .confirm, .drained .confirm] := by
      apply Transition.Run.exists_both_of_exec
        [.deliver (some []) ⟨0, (), ()⟩, .deliver (some []) ⟨1, (), ()⟩,
          .drain .confirm]
      decide
    obtain ⟨trace, consumer, run, rfl⟩ := ran
    refine ⟨_, consumer, run, ?_⟩
    apply ((friendWorkers_everyEventEnqueued_iff [] some _).1
      consumer run).mpr
    simp [KeptUp, FriendToPsql.maxsize]
  · have ran : ∃ trace consumer, Transition.AnyRun
        (FriendToPush.step [] (some : FriendEvent Unit Unit → _)) {}
          trace consumer ∧
        trace = [.delivered .request, .enqueued .request,
          .delivered .confirm, .enqueued .confirm, .drained .confirm] := by
      apply Transition.Run.exists_both_of_exec
        [.deliver (some []) ⟨0, (), ()⟩, .deliver (some []) ⟨1, (), ()⟩,
          .drain .confirm]
      decide
    obtain ⟨trace, consumer, run, rfl⟩ := ran
    refine ⟨_, consumer, run, ?_⟩
    apply ((friendWorkers_everyEventEnqueued_iff [] some _).2
      consumer run).mpr
    simp [KeptUp, FriendToPush.maxsize]

/-- Sixty-five requests are delivered before the `friend_handler` runs. -/
theorem burst_of_requests_refused :
    ¬ ∀ (trace : List DeliveryEvent) (consumer : FriendConsumer _ _ _ _),
      Transition.AnyRun
        (FriendToPsql.step [] (some : FriendEvent Unit Unit → _)) {}
          trace consumer →
        EveryEventEnqueued trace := by
  intro always
  have ran : ∃ trace consumer, Transition.AnyRun
      (FriendToPsql.step [] (some : FriendEvent Unit Unit → _)) {}
        trace consumer ∧ .queueFull .request ∈ trace := by
    apply Transition.Run.exists_both_of_exec
      (List.replicate 65 (.deliver (some []) ⟨0, (), ()⟩))
    decide +kernel
  obtain ⟨trace, consumer, run, refused⟩ := ran
  exact (always trace consumer run).noQueueFull .request refused

end Worker

end TinyChat
