import TinyChat.Rmq.Stream

/-!
# Safety of committed offsets

The offset handed to `store_offset` is read from the first span of the
record's queue.  It stays below every unacknowledged delivery as long as that
span starts no later than the offset from which the broker delivers.  Two
kinds of acknowledgements move the first span past that offset: the one that
opens an empty queue, and one that joins the first span to a span that was
listed after it.
-/

namespace TinyChat

namespace AckQueue

/-- The first span on the ring, if there is one, starts by `limit`. -/
def StartsBy (queue : AckQueue) (nodes : List Ref) (limit : Int) : Prop :=
  ∀ first ∈ nodes.head?, (queue.heap first).start ≤ limit

/-- Whether `add(start)` leaves a first span that starts by `limit`: it
opens an empty queue by `limit`, and if it recycles the first span then the
span listed after it starts by `limit`. -/
def keepsFirstSpan (queue : AckQueue) (limit start : Int) : Bool :=
  match queue.iterator with
  | [] => decide (start ≤ limit)
  | first :: rest =>
      !((queue.queryRight start).isSome &&
        queue.queryLeft (start + 1) == some first) ||
      rest.head?.any (fun second => (queue.heap second).start ≤ limit)

variable {queue queue' : AckQueue} {nodes nodes' : List Ref}
  {limit start : Int}

theorem Wf.firstEnd_nil (wf : Wf queue []) : queue.firstEnd = 0 := by
  have rootMember : spanRoot ∈ [spanRoot] := by simp
  obtain ⟨after, member, nextLink, _⟩ := wf.ring.next_inverse rootMember
  have isRoot : after = spanRoot := by simpa using member
  have link : (queue.heap spanRoot).next = some spanRoot := by
    simpa [nextOf, isRoot] using nextLink
  rw [AckQueue.firstEnd, link]
  exact wf.sentinel

theorem Wf.firstEnd_cons {first : Ref} {rest : List Ref}
    (wf : Wf queue (first :: rest)) :
    queue.firstEnd = (queue.heap first).end_ := by
  have path := wf.ring.path
  rw [List.cons_append, List.isChain_cons_cons] at path
  have link : (queue.heap spanRoot).next = some first := path.1.1
  rw [AckQueue.firstEnd, link]

theorem Wf.holdsIn_of_lt_firstEnd (wf : Wf queue nodes)
    (startsBy : StartsBy queue nodes limit) {value : Int}
    (nonneg : 0 ≤ value) (lower : limit ≤ value)
    (upper : value < queue.firstEnd) :
    HoldsIn queue nodes value := by
  cases nodes with
  | nil =>
      rw [wf.firstEnd_nil] at upper
      omega
  | cons first rest =>
      rw [wf.firstEnd_cons] at upper
      have firstStart := startsBy first (by simp)
      exact ⟨first, by simp, by omega, upper⟩

theorem Wf.startsBy_added (wf : Wf queue nodes)
    (startsBy : StartsBy queue nodes limit)
    (kept : queue.keepsFirstSpan limit start = true)
    (added : Added queue nodes start queue' nodes') :
    StartsBy queue' nodes' limit := by
  rw [keepsFirstSpan, wf.iterator_eq] at kept
  cases added with
  | ignored negative => exact startsBy
  | @merged front rest leftSpan rightSpan nonneg split foundLeft foundRight =>
      subst split
      intro first member
      have startEq : ((queue.addMerge start leftSpan rightSpan).heap
          first).start = (queue.heap first).start := by
        simp [AckQueue.addMerge]
      rw [startEq]
      cases front with
      | nil =>
          have second : rest.head? = some first := by simpa using member
          simpa [foundLeft, foundRight, second] using kept
      | cons head front =>
          have isHead : head = first := by simpa using member
          subst isHead
          exact startsBy head (by simp)
  | @grownRight leftSpan nonneg foundLeft foundRight =>
      intro first member
      simpa [AckQueue.addLeft] using startsBy first member
  | @grownLeft rightSpan nonneg foundLeft foundRight =>
      intro first member
      have old := startsBy first member
      simp only [AckQueue.addRight, Heap.setStart_apply]
      split
      · rename_i same
        subst same
        omega
      · exact old
  | listed nonneg foundLeft foundRight =>
      intro first member
      rw [wf.addNew_start]
      cases nodes with
      | nil =>
          have isNew : first = (queue.takeSpan start).1 := by
            simpa [eq_comm] using member
          rw [if_pos isNew]
          simpa using kept
      | cons head rest =>
          have isHead : head = first := by simpa using member
          subst isHead
          have notNew : head ≠ (queue.takeSpan start).1 := by
            intro same
            exact (wf.takeSpan start).unlisted (by simp [same])
          rw [if_neg notNew]
          exact startsBy head (by simp)

end AckQueue

namespace Rmq

namespace Event

def recordDelivered (delivered : List Int) : Event → List Int
  | .activated _ => []
  | .deactivated => []
  | .delivered offset => delivered ++ [offset]
  | _ => delivered

def recordAcked (acked : List Int) : Event → List Int
  | .activated _ => []
  | .deactivated => []
  | .acked offset => acked ++ [offset]
  | _ => acked

end Event

/-- The offsets delivered in the current activation. -/
def deliveredNow (trace : List Event) : List Int :=
  trace.foldl Event.recordDelivered []

/-- The offsets acknowledged in the current activation. -/
def ackedNow (trace : List Event) : List Int :=
  trace.foldl Event.recordAcked []

/-- A committed offset is below every offset that was delivered in the
current activation and is not yet acknowledged. -/
def CommitSafe (before : List Event) : Event → Prop
  | .storeOffset committed =>
      ∀ offset ∈ deliveredNow before,
        offset ∉ ackedNow before → committed < offset
  | _ => True

instance (before : List Event) :
    (event : Event) → Decidable (CommitSafe before event)
  | .storeOffset committed =>
      inferInstanceAs (Decidable (∀ offset ∈ deliveredNow before,
        offset ∉ ackedNow before → committed < offset))
  | .activated _ => .isTrue trivial
  | .deactivated => .isTrue trivial
  | .delivered _ => .isTrue trivial
  | .acked _ => .isTrue trivial

namespace Consumer

/-- The broker delivers from the requested offset on, and no acknowledgement
of an active consumer moves the first span past that offset. -/
def InOrder (consumer : Consumer) : Action → Prop
  | .deliver offset => consumer.subscribedFrom ≤ offset
  | .ack offset =>
      consumer.record.isFrozen = true ∨
        consumer.record.queue.keepsFirstSpan consumer.subscribedFrom
          offset = true
  | _ => True

instance (consumer : Consumer) :
    (action : Action) → Decidable (consumer.InOrder action)
  | .deliver offset =>
      inferInstanceAs (Decidable (consumer.subscribedFrom ≤ offset))
  | .ack offset =>
      inferInstanceAs (Decidable (consumer.record.isFrozen = true ∨
        consumer.record.queue.keepsFirstSpan consumer.subscribedFrom
          offset = true))
  | .activate _ => .isTrue trivial
  | .deactivate => .isTrue trivial
  | .listenerStoreDone _ _ _ => .isTrue trivial
  | .tick _ => .isTrue trivial
  | .timerStoreDone _ _ _ => .isTrue trivial

/-- The calls on the record's queue that a step makes. -/
def queueOps : Action → List AckQueue.Op
  | .activate (.stored offset) => [.clear, .add offset]
  | .activate _ => [.clear]
  | .deactivate => [.clear]
  | .ack offset => [.add offset]
  | _ => []

/-- What a step can do: start or end an activation, hand out a message,
acknowledge one, or leave the queue and the activation alone and report at
most a commit. -/
inductive Moved (consumer : Consumer) :
    Action → Consumer → List Event → Prop where
  | activated {reply : QueryReply} :
      Moved consumer (.activate reply) (consumer.activate reply)
        [.activated (consumer.activate reply).subscribedFrom]
  | deactivated :
      Moved consumer .deactivate consumer.deactivate.1 consumer.deactivate.2
  | delivered {offset : Int} :
      consumer.record.isFrozen = false →
      Moved consumer (.deliver offset)
        { consumer with messages := consumer.messages ++ [offset] }
        [.delivered offset]
  | acked {offset : Int} :
      Moved consumer (.ack offset)
        { consumer with record := consumer.record.add offset }
        [.acked offset]
  | kept {action : Action} {next : Consumer} {events : List Event} :
      queueOps action = [] →
      next.record.queue = consumer.record.queue →
      next.record.isFrozen = consumer.record.isFrozen →
      next.subscribedFrom = consumer.subscribedFrom →
      (events = [] ∨
        events = [.storeOffset (consumer.record.expectedOffset - 1)]) →
      Moved consumer action next events

theorem step_moved {consumer next : Consumer} {action : Action}
    {events : List Event}
    (stepped : step consumer action = some (next, events)) :
    Moved consumer action next events := by
  cases action with
  | activate reply =>
      cases stepped
      exact .activated
  | deactivate =>
      have result : consumer.deactivate = (next, events) :=
        Option.some.inj stepped
      have moved : Moved consumer .deactivate consumer.deactivate.1
          consumer.deactivate.2 := .deactivated
      rw [result] at moved
      exact moved
  | listenerStoreDone offset result now =>
      simp only [step, Option.ite_none_right_eq_some] at stepped
      cases stepped.2
      cases result with
      | success => exact .kept rfl rfl rfl rfl (.inl rfl)
      | failed => exact .kept rfl rfl rfl rfl (.inl rfl)
      | cancelled => exact .kept rfl rfl rfl rfl (.inl rfl)
  | deliver offset =>
      simp only [step] at stepped
      split at stepped
      · cases stepped
        exact .kept rfl rfl rfl rfl (.inl rfl)
      · rename_i unfrozen
        cases stepped
        exact .delivered (by simpa using unfrozen)
  | ack offset =>
      simp only [step, Option.ite_none_right_eq_some] at stepped
      cases stepped.2
      exact .acked
  | tick now =>
      simp only [step, tick, Option.ite_none_right_eq_some] at stepped
      have result := Option.some.inj stepped.2
      split at result
      · cases result
        exact .kept rfl rfl rfl rfl (.inl rfl)
      · split at result
        · cases result
          exact .kept rfl rfl rfl rfl (.inr rfl)
        · cases result
          exact .kept rfl rfl rfl rfl (.inl rfl)
  | timerStoreDone offset result now =>
      simp only [step, Option.ite_none_right_eq_some] at stepped
      cases stepped.2
      refine .kept rfl ?_ ?_ rfl (.inl rfl)
      · simp only [onStoreOffset]
        split
        · cases result <;> rfl
        · rfl
      · simp only [onStoreOffset]
        split
        · cases result <;> rfl
        · rfl

/-- What an active consumer knows: the first span starts by the requested
offset, what the queue holds from that offset on was acknowledged, and
nothing was delivered before it. -/
structure ActiveInv (trace : List Event) (consumer : Consumer) : Prop where
  startsBy : consumer.record.queue.StartsBy consumer.record.queue.iterator
    consumer.subscribedFrom
  held : ∀ value,
    consumer.record.queue.HoldsIn consumer.record.queue.iterator value →
    consumer.subscribedFrom ≤ value → value ∈ ackedNow trace
  delivered : ∀ offset ∈ deliveredNow trace,
    consumer.subscribedFrom ≤ offset

structure Inv (trace : List Event) (consumer : Consumer) : Prop where
  commits : Transition.EachEvent CommitSafe [] trace
  nonneg : 0 ≤ consumer.subscribedFrom
  wf : consumer.record.queue.Wf consumer.record.queue.iterator
  active : consumer.record.isFrozen = false → ActiveInv trace consumer
  frozen : consumer.record.isFrozen = true → deliveredNow trace = []

theorem start_inv : Inv [] start where
  commits := trivial
  nonneg := le_refl 0
  wf := AckQueue.new_wf.listed
  active := by
    intro unfrozen
    cases unfrozen
  frozen := fun _ => rfl

section

variable {trace : List Event} {consumer next : Consumer}

theorem Inv.commitSafe (inv : Inv trace consumer) :
    CommitSafe trace (.storeOffset (consumer.record.expectedOffset - 1)) := by
  intro offset delivered unacked
  cases frozen : consumer.record.isFrozen with
  | true =>
      rw [inv.frozen frozen] at delivered
      cases delivered
  | false =>
      have active := inv.active frozen
      have lower := active.delivered offset delivered
      have nonneg := inv.nonneg
      by_contra notBelow
      have upper : offset < consumer.record.queue.firstEnd := by
        simp only [OffsetRecord.expectedOffset] at notBelow
        omega
      have held := inv.wf.holdsIn_of_lt_firstEnd active.startsBy
        (by omega) lower upper
      exact unacked (active.held offset held lower)

/-- A step that changes neither the queue nor the activation, and reports
at most a commit, keeps the invariant. -/
theorem Inv.frame {events : List Event} (inv : Inv trace consumer)
    (sameQueue : next.record.queue = consumer.record.queue)
    (sameFrozen : next.record.isFrozen = consumer.record.isFrozen)
    (sameFrom : next.subscribedFrom = consumer.subscribedFrom)
    (onlyCommit : events = [] ∨
      events = [.storeOffset (consumer.record.expectedOffset - 1)]) :
    Inv (trace ++ events) next := by
  have commits : Transition.EachEvent CommitSafe [] (trace ++ events) := by
    rw [Transition.eachEvent_append]
    refine ⟨inv.commits, ?_⟩
    rcases onlyCommit with silent | commit
    · simp [silent]
    · simpa [commit] using inv.commitSafe
  have sameDelivered : deliveredNow (trace ++ events) = deliveredNow trace := by
    rcases onlyCommit with silent | commit
    · simp [silent]
    · simp [commit, deliveredNow, Event.recordDelivered]
  have sameAcked : ackedNow (trace ++ events) = ackedNow trace := by
    rcases onlyCommit with silent | commit
    · simp [silent]
    · simp [commit, ackedNow, Event.recordAcked]
  constructor
  · exact commits
  · rw [sameFrom]
    exact inv.nonneg
  · rw [sameQueue]
    exact inv.wf
  · intro unfrozen
    rw [sameFrozen] at unfrozen
    have active := inv.active unfrozen
    constructor
    · rw [sameQueue, sameFrom]
      exact active.startsBy
    · rw [sameQueue, sameFrom, sameAcked]
      exact active.held
    · rw [sameFrom, sameDelivered]
      exact active.delivered
  · intro isFrozen
    rw [sameDelivered]
    exact inv.frozen (sameFrozen ▸ isFrozen)

theorem Inv.commits_append (inv : Inv trace consumer) {event : Event}
    (safe : CommitSafe trace event) :
    Transition.EachEvent CommitSafe [] (trace ++ [event]) := by
  rw [Transition.eachEvent_append]
  simpa using And.intro inv.commits safe

@[simp] theorem deliveredNow_append (event : Event) :
    deliveredNow (trace ++ [event]) =
      event.recordDelivered (deliveredNow trace) := by
  simp [deliveredNow]

@[simp] theorem ackedNow_append (event : Event) :
    ackedNow (trace ++ [event]) = event.recordAcked (ackedNow trace) := by
  simp [ackedNow]

/-- An activation starts from an empty queue, or from one span that ends at
the requested offset. -/
theorem Inv.activate (inv : Inv trace consumer) (reply : QueryReply) :
    Inv (trace ++ [Event.activated (consumer.activate reply).subscribedFrom])
      (consumer.activate reply) := by
  have cleared := inv.wf.clear
  have emptied := cleared.iterator_eq
  have delivered : deliveredNow (trace ++
      [Event.activated (consumer.activate reply).subscribedFrom]) = [] := by
    simp [Event.recordDelivered]
  refine ⟨inv.commits_append trivial, ?_, ?_, ?_, fun _ => delivered⟩
  · cases reply with
    | stored offset =>
        simp only [Consumer.activate]
        omega
    | offsetNotFound => exact le_refl 0
    | otherError => exact le_refl 0
  · cases reply with
    | stored offset =>
        obtain ⟨nodes, added⟩ := cleared.add_cases offset
        exact (cleared.added added).listed
    | offsetNotFound => exact cleared.listed
    | otherError => exact cleared.listed
  · intro _
    have noDelivery : ∀ offset ∈ deliveredNow (trace ++
        [Event.activated (consumer.activate reply).subscribedFrom]),
        (consumer.activate reply).subscribedFrom ≤ offset := by
      rw [delivered]
      simp
    cases reply with
    | stored offset =>
        obtain ⟨nodes, added⟩ := cleared.add_cases offset
        have listedEq := (cleared.added added).iterator_eq
        refine ⟨?_, ?_, noDelivery⟩
        · change AckQueue.StartsBy (consumer.record.queue.clear.add offset)
            (consumer.record.queue.clear.add offset).iterator (offset + 1)
          rw [listedEq]
          refine cleared.startsBy_added (by simp [AckQueue.StartsBy]) ?_ added
          simp only [AckQueue.keepsFirstSpan, emptied, decide_eq_true_eq]
          omega
        · intro value held lower
          change AckQueue.HoldsIn (consumer.record.queue.clear.add offset)
            (consumer.record.queue.clear.add offset).iterator value at held
          rw [listedEq, cleared.holdsIn_added added] at held
          have fromOffset : (offset : Int) + 1 ≤ value := lower
          rcases held with ⟨ref, listed, _⟩ | ⟨same, _⟩
          · cases listed
          · omega
    | offsetNotFound =>
        refine ⟨?_, ?_, noDelivery⟩
        · simp [Consumer.activate, OffsetRecord.unfreeze, emptied,
            AckQueue.StartsBy]
        · simp [Consumer.activate, OffsetRecord.unfreeze, emptied,
            AckQueue.HoldsIn]
    | otherError =>
        refine ⟨?_, ?_, noDelivery⟩
        · simp [Consumer.activate, OffsetRecord.unfreeze, emptied,
            AckQueue.StartsBy]
        · simp [Consumer.activate, OffsetRecord.unfreeze, emptied,
            AckQueue.HoldsIn]

theorem deactivate_spec (consumer : Consumer) :
    (consumer.deactivate.2 =
        [.storeOffset (consumer.record.expectedOffset - 1), .deactivated] ∨
      consumer.deactivate.2 = [.deactivated]) ∧
    consumer.deactivate.1.record.isFrozen = true ∧
    consumer.deactivate.1.record.queue = consumer.record.queue.clear ∧
    consumer.deactivate.1.subscribedFrom = consumer.subscribedFrom := by
  simp only [Consumer.deactivate]
  split
  · exact ⟨.inl rfl, rfl, rfl, rfl⟩
  · exact ⟨.inr rfl, rfl, rfl, rfl⟩

theorem Inv.deactivate (inv : Inv trace consumer) :
    Inv (trace ++ consumer.deactivate.2) consumer.deactivate.1 := by
  obtain ⟨events, isFrozen, queueEq, fromEq⟩ := deactivate_spec consumer
  have delivered :
      deliveredNow (trace ++ consumer.deactivate.2) = [] := by
    rcases events with commit | silent
    · simp [commit, deliveredNow, Event.recordDelivered]
    · simp [silent, Event.recordDelivered]
  refine ⟨?_, ?_, ?_, ?_, fun _ => delivered⟩
  · rcases events with commit | silent
    · rw [commit, Transition.eachEvent_append]
      exact ⟨inv.commits, inv.commitSafe, trivial, trivial⟩
    · rw [silent]
      exact inv.commits_append trivial
  · rw [fromEq]
    exact inv.nonneg
  · rw [queueEq]
    exact inv.wf.clear.listed
  · intro unfrozen
    rw [isFrozen] at unfrozen
    cases unfrozen

theorem Inv.deliver {offset : Int} {messages : List Int}
    (inv : Inv trace consumer)
    (unfrozen : consumer.record.isFrozen = false)
    (fromRequested : consumer.subscribedFrom ≤ offset) :
    Inv (trace ++ [Event.delivered offset])
      { consumer with messages := messages } := by
  have active := inv.active unfrozen
  refine ⟨inv.commits_append trivial, inv.nonneg, inv.wf, ?_, ?_⟩
  · intro _
    refine ⟨active.startsBy, ?_, ?_⟩
    · simpa [Event.recordAcked] using active.held
    · intro value member
      simp only [deliveredNow_append, Event.recordDelivered,
        List.mem_append, List.mem_singleton] at member
      rcases member with earlier | same
      · exact active.delivered value earlier
      · rw [same]
        exact fromRequested
  · intro isFrozen
    change consumer.record.isFrozen = true at isFrozen
    rw [unfrozen] at isFrozen
    cases isFrozen

theorem Inv.ack {offset : Int} (inv : Inv trace consumer)
    (inOrder : consumer.InOrder (.ack offset)) :
    Inv (trace ++ [Event.acked offset])
      { consumer with record := consumer.record.add offset } := by
  obtain ⟨nodes, added⟩ := inv.wf.add_cases offset
  have wf := inv.wf.added added
  have listedEq : (consumer.record.add offset).queue.iterator = nodes :=
    wf.iterator_eq
  refine ⟨inv.commits_append trivial, inv.nonneg, wf.listed, ?_, ?_⟩
  · intro unfrozen
    change consumer.record.isFrozen = false at unfrozen
    have active := inv.active unfrozen
    have kept : consumer.record.queue.keepsFirstSpan
        consumer.subscribedFrom offset = true := by
      rcases inOrder with frozen | kept
      · rw [unfrozen] at frozen
        cases frozen
      · exact kept
    constructor
    · simp only [listedEq]
      exact inv.wf.startsBy_added active.startsBy kept added
    · intro value held lower
      simp only [listedEq] at held
      simp only [ackedNow_append, Event.recordAcked, List.mem_append,
        List.mem_singleton]
      rcases (inv.wf.holdsIn_added added value).mp held with old | ⟨same, _⟩
      · exact .inl (active.held value old lower)
      · exact .inr same
    · simpa [Event.recordDelivered] using active.delivered
  · intro isFrozen
    simpa [Event.recordDelivered] using inv.frozen isFrozen

theorem Inv.moved {action : Action} {events : List Event}
    (inv : Inv trace consumer) (inOrder : consumer.InOrder action)
    (moved : Moved consumer action next events) :
    Inv (trace ++ events) next := by
  cases moved with
  | activated => exact inv.activate _
  | deactivated => exact inv.deactivate
  | delivered unfrozen => exact inv.deliver unfrozen inOrder
  | acked => exact inv.ack inOrder
  | kept _ sameQueue sameFrozen sameFrom onlyCommit =>
      exact inv.frame sameQueue sameFrozen sameFrom onlyCommit

end

/-- In every run in which the broker delivers from the requested offset on
and no acknowledgement moves the first span past it, every committed offset
is below the unacknowledged deliveries of the current activation. -/
theorem committed_below_unacked {trace : List Event} {consumer : Consumer}
    (run : Transition.Run step InOrder start trace consumer) :
    Transition.EachEvent CommitSafe [] trace := by
  have inv : Inv trace consumer :=
    run.invariant start_inv
      (fun inv inOrder stepped => inv.moved inOrder (step_moved stepped))
  exact inv.commits

/-- After offset 3 was stored, acknowledging 5 before 4 commits 5 only once
4 is acknowledged as well. -/
theorem committed_below_unacked_stored :
    ∃ trace consumer, Transition.Run step InOrder start trace consumer ∧
      .storeOffset 5 ∈ trace ∧ Transition.EachEvent CommitSafe [] trace := by
  have executed : (Transition.exec step InOrder start
      [.activate (.stored 3), .deliver 4, .deliver 5, .ack 5, .ack 4,
        .deactivate]).map Prod.snd =
      some [.activated 4, .delivered 4, .delivered 5, .acked 5, .acked 4,
        .storeOffset 5, .deactivated] := by
    decide
  obtain ⟨consumer, run⟩ := Transition.Run.exists_of_exec executed
  exact ⟨_, consumer, run, by decide, committed_below_unacked run⟩

/-- Without a stored offset the first acknowledgement opens the queue: when
1 is acknowledged before 0, offset 1 is committed. -/
theorem commits_past_unacked :
    ¬ ∀ trace consumer, Transition.AnyRun step start trace consumer →
      Transition.EachEvent CommitSafe [] trace := by
  intro safe
  have executed : (Transition.exec step (fun _ _ => True) start
      [.activate .offsetNotFound, .deliver 0, .deliver 1, .ack 1,
        .deactivate]).map Prod.snd =
      some [.activated 0, .delivered 0, .delivered 1, .acked 1,
        .storeOffset 1, .deactivated] := by
    decide
  obtain ⟨consumer, run⟩ := Transition.Run.exists_of_exec executed
  have claimed := safe _ _ run
  revert claimed
  decide

end Consumer

end Rmq

end TinyChat
