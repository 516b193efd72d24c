import TinyChat.Message.QueueCursor
import TinyChat.Push.ChannelSteps

/-!
# What the generator yields while the queue changes

The iterator counts its steps when a pass begins, and the queue changes at
every suspension.  As long as no span at or after the cursor is merged away,
the cursor stays on the list and only acknowledged ids are yielded.
-/

namespace TinyChat

open Transition LinkedRing

namespace Push

/-- The events after the last `clear`. -/
def sinceClear (trace : List ChannelEvent) : List ChannelEvent :=
  trace.foldl
    (fun events event => if event = .cleared then [] else events ++ [event])
    []

@[simp] theorem sinceClear_nil : sinceClear [] = [] := rfl

@[simp] theorem sinceClear_cleared (trace : List ChannelEvent) :
    sinceClear (trace ++ [ChannelEvent.cleared]) = [] := by
  simp [sinceClear]

theorem sinceClear_append (trace : List ChannelEvent)
    {events : List ChannelEvent} (others : .cleared ∉ events) :
    sinceClear (trace ++ events) = sinceClear trace ++ events := by
  induction events using List.reverseRecOn with
  | nil => simp
  | append_singleton events event induction =>
      simp only [List.mem_append, List.mem_singleton, not_or] at others
      have other : ¬ event = .cleared := fun same => others.2 same.symm
      have earlier := induction others.1
      simp only [sinceClear] at earlier ⊢
      rw [← List.append_assoc, List.foldl_append, earlier]
      simp [other]

/-- The id was added after the last `clear`. -/
def AckedSince (trace : List ChannelEvent) (value : Int) : Prop :=
  ∃ deliveryId : Nat,
    value = deliveryId ∧ .added deliveryId ∈ sinceClear trace

namespace PushChannel

variable {channel next : PushChannel} {action : ChannelAction}
  {trace events : List ChannelEvent} {nodes : List Ref}

/-- The nodes that a pass has still to visit. -/
def upcoming (channel : PushChannel) : List Ref :=
  match channel.feedback with
  | .waiting => channel.ackQueue.iterator
  | .walking node remaining _ =>
      walk (AckQueue.nextOf channel.ackQueue.heap) remaining
        (channel.ackQueue.heap node).next
  | _ => []

/-- The node of a suspended generator, and those that it has still to
visit. -/
def fromCursor (channel : PushChannel) : List Ref :=
  match channel.feedback with
  | .walking node _ _ => node :: channel.upcoming
  | _ => []

/-- An id that is added does not take a span off the list that the generator
stands at or has still to visit. -/
def SparesCursor (channel : PushChannel) (action : ChannelAction) : Prop :=
  ∀ deliveryId ∈ addedBy action,
    ∀ ref ∈ channel.ackQueue.mergedAway deliveryId, ref ∉ channel.fromCursor

instance (channel : PushChannel) (action : ChannelAction) :
    Decidable (channel.SparesCursor action) :=
  inferInstanceAs (Decidable (∀ deliveryId ∈ addedBy action, _))

/-- The cursor is on the list, with as many nodes after it as steps are
left. -/
def OnList (channel : PushChannel) (nodes : List Ref) : Prop :=
  ∀ node remaining yielded,
    channel.feedback = .walking node remaining yielded →
    ∃ behind ahead later, nodes = behind ++ node :: (ahead ++ later) ∧
      ahead.length = remaining

/-- The queue holds the ids that were added after the last `clear`. -/
structure Tracks (trace : List ChannelEvent) (channel : PushChannel)
    (nodes : List Ref) : Prop where
  wf : AckQueue.Wf channel.ackQueue nodes
  holds : ∀ value, AckQueue.HoldsIn channel.ackQueue nodes value ↔
    AckedSince trace value

theorem tracks_initial : Tracks [] {} [] where
  wf := AckQueue.new_wf
  holds := by simp [AckQueue.HoldsIn, AckedSince]

theorem ackedSince_append (others : .cleared ∉ events) (value : Int) :
    AckedSince (trace ++ events) value ↔ AckedSince trace value ∨
      ∃ deliveryId : Nat, value = deliveryId ∧
        .added deliveryId ∈ events := by
  simp only [AckedSince, sinceClear_append trace others, List.mem_append]
  constructor
  · rintro ⟨deliveryId, same, before | now⟩
    · exact Or.inl ⟨deliveryId, same, before⟩
    · exact Or.inr ⟨deliveryId, same, now⟩
  · rintro (⟨deliveryId, same, before⟩ | ⟨deliveryId, same, now⟩)
    · exact ⟨deliveryId, same, Or.inl before⟩
    · exact ⟨deliveryId, same, Or.inr now⟩

/-- Events that add nothing change nothing. -/
theorem ackedSince_append_other (others : .cleared ∉ events)
    (nothing : ∀ deliveryId, .added deliveryId ∉ events) (value : Int) :
    AckedSince (trace ++ events) value ↔ AckedSince trace value := by
  rw [ackedSince_append others]
  constructor
  · rintro (before | ⟨deliveryId, _, now⟩)
    · exact before
    · exact absurd now (nothing deliveryId)
  · exact Or.inl

theorem ackedSince_append_added {deliveryId : Nat}
    {rest : List ChannelEvent} (tail : rest = [] ∨ rest = [.invalidState])
    (value : Int) :
    AckedSince (trace ++ .added deliveryId :: rest) value ↔
      AckedSince trace value ∨ value = deliveryId := by
  have others : ChannelEvent.cleared ∉ .added deliveryId :: rest := by
    rcases tail with rfl | rfl
    · simp
    · simp
  have only : ∀ other, ChannelEvent.added other ∈ .added deliveryId :: rest ↔
      other = deliveryId := by
    intro other
    rcases tail with rfl | rfl
    · simp
    · simp
  rw [ackedSince_append others]
  simp only [only]
  constructor
  · rintro (before | ⟨_, same, rfl⟩)
    · exact Or.inl before
    · exact Or.inr same
  · rintro (before | same)
    · exact Or.inl before
    · exact Or.inr ⟨deliveryId, same, rfl⟩

theorem Tracks.append_other (tracks : Tracks trace channel nodes)
    (others : .cleared ∉ events)
    (nothing : ∀ deliveryId, .added deliveryId ∉ events)
    (same : next.ackQueue = channel.ackQueue) :
    Tracks (trace ++ events) next nodes := by
  refine ⟨same ▸ tracks.wf, ?_⟩
  intro value
  rw [same, tracks.holds, ackedSince_append_other others nothing]

theorem Tracks.append_added (tracks : Tracks trace channel nodes)
    {deliveryId : Nat} {nodes' : List Ref} {rest : List ChannelEvent}
    (same : next.ackQueue = channel.ackQueue.add deliveryId)
    (added : AckQueue.Added channel.ackQueue nodes deliveryId
      (channel.ackQueue.add deliveryId) nodes')
    (tail : rest = [] ∨ rest = [.invalidState]) :
    Tracks (trace ++ .added deliveryId :: rest) next nodes' := by
  refine ⟨same ▸ tracks.wf.added added, ?_⟩
  intro value
  rw [same, tracks.wf.holdsIn_added added, tracks.holds,
    ackedSince_append_added tail]
  constructor
  · rintro (before | ⟨same, _⟩)
    · exact Or.inl before
    · exact Or.inr same
  · rintro (before | same)
    · exact Or.inl before
    · exact Or.inr ⟨same, Int.natCast_nonneg _⟩

theorem Tracks.append_cleared (tracks : Tracks trace channel nodes)
    (same : next.ackQueue = channel.ackQueue.clear) :
    Tracks (trace ++ [ChannelEvent.cleared]) next [] := by
  refine ⟨same ▸ tracks.wf.clear, ?_⟩
  intro value
  simp [AckQueue.HoldsIn, AckedSince]

theorem upcoming_eq (wf : AckQueue.Wf channel.ackQueue nodes)
    {node : Ref} {remaining : Nat} {yielded : List (Int × Int)}
    {behind ahead later : List Ref}
    (walking : channel.feedback = .walking node remaining yielded)
    (atCursor : nodes = behind ++ node :: (ahead ++ later))
    (count : ahead.length = remaining) : channel.upcoming = ahead := by
  subst atCursor count
  simp only [upcoming, walking]
  exact wf.ring.walk_middle

theorem Position.upcoming_eq_walk {node : Option Ref}
    {yielded : List (Int × Int)} {remaining : Nat}
    (position : channel.Position node yielded remaining) :
    channel.upcoming =
      walk (AckQueue.nextOf channel.ackQueue.heap) remaining node := by
  cases position with
  | first waiting =>
      simp only [upcoming, waiting]
      rfl
  | after walking => simp only [upcoming, walking]

/-- The node that the iterator hands out is the first one of the list, or the
one after the cursor. -/
theorem OnList.position (onList : channel.OnList nodes)
    (wf : AckQueue.Wf channel.ackQueue nodes) {ref : Ref}
    {yielded : List (Int × Int)} {remaining : Nat}
    (position : channel.Position (some ref) yielded (remaining + 1)) :
    ∃ behind ahead later, nodes = behind ++ ref :: (ahead ++ later) ∧
      ahead.length = remaining := by
  have walked := position.upcoming_eq_walk
  rw [walk_succ] at walked
  generalize walk (AckQueue.nextOf channel.ackQueue.heap) remaining
    (AckQueue.nextOf channel.ackQueue.heap ref) = ahead at walked
  generalize reached : some ref = node at position
  generalize left : remaining + 1 = steps at position
  cases position with
  | first waiting =>
      have count := wf.count
      simp only [upcoming, waiting, wf.iterator_eq] at walked
      refine ⟨[], ahead, [], ?_, ?_⟩
      · rw [List.append_nil, List.nil_append]
        exact walked
      · rw [walked, List.length_cons] at count
        omega
  | @after node steps yielded walking =>
      obtain ⟨behind, rest, later, atCursor, count⟩ :=
        onList node steps yielded walking
      rw [upcoming_eq wf walking atCursor count] at walked
      refine ⟨behind ++ [node], ahead, later, ?_, ?_⟩
      · rw [atCursor, walked]
        simp only [List.append_assoc, List.cons_append, List.nil_append]
      · rw [walked, List.length_cons] at count
        omega

/-- If no add takes a span off the list that is still to be visited, these
spans stay on the list behind the cursor. -/
theorem OnList.kept (onList : channel.OnList nodes)
    (wf : AckQueue.Wf channel.ackQueue nodes) {deliveryId : Nat}
    {queue' : AckQueue} {nodes' : List Ref}
    (spares : channel.SparesCursor action)
    (adds : addedBy action = some deliveryId)
    (added : AckQueue.Added channel.ackQueue nodes deliveryId queue' nodes')
    {node : Ref} {remaining : Nat} {yielded : List (Int × Int)}
    (walking : channel.feedback = .walking node remaining yielded) :
    (∃ behind later,
      nodes = behind ++ node :: (channel.upcoming ++ later)) ∧
    (∃ behind later,
      nodes' = behind ++ node :: (channel.upcoming ++ later)) ∧
    channel.upcoming.length = remaining := by
  obtain ⟨behind, ahead, later, atCursor, count⟩ :=
    onList node remaining yielded walking
  have upcomingEq := upcoming_eq wf walking atCursor count
  have kept : ∀ ref, channel.ackQueue.mergedAway deliveryId = some ref →
      ref ∉ node :: ahead := by
    intro ref merged
    have outside := spares deliveryId adds ref merged
    simp only [fromCursor, walking] at outside
    rw [upcomingEq] at outside
    exact outside
  rw [upcomingEq]
  exact ⟨⟨behind, later, atCursor⟩, added.cursor atCursor kept, count⟩

theorem OnList.added (onList : channel.OnList nodes)
    (wf : AckQueue.Wf channel.ackQueue nodes) {deliveryId : Nat}
    {nodes' : List Ref} (spares : channel.SparesCursor action)
    (adds : addedBy action = some deliveryId)
    (phase : next.feedback = channel.feedback)
    (added : AckQueue.Added channel.ackQueue nodes deliveryId next.ackQueue
      nodes') : next.OnList nodes' := by
  intro node remaining yielded walking
  rw [phase] at walking
  obtain ⟨_, ⟨behind, later, atCursor⟩, count⟩ :=
    onList.kept wf spares adds added walking
  exact ⟨behind, channel.upcoming, later, atCursor, count⟩

theorem onList_of_not_walking
    (idle : ∀ node remaining yielded,
      channel.feedback ≠ .walking node remaining yielded) :
    channel.OnList nodes := by
  intro node remaining yielded walking
  exact absurd walking (idle node remaining yielded)

theorem Tracks.moved (tracks : Tracks trace channel nodes)
    (onList : channel.OnList nodes) (spares : channel.SparesCursor action)
    (moved : Moved channel action next events) :
    ∃ nodes', Tracks (trace ++ events) next nodes' ∧
      next.OnList nodes' := by
  cases moved with
  | ended position queue phase =>
      refine ⟨[], tracks.append_cleared queue, onList_of_not_walking ?_⟩
      intro node remaining yielded
      rcases phase with waiting | exhausted
      · rw [waiting]
        exact nofun
      · rw [exhausted]
        exact nofun
  | yielded position start end_ encodable queue phase =>
      refine ⟨nodes, tracks.append_other (by simp) (by simp) queue, ?_⟩
      intro node remaining yielded walking
      rw [phase] at walking
      cases walking
      exact onList.position tracks.wf position
  | refused position start end_ queue phase =>
      refine ⟨nodes, tracks.append_other (by simp) (by simp) queue,
        onList_of_not_walking ?_⟩
      intro node remaining yielded
      rw [phase]
      exact nofun
  | @added deliveryId rest adds queue phase tail =>
      obtain ⟨nodes', added⟩ := tracks.wf.add_cases deliveryId
      refine ⟨nodes', tracks.append_added queue added tail, ?_⟩
      rw [← queue] at added
      exact onList.added tracks.wf spares adds phase added
  | idle queue phase =>
      refine ⟨nodes, tracks.append_other nofun nofun queue, ?_⟩
      rcases phase with same | stopped
      · intro node remaining yielded walking
        exact onList node remaining yielded (same ▸ walking)
      · apply onList_of_not_walking
        intro node remaining yielded
        rw [stopped]
        exact nofun

/-- Every node that the iterator reaches is on the list, is neither the
sentinel nor recycled, and its bounds hold ids that were added after the last
`clear`. -/
structure Sound (trace : List ChannelEvent) (channel : PushChannel)
    (node : Ref) (start end_ : Int) : Prop where
  ordered : 0 ≤ start ∧ start < end_
  acked : ∀ value, start ≤ value → value < end_ → AckedSince trace value
  listed : node ∈ channel.ackQueue.iterator
  notRoot : node ≠ AckQueue.spanRoot
  notRecycled : node ∉ channel.ackQueue.cacheSpans

theorem Tracks.sound (tracks : Tracks trace channel nodes)
    (onList : channel.OnList nodes) {ref : Ref}
    {yielded : List (Int × Int)} {remaining : Nat}
    (position : channel.Position (some ref) yielded (remaining + 1)) :
    Sound trace channel ref (channel.ackQueue.heap ref).start
      (channel.ackQueue.heap ref).end_ := by
  obtain ⟨behind, ahead, later, atCursor, _⟩ :=
    onList.position tracks.wf position
  have listed : ref ∈ nodes := by simp [atCursor]
  constructor
  · exact tracks.wf.bounds ref listed
  · intro value lower upper
    exact (tracks.holds value).mp ⟨ref, listed, lower, upper⟩
  · rw [tracks.wf.iterator_eq]
    exact listed
  · rintro rfl
    exact tracks.wf.root_notMem listed
  · intro cached
    exact tracks.wf.cacheUnlisted ref cached (List.mem_cons_of_mem _ listed)

/-- In every run in which no add takes a span off the list that the generator
stands at or has still to visit, the generator reaches only nodes whose ids
were acknowledged after the last `clear`. -/
theorem reached_sound (run : Run step SparesCursor {} trace channel)
    (stepped : step channel action = some (next, events)) {node : Ref}
    {start end_ : Int} {sent : Bool}
    (reached : .feedback node start end_ sent ∈ events) :
    Sound trace channel node start end_ := by
  have reaches : ∃ nodes, Tracks trace channel nodes ∧
      channel.OnList nodes := by
    apply run.invariant
    · exact ⟨[], tracks_initial, onList_of_not_walking nofun⟩
    · intro trace events channel next action tracked spares stepped
      obtain ⟨nodes, tracks, onList⟩ := tracked
      exact tracks.moved onList spares (step_moved stepped)
  obtain ⟨nodes, tracks, onList⟩ := reaches
  cases step_moved stepped with
  | ended position queue phase => simp at reached
  | yielded position startEq endEq encodable queue phase =>
      simp only [List.mem_singleton] at reached
      cases reached
      rw [← startEq, ← endEq]
      exact tracks.sound onList position
  | refused position startEq endEq queue phase =>
      simp only [List.mem_singleton] at reached
      cases reached
      rw [← startEq, ← endEq]
      exact tracks.sound onList position
  | added adds queue phase tail =>
      rcases tail with rfl | rfl
      · simp at reached
      · simp at reached
  | idle queue phase => cases reached

/-- The generator visits a span that has grown since its pass began. -/
theorem reached_sound_grown :
    ∃ trace channel next, Run step SparesCursor {} trace channel ∧
      step channel .resume = some (next, [.feedback 2 3 5 true]) ∧
      Sound trace channel 2 3 5 := by
  have ran : ∃ trace channel, Run step SparesCursor {} trace channel ∧
      (step channel .resume).map Prod.snd =
        some [.feedback 2 3 5 true] := by
    apply Run.exists_state_of_exec
      [.ackLog 1, .ackLog 3, .fire 0, .wake, .ackLog 4]
    decide
  obtain ⟨trace, channel, run, yields⟩ := ran
  obtain ⟨⟨next, events⟩, stepped, rfl⟩ :=
    Option.map_eq_some_iff.mp yields
  exact ⟨trace, channel, next, run, stepped,
    reached_sound run stepped List.mem_cons_self⟩

/-- Two merges at the cursor make the generator yield a recycled span; one
merge ahead of it makes the generator run onto the sentinel. -/
theorem recycled_span_yielded :
    (∃ trace channel next, AnyRun step {} trace channel ∧
      step channel .resume = some (next, [.feedback 2 5 6 true]) ∧
      2 ∈ channel.ackQueue.cacheSpans ∧ ¬ Sound trace channel 2 5 6) ∧
    (∃ trace channel next, AnyRun step {} trace channel ∧
      step channel .resume = some (next,
        [.feedback AckQueue.spanRoot (-1) 0 false]) ∧
      ¬ Sound trace channel AckQueue.spanRoot (-1) 0) := by
  constructor
  · have ran : ∃ trace channel, AnyRun step {} trace channel ∧
        ((step channel .resume).map Prod.snd =
            some [.feedback 2 5 6 true] ∧
          2 ∈ channel.ackQueue.cacheSpans) := by
      apply Run.exists_state_of_exec
        [.ackLog 3, .ackLog 5, .ackLog 1, .fire 0, .wake, .ackLog 2,
          .ackLog 4]
      decide
    obtain ⟨trace, channel, run, yields, recycled⟩ := ran
    obtain ⟨⟨next, events⟩, stepped, rfl⟩ :=
      Option.map_eq_some_iff.mp yields
    refine ⟨trace, channel, next, run, stepped, recycled, ?_⟩
    intro sound
    exact sound.notRecycled recycled
  · have ran : ∃ trace channel, AnyRun step {} trace channel ∧
        (step channel .resume).map Prod.snd =
          some [.feedback AckQueue.spanRoot (-1) 0 false] := by
      apply Run.exists_state_of_exec
        [.ackLog 1, .ackLog 3, .ackLog 5, .fire 0, .wake, .ackLog 4,
          .resume]
      decide
    obtain ⟨trace, channel, run, yields⟩ := ran
    obtain ⟨⟨next, events⟩, stepped, rfl⟩ :=
      Option.map_eq_some_iff.mp yields
    refine ⟨trace, channel, next, run, stepped, ?_⟩
    intro sound
    exact sound.notRoot rfl

end PushChannel

end Push

end TinyChat
