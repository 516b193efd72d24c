import TinyChat.Push.Feedback

/-!
# Acknowledged ids are yielded before they are cleared

As long as every id that is added during a pass was yielded in it before, or
joins a span that the pass has still to visit, no id is cleared without
having been yielded.
-/

namespace TinyChat

open Transition LinkedRing

namespace Push

namespace PushChannel

variable {channel next : PushChannel} {action : ChannelAction}
  {trace events : List ChannelEvent} {nodes : List Ref}

/-- What the current pass has yielded. -/
def yieldedSoFar (channel : PushChannel) : List (Int × Int) :=
  match channel.feedback with
  | .walking _ _ yielded => yielded
  | _ => []

theorem Position.yielded_eq {node : Option Ref}
    {yielded : List (Int × Int)} {remaining : Nat}
    (position : channel.Position node yielded remaining) :
    yielded = channel.yieldedSoFar := by
  cases position with
  | first waiting => simp only [yieldedSoFar, waiting]
  | after walking => simp only [yieldedSoFar, walking]

/-- An id that is added during a pass was yielded in it before, or joins a
span that the pass has still to visit. -/
def JoinsAhead (channel : PushChannel) (action : ChannelAction) : Prop :=
  channel.fromCursor = [] ∨
    ∀ deliveryId ∈ addedBy action,
      (∃ range ∈ channel.yieldedSoFar,
        range.1 ≤ (deliveryId : Int) ∧ (deliveryId : Int) < range.2) ∨
      ∃ ref ∈ channel.upcoming,
        channel.ackQueue.joined deliveryId = some ref

instance (channel : PushChannel) (action : ChannelAction) :
    Decidable (channel.JoinsAhead action) :=
  inferInstanceAs (Decidable (_ ∨ ∀ deliveryId ∈ addedBy action, _))

/-- The id lies in a range that was yielded after the last `clear`. -/
def Confirmed (trace : List ChannelEvent) (value : Int) : Prop :=
  ∃ node start end_, .feedback node start end_ true ∈ sinceClear trace ∧
    start ≤ value ∧ value < end_

/-- A `clear` removes only ids that were yielded. -/
def ClearsConfirmed (before : List ChannelEvent) : ChannelEvent → Prop
  | .cleared => ∀ value, AckedSince before value → Confirmed before value
  | _ => True

/-- During a pass, every id was yielded or lies in a span that is still to
be visited. -/
def Caught (trace : List ChannelEvent) (channel : PushChannel) : Prop :=
  ∀ node remaining yielded,
    channel.feedback = .walking node remaining yielded →
    ∀ value, AckedSince trace value → Confirmed trace value ∨
      AckQueue.HoldsIn channel.ackQueue channel.upcoming value

/-- What a pass has yielded is in the trace. -/
def Logged (trace : List ChannelEvent) (channel : PushChannel) : Prop :=
  ∀ range ∈ channel.yieldedSoFar,
    ∃ node, .feedback node range.1 range.2 true ∈ sinceClear trace

structure Complete (trace : List ChannelEvent) (channel : PushChannel)
    (nodes : List Ref) : Prop where
  tracks : Tracks trace channel nodes
  onList : channel.OnList nodes
  logged : Logged trace channel
  caught : Caught trace channel

theorem Confirmed.append {value : Int} (confirmed : Confirmed trace value)
    (others : .cleared ∉ events) : Confirmed (trace ++ events) value := by
  obtain ⟨node, start, end_, yielded, bounds⟩ := confirmed
  refine ⟨node, start, end_, ?_, bounds⟩
  rw [sinceClear_append trace others]
  exact List.mem_append_left _ yielded

theorem Logged.append (logged : Logged trace channel)
    (others : .cleared ∉ events)
    (same : next.yieldedSoFar = channel.yieldedSoFar) :
    Logged (trace ++ events) next := by
  intro range member
  rw [same] at member
  obtain ⟨node, yielded⟩ := logged range member
  refine ⟨node, ?_⟩
  rw [sinceClear_append trace others]
  exact List.mem_append_left _ yielded

/-- Outside of a pass nothing has to be caught. -/
theorem complete_of_not_walking (tracks : Tracks trace channel nodes)
    (idle : ∀ node remaining yielded,
      channel.feedback ≠ .walking node remaining yielded) :
    Complete trace channel nodes := by
  refine ⟨tracks, onList_of_not_walking idle, ?_, ?_⟩
  · intro range member
    unfold yieldedSoFar at member
    split at member
    · rename_i node remaining yielded walking
      exact absurd walking (idle node remaining yielded)
    · cases member
  · intro node remaining yielded walking
    exact absurd walking (idle node remaining yielded)

/-- Before a step of the iterator, every id was yielded or lies in a span
that is still to be visited. -/
theorem Complete.pending (complete : Complete trace channel nodes)
    {node : Option Ref} {yielded : List (Int × Int)} {remaining : Nat}
    (position : channel.Position node yielded remaining) {value : Int}
    (acked : AckedSince trace value) :
    Confirmed trace value ∨
      AckQueue.HoldsIn channel.ackQueue channel.upcoming value := by
  cases position with
  | first waiting =>
      right
      have listed : channel.upcoming = nodes := by
        simp only [upcoming, waiting, complete.tracks.wf.iterator_eq]
      rw [listed]
      exact (complete.tracks.holds value).mpr acked
  | after walking => exact complete.caught _ _ _ walking value acked

theorem Complete.clearsConfirmed (complete : Complete trace channel nodes)
    {node : Option Ref} {yielded : List (Int × Int)}
    (position : channel.Position node yielded 0) :
    ClearsConfirmed trace .cleared := by
  intro value acked
  rcases complete.pending position acked with confirmed | held
  · exact confirmed
  · rw [position.upcoming_eq_walk] at held
    obtain ⟨ref, member, _⟩ := held
    cases member

/-- The span that is yielded leaves the spans that are still to be
visited. -/
theorem Complete.yielded (complete : Complete trace channel nodes)
    {ref : Ref} {remaining : Nat} {yielded : List (Int × Int)}
    {start end_ : Int}
    (position : channel.Position (some ref) yielded (remaining + 1))
    (startEq : (channel.ackQueue.heap ref).start = start)
    (endEq : (channel.ackQueue.heap ref).end_ = end_)
    (queue : next.ackQueue = channel.ackQueue)
    (phase : next.feedback =
      .walking ref remaining (yielded ++ [(start, end_)])) :
    Complete (trace ++ [ChannelEvent.feedback ref start end_ true]) next
      nodes := by
  have others : ChannelEvent.cleared ∉
      [ChannelEvent.feedback ref start end_ true] := by simp
  have yieldedNow : .feedback ref start end_ true ∈
      sinceClear (trace ++ [ChannelEvent.feedback ref start end_ true]) := by
    rw [sinceClear_append trace others]
    exact List.mem_append_right _ List.mem_cons_self
  have tracks := complete.tracks.append_other others (by simp) queue
  refine ⟨tracks, ?_, ?_, ?_⟩
  · intro node remaining yielded walking
    rw [phase] at walking
    cases walking
    exact complete.onList.position complete.tracks.wf position
  · intro range member
    simp only [yieldedSoFar, phase, List.mem_append, List.mem_singleton]
      at member
    rcases member with before | rfl
    · rw [position.yielded_eq] at before
      obtain ⟨node, found⟩ := complete.logged range before
      refine ⟨node, ?_⟩
      rw [sinceClear_append trace others]
      exact List.mem_append_left _ found
    · exact ⟨ref, yieldedNow⟩
  · intro node steps _ walking value acked
    rw [ackedSince_append_other others (by simp)] at acked
    have ahead : channel.upcoming = ref :: next.upcoming := by
      rw [position.upcoming_eq_walk, walk_succ]
      simp only [upcoming, phase, queue]
      rfl
    rcases complete.pending position acked with confirmed | held
    · exact Or.inl (confirmed.append others)
    · rw [ahead] at held
      obtain ⟨found, member, lower, upper⟩ := held
      rcases List.mem_cons.mp member with rfl | later
      · left
        rw [startEq] at lower
        rw [endEq] at upper
        exact ⟨found, start, end_, yieldedNow, lower, upper⟩
      · right
        rw [queue]
        exact ⟨found, later, lower, upper⟩

/-- The spans that are still to be visited keep what they hold, and the id
that is added was yielded before or joins one of them. -/
theorem Complete.added (complete : Complete trace channel nodes)
    {deliveryId : Nat} {rest : List ChannelEvent}
    (spares : channel.SparesCursor action)
    (joins : channel.JoinsAhead action)
    (adds : addedBy action = some deliveryId)
    (queue : next.ackQueue = channel.ackQueue.add deliveryId)
    (phase : next.feedback = channel.feedback)
    (tail : rest = [] ∨ rest = [.invalidState]) :
    ∃ nodes', Complete (trace ++ .added deliveryId :: rest) next nodes' := by
  obtain ⟨nodes', added⟩ := complete.tracks.wf.add_cases deliveryId
  have tracks := complete.tracks.append_added queue added tail
  rw [← queue] at added
  have onList :=
    complete.onList.added complete.tracks.wf spares adds phase added
  have others : ChannelEvent.cleared ∉ .added deliveryId :: rest := by
    rcases tail with rfl | rfl
    · simp
    · simp
  have sameYielded : next.yieldedSoFar = channel.yieldedSoFar := by
    simp only [yieldedSoFar, phase]
  refine ⟨nodes', tracks, onList, complete.logged.append others sameYielded,
    ?_⟩
  intro node remaining yielded walking value acked
  rw [phase] at walking
  obtain ⟨⟨_, _, before⟩, ⟨_, _, after⟩, count⟩ :=
    complete.onList.kept complete.tracks.wf spares adds added walking
  have sameUpcoming : next.upcoming = channel.upcoming :=
    upcoming_eq tracks.wf (phase.trans walking) after count
  rw [sameUpcoming]
  rw [ackedSince_append_added tail] at acked
  rcases acked with earlier | rfl
  · rcases complete.caught node remaining yielded walking value earlier
      with confirmed | ⟨ref, member, lower, upper⟩
    · exact Or.inl (confirmed.append others)
    · have listedBefore : ref ∈ nodes := by simp [before, member]
      have listedAfter : ref ∈ nodes' := by simp [after, member]
      have grown :=
        complete.tracks.wf.grows added listedBefore listedAfter
      exact Or.inr ⟨ref, member, grown.1.trans lower,
        Int.lt_of_lt_of_le upper grown.2⟩
  · rcases joins with notWalking | caughtUp
    · simp [fromCursor, walking] at notWalking
    · rcases caughtUp deliveryId adds with
        ⟨range, member, bounds⟩ | ⟨ref, member, joined⟩
      · obtain ⟨node, found⟩ := complete.logged range member
        have confirmed : Confirmed trace deliveryId :=
          ⟨node, range.1, range.2, found, bounds⟩
        exact Or.inl (confirmed.append others)
      · have held := complete.tracks.wf.joined_holds added
          (Int.natCast_nonneg _) joined
        exact Or.inr ⟨ref, member, held.2⟩

theorem Complete.unchanged (complete : Complete trace channel nodes)
    (tracks : Tracks (trace ++ []) next nodes)
    (queue : next.ackQueue = channel.ackQueue)
    (phase : next.feedback = channel.feedback) :
    Complete (trace ++ []) next nodes := by
  have sameUpcoming : next.upcoming = channel.upcoming := by
    simp only [upcoming, phase, queue]
  have sameYielded : next.yieldedSoFar = channel.yieldedSoFar := by
    simp only [yieldedSoFar, phase]
  refine ⟨tracks, ?_, complete.logged.append List.not_mem_nil sameYielded,
    ?_⟩
  · intro node remaining yielded walking
    exact complete.onList node remaining yielded (phase ▸ walking)
  · intro node remaining yielded walking
    rw [List.append_nil, sameUpcoming, queue]
    exact complete.caught node remaining yielded (phase ▸ walking)

theorem Complete.moved (complete : Complete trace channel nodes)
    (spares : channel.SparesCursor action)
    (joins : channel.JoinsAhead action)
    (moved : Moved channel action next events) :
    (∃ nodes', Complete (trace ++ events) next nodes') ∧
      EachEvent ClearsConfirmed trace events := by
  cases moved with
  | ended position queue phase =>
      refine ⟨⟨[], ?_⟩, complete.clearsConfirmed position, trivial⟩
      apply complete_of_not_walking (complete.tracks.append_cleared queue)
      intro node remaining yielded
      rcases phase with waiting | exhausted
      · rw [waiting]
        exact nofun
      · rw [exhausted]
        exact nofun
  | yielded position startEq endEq encodable queue phase =>
      exact ⟨⟨nodes, complete.yielded position startEq endEq queue phase⟩,
        trivial, trivial⟩
  | @refused ref _ _ start end_ position startEq endEq queue phase =>
      have tracks : Tracks
          (trace ++ [ChannelEvent.feedback ref start end_ false]) next nodes :=
        complete.tracks.append_other (by simp) (by simp) queue
      refine ⟨⟨nodes, complete_of_not_walking tracks ?_⟩, trivial, trivial⟩
      intro node remaining yielded
      rw [phase]
      exact nofun
  | added adds queue phase tail =>
      refine ⟨complete.added spares joins adds queue phase tail, ?_⟩
      rcases tail with rfl | rfl
      · exact ⟨trivial, trivial⟩
      · exact ⟨trivial, trivial, trivial⟩
  | idle queue phase =>
      refine ⟨⟨nodes, ?_⟩, trivial⟩
      have tracks : Tracks (trace ++ []) next nodes :=
        complete.tracks.append_other nofun nofun queue
      rcases phase with same | stopped
      · exact complete.unchanged tracks queue same
      · apply complete_of_not_walking tracks
        intro node remaining yielded
        rw [stopped]
        exact nofun

/-- In every run in which each id that is added during a pass still is
yielded in it, `clear` removes only ids that were yielded. -/
theorem cleared_confirmed
    (run : Run step
      (fun channel action =>
        channel.SparesCursor action ∧ channel.JoinsAhead action)
      {} trace channel) :
    EachEvent ClearsConfirmed [] trace := by
  have complete : (∃ nodes, Complete trace channel nodes) ∧
      EachEvent ClearsConfirmed [] trace := by
    apply run.invariant
    · exact ⟨⟨[], complete_of_not_walking tracks_initial nofun⟩, trivial⟩
    · intro trace events channel next action holds permitted stepped
      obtain ⟨⟨nodes, complete⟩, earlier⟩ := holds
      have moved := complete.moved permitted.1 permitted.2
        (step_moved stepped)
      refine ⟨moved.1, ?_⟩
      rw [eachEvent_append]
      exact ⟨earlier, moved.2⟩
  exact complete.2

/-- An id joins a span ahead of the cursor, and everything is yielded. -/
theorem cleared_confirmed_grown :
    ∃ channel, Run step
        (fun channel action =>
          channel.SparesCursor action ∧ channel.JoinsAhead action) {}
        [.added 1, .added 3, .feedback 1 1 2 true, .added 4,
          .feedback 2 3 5 true, .cleared] channel ∧
      EachEvent ClearsConfirmed []
        [.added 1, .added 3, .feedback 1 1 2 true, .added 4,
          .feedback 2 3 5 true, .cleared] := by
  have executed : (exec step
      (fun channel action =>
        channel.SparesCursor action ∧ channel.JoinsAhead action) {}
      [.ackLog 1, .ackLog 3, .fire 0, .wake, .ackLog 4, .resume,
        .resume]).map Prod.snd =
      some [.added 1, .added 3, .feedback 1 1 2 true, .added 4,
        .feedback 2 3 5 true, .cleared] := by
    decide
  obtain ⟨channel, run⟩ := Run.exists_of_exec executed
  exact ⟨channel, run, cleared_confirmed run⟩

/-- An id that is added while the last span is being yielded is cleared
without having been yielded. -/
theorem acked_id_lost :
    ∃ trace channel, AnyRun step {} trace channel ∧
      ¬ EachEvent ClearsConfirmed [] trace := by
  have executed : (exec step (fun _ _ => True) {}
      [.ackLog 1, .fire 0, .wake, .ackLog 5, .resume]).map Prod.snd =
      some [.added 1, .feedback 1 1 2 true, .added 5, .cleared] := by
    decide
  obtain ⟨channel, run⟩ := Run.exists_of_exec executed
  refine ⟨_, channel, run, ?_⟩
  intro confirmed
  obtain ⟨node, start, end_, yielded, lower, upper⟩ :=
    confirmed.2.2.2.1 5 ⟨5, rfl, by decide⟩
  simp [sinceClear] at yielded
  omega

end PushChannel

end Push

end TinyChat
