import TinyChat.Worker.PipelineTasks

/-!
# No acknowledged message is lost

A message that the outbox worker has acknowledged is stored, or some queue
still stands for what is missing, whatever is lost, repeated or delivered
again in between.
-/

namespace TinyChat

namespace Worker

open Transition Backlog

/-- What a task has to keep to. -/
structure Task.Sound (backlog : Backlog Duty Parcel) (task : Task) :
    Prop where
  below : task.number < backlog.next
  covered : ∀ work ∈ task.performed, ∀ duty ∈ work.covers,
    Above promises backlog task.number duty
  disciplined : EachEvent (Covered task.job) task.performed task.remaining
  held : ∀ held other, task.job = .parcel held →
    (task.number, other) ∈ backlog.messages → other = held

/-- What was published before is still above, and messages that were not
there before have new numbers. -/
structure Extends (before after : Backlog Duty Parcel) : Prop where
  next : before.next ≤ after.next
  above : ∀ number duty, Above promises before number duty →
    Above promises after number duty
  messages : ∀ entry ∈ after.messages,
    entry ∈ before.messages ∨ before.next ≤ entry.1

namespace Extends

variable {backlog before after : Backlog Duty Parcel}

theorem refl (backlog : Backlog Duty Parcel) : Extends backlog backlog where
  next := Nat.le_refl _
  above := fun _ _ above => above
  messages := fun _ member => .inl member

theorem discharge (backlog : Backlog Duty Parcel) (duties : List Duty) :
    Extends backlog (backlog.discharge duties) where
  next := Nat.le_refl _
  above := fun _ _ above => above.discharge duties
  messages := fun _ member => .inl member

theorem skip (backlog : Backlog Duty Parcel) :
    Extends backlog backlog.skip where
  next := Nat.le_succ _
  above := fun _ _ above => above.skip
  messages := fun _ member => .inl member

theorem publish (backlog : Backlog Duty Parcel) (parcel : Parcel) :
    Extends backlog (backlog.publish parcel) where
  next := Nat.le_succ _
  above := fun _ _ above => above.publish parcel
  messages := by
    intro entry member
    rcases List.mem_append.mp member with earlier | last
    · exact .inl earlier
    · rw [List.mem_singleton.mp last]
      exact .inr (Nat.le_refl _)

theorem settle {number : Nat}
    (handled : ∀ parcel, (number, parcel) ∈ backlog.messages →
      ∀ duty ∈ promises parcel, Above promises backlog number duty) :
    Extends backlog (backlog.settle number) where
  next := Nat.le_refl _
  above := fun _ _ above => above.settle handled
  messages := fun _ member => .inl (mem_messages_settle.mp member).1

end Extends

theorem Task.Sound.extend {before after : Backlog Duty Parcel} {task : Task}
    (sound : task.Sound before) (extended : Extends before after) :
    task.Sound after where
  below := Nat.lt_of_lt_of_le sound.below extended.next
  covered := by
    intro work member duty covers
    exact extended.above _ _ (sound.covered work member duty covers)
  disciplined := sound.disciplined
  held := by
    intro held other job member
    rcases extended.messages _ member with earlier | later
    · exact sound.held held other job earlier
    · exact absurd sound.below (Nat.not_lt.mpr later)

/-- The invariant of the pipeline. -/
structure Custody (pipeline : Pipeline) : Prop where
  numbered : pipeline.backlog.Numbered
  log : ∀ entry ∈ pipeline.log, entry.1 < pipeline.backlog.next
  calls : ∀ call ∈ pipeline.calls, call.1 < pipeline.backlog.next
  replies : ∀ reply ∈ pipeline.replies, ∀ duty ∈ eventDuties reply.2,
    Above promises pipeline.backlog reply.1 duty
  released : ∀ entry ∈ pipeline.released, ∀ duty ∈ messageDuties entry.2,
    Above promises pipeline.backlog entry.1 duty
  tasks : ∀ task ∈ pipeline.tasks, task.Sound pipeline.backlog

namespace Custody

variable {pipeline next : Pipeline} {action : PipelineAction}
  {events : List Empty}

theorem empty : Custody {} where
  numbered := numbered_empty
  log := fun _ member => absurd member List.not_mem_nil
  calls := fun _ member => absurd member List.not_mem_nil
  replies := fun _ member => absurd member List.not_mem_nil
  released := fun _ member => absurd member List.not_mem_nil
  tasks := fun _ member => absurd member List.not_mem_nil

/-- Only the queues change. -/
theorem extend (custody : Custody pipeline)
    {backlog : Backlog Duty Parcel} (numbered : backlog.Numbered)
    (extended : Extends pipeline.backlog backlog) :
    Custody { pipeline with backlog } where
  numbered := numbered
  log := by
    intro entry member
    exact Nat.lt_of_lt_of_le (custody.log entry member) extended.next
  calls := by
    intro call member
    exact Nat.lt_of_lt_of_le (custody.calls call member) extended.next
  replies := by
    intro reply member duty owed
    exact extended.above _ _ (custody.replies reply member duty owed)
  released := by
    intro entry member duty owed
    exact extended.above _ _ (custody.released entry member duty owed)
  tasks := by
    intro task member
    exact (custody.tasks task member).extend extended

theorem start (custody : Custody pipeline) {task : Task}
    (events : List ReadModelEvent)
    (below : task.number < pipeline.backlog.next)
    (fresh : task.performed = [])
    (disciplined : Disciplined task.job task.remaining)
    (held : ∀ held other, task.job = .parcel held →
      (task.number, other) ∈ pipeline.backlog.messages → other = held) :
    Custody (pipeline.start task events) where
  numbered := custody.numbered
  log := custody.log
  calls := by
    intro call member
    rcases List.mem_append.mp member with earlier | new
    · exact custody.calls call earlier
    · obtain ⟨event, _, rfl⟩ := List.mem_map.mp new
      exact below
  replies := custody.replies
  released := custody.released
  tasks := by
    intro other member
    rcases List.mem_append.mp member with earlier | new
    · exact custody.tasks other earlier
    · rw [List.mem_singleton.mp new]
      refine ⟨below, ?_, ?_, held⟩
      · rw [fresh]
        intro work member
        cases member
      · rw [fresh]
        exact disciplined

theorem advance (custody : Custody pipeline) {index : Nat} {task : Task}
    {work : Work} {rest : List Work} (sound : task.Sound pipeline.backlog)
    (remaining : task.remaining = work :: rest)
    (covers : ∀ duty ∈ work.covers,
      Above promises pipeline.backlog task.number duty) :
    Custody (pipeline.advance index task work rest) where
  numbered := custody.numbered
  log := custody.log
  calls := custody.calls
  replies := custody.replies
  released := custody.released
  tasks := by
    intro other member
    rcases List.mem_or_eq_of_mem_set member with earlier | rfl
    · exact custody.tasks other earlier
    · have disciplined := sound.disciplined
      rw [remaining] at disciplined
      refine ⟨sound.below, ?_, disciplined.2, sound.held⟩
      intro step performed duty covered
      rcases List.mem_append.mp performed with earlier | last
      · exact sound.covered step earlier duty covered
      · rw [List.mem_singleton.mp last] at covered
        exact covers duty covered

end Custody

theorem Task.Sound.relied {backlog : Backlog Duty Parcel} {task : Task}
    {work : Work} {rest : List Work} (sound : task.Sound backlog)
    (remaining : task.remaining = work :: rest) :
    ∀ duty ∈ work.releases task.job,
      Above promises backlog task.number duty := by
  intro duty relied
  have disciplined := sound.disciplined
  rw [remaining] at disciplined
  obtain ⟨earlier, performed, covers⟩ := disciplined.1 duty relied
  exact sound.covered earlier performed duty covers

namespace Custody

variable {pipeline next : Pipeline} {action : PipelineAction}
  {events : List Empty}

theorem discharge (custody : Custody pipeline) (duties : List Duty) :
    Custody { pipeline with
      backlog := pipeline.backlog.discharge duties } :=
  custody.extend (custody.numbered.discharge duties) (.discharge _ duties)

theorem publish (custody : Custody pipeline) (parcel : Parcel) :
    Custody { pipeline with backlog := pipeline.backlog.publish parcel } :=
  custody.extend (custody.numbered.publish parcel) (.publish _ parcel)

/-- The effect of a task: the custody is kept, and the duties of the step are
covered. -/
theorem apply (custody : Custody pipeline) {task : Task} {work : Work}
    {rest : List Work} (sound : task.Sound pipeline.backlog)
    (remaining : task.remaining = work :: rest)
    (applied : pipeline.apply task work = some next) :
    Custody next ∧ task.Sound next.backlog ∧
      ∀ duty ∈ work.covers, Above promises next.backlog task.number duty := by
  have relied := sound.relied remaining
  have discharged : ∀ duties, work.covers = duties →
      next = { pipeline with
        backlog := pipeline.backlog.discharge duties } →
      Custody next ∧ task.Sound next.backlog ∧ ∀ duty ∈ work.covers,
        Above promises next.backlog task.number duty := by
    rintro duties covers rfl
    refine ⟨custody.discharge duties, sound.extend (.discharge _ duties), ?_⟩
    intro duty covered
    rw [covers] at covered
    exact above_discharge covered _
  have published : ∀ parcel, work.covers = promises parcel →
      next = { pipeline with
        backlog := pipeline.backlog.publish parcel } →
      Custody next ∧ task.Sound next.backlog ∧ ∀ duty ∈ work.covers,
        Above promises next.backlog task.number duty := by
    rintro parcel covers rfl
    refine ⟨custody.publish parcel, sound.extend (.publish _ parcel), ?_⟩
    intro duty covered
    rw [covers] at covered
    exact above_publish sound.below covered
  cases work with
  | worker effect =>
      cases effect with
      | sessionWritten request =>
          exact discharged _ rfl (Option.some.inj applied).symm
      | readModelDelivered event =>
          simp only [Pipeline.apply] at applied
          split at applied
          · rename_i answered
            cases applied
            exact ⟨custody, sound, custody.replies _ answered⟩
          · cases applied
      | readModelQueued event =>
          exact published (.readEvent event) rfl
            (Option.some.inj applied).symm
      | dlqAccepted entry =>
          exact published (.deadLetter entry) rfl
            (Option.some.inj applied).symm
      | handledNewItem senderId deliveryId messageId =>
          cases applied
          exact ⟨custody, sound,
            fun _ covered => absurd covered List.not_mem_nil⟩
      | acked =>
          have silent : ∀ duty ∈ (Work.worker .acked).covers,
              Above promises next.backlog task.number duty :=
            fun _ covered => absurd covered List.not_mem_nil
          simp only [Pipeline.apply] at applied
          split at applied
          · cases applied
            exact ⟨⟨custody.numbered, custody.log, custody.calls,
              custody.replies, custody.released, custody.tasks⟩, sound,
              silent⟩
          · rename_i message job
            cases applied
            refine ⟨⟨custody.numbered, custody.log, custody.calls,
              custody.replies, ?_, custody.tasks⟩, sound, silent⟩
            intro entry member duty owed
            rcases List.mem_append.mp member with earlier | new
            · exact custody.released entry earlier duty owed
            · cases List.mem_singleton.mp new
              apply relied duty
              rw [job]
              exact owed
          · cases applied
            exact ⟨custody, sound, silent⟩
          · cases applied
            exact ⟨custody, sound, silent⟩
  | downstream effect =>
      cases effect with
      | inboxWritten request =>
          exact discharged _ rfl (Option.some.inj applied).symm
      | pushed addressId message =>
          exact discharged _ rfl (Option.some.inj applied).symm
      | offline addressId message =>
          exact discharged _ rfl (Option.some.inj applied).symm
      | pushQueued addressId message =>
          exact published (.push addressId message) rfl
            (Option.some.inj applied).symm
  | replied event =>
      cases applied
      refine ⟨⟨custody.numbered, custody.log, custody.calls, ?_,
        custody.released, custody.tasks⟩, sound,
        fun _ covered => absurd covered List.not_mem_nil⟩
      intro reply member duty owed
      rcases List.mem_append.mp member with earlier | new
      · exact custody.replies reply earlier duty owed
      · cases List.mem_singleton.mp new
        exact relied duty owed
  | ack =>
      have silent : ∀ duty ∈ Work.ack.covers,
          Above promises next.backlog task.number duty :=
        fun _ covered => absurd covered List.not_mem_nil
      simp only [Pipeline.apply] at applied
      split at applied
      · rename_i held job
        cases applied
        have handled : ∀ parcel,
            (task.number, parcel) ∈ pipeline.backlog.messages →
            ∀ duty ∈ promises parcel,
              Above promises pipeline.backlog task.number duty := by
          intro parcel member duty owed
          apply relied duty
          rw [sound.held held parcel job member] at owed
          rw [job]
          exact owed
        exact ⟨custody.extend (custody.numbered.settle _) (.settle handled),
          sound.extend (.settle handled), silent⟩
      · cases applied
        exact ⟨custody, sound, silent⟩
      · cases applied
        exact ⟨custody, sound, silent⟩

theorem step (custody : Custody pipeline)
    (sound : Pipeline.Sound pipeline action)
    (stepped : Pipeline.step pipeline action = some (next, events)) :
    Custody next := by
  cases action with
  | publish message =>
      cases stepped
      have grown := custody.extend custody.numbered.skip (.skip _)
      refine ⟨grown.numbered, ?_, grown.calls, grown.replies,
        grown.released, grown.tasks⟩
      intro entry member
      rcases List.mem_append.mp member with earlier | new
      · exact grown.log entry earlier
      · rw [List.mem_singleton.mp new]
        exact Nat.lt_succ_self _
  | onMessage index around =>
      simp only [Pipeline.step] at stepped
      split at stepped
      · cases stepped
      · rename_i number message found
        cases stepped
        apply custody.start _
          (custody.log _ (List.mem_of_getElem? found)) rfl
        · apply ofRecord_disciplined
          exact sound (number, message) found
        · intro held other job
          cases job
  | eventHandler index around =>
      simp only [Pipeline.step] at stepped
      split at stepped
      · rename_i number entry found
        cases stepped
        have member := List.mem_of_getElem? found
        apply custody.start _ (custody.numbered.below _ member) rfl
          (ofDeadLetter_disciplined number entry around)
        rintro held other ⟨⟩ present
        exact custody.numbered.eq present member
      · cases stepped
  | consumeEvent index around =>
      simp only [Pipeline.step] at stepped
      split at stepped
      · rename_i number event found
        cases stepped
        have member := List.mem_of_getElem? found
        apply custody.start _ (custody.numbered.below _ member) rfl
          (ofReadEvent_disciplined number event around)
        rintro held other ⟨⟩ present
        exact custody.numbered.eq present member
      · cases stepped
  | consumePush index status =>
      simp only [Pipeline.step] at stepped
      split at stepped
      · rename_i number addressId message found
        cases stepped
        have member := List.mem_of_getElem? found
        apply custody.start _ (custody.numbered.below _ member) rfl
          (ofPush_disciplined number addressId message status)
        rintro held other ⟨⟩ present
        exact custody.numbered.eq present member
      · cases stepped
  | deliverReadEvent index around =>
      simp only [Pipeline.step] at stepped
      split at stepped
      · cases stepped
      · rename_i number event found
        cases stepped
        apply custody.start _
          (custody.calls _ (List.mem_of_getElem? found)) rfl
          (ofCall_disciplined number event around)
        rintro held other ⟨⟩
  | perform index =>
      simp only [Pipeline.step] at stepped
      split at stepped
      · cases stepped
      · rename_i task found
        split at stepped
        · cases stepped
        · rename_i work rest remaining
          obtain ⟨reached, applied, equality⟩ :=
            Option.map_eq_some_iff.mp stepped
          cases equality
          obtain ⟨kept, still, covers⟩ := custody.apply
            (custody.tasks task (List.mem_of_getElem? found)) remaining
            applied
          exact kept.advance still remaining covers
  | loseAck index =>
      simp only [Pipeline.step] at stepped
      split at stepped
      · rename_i task found
        split at stepped
        · rename_i rest remaining
          cases stepped
          exact custody.advance
            (custody.tasks task (List.mem_of_getElem? found)) remaining
            (fun _ covered => absurd covered List.not_mem_nil)
        · cases stepped
      · cases stepped
  | crash index =>
      cases stepped
      refine ⟨custody.numbered, custody.log, custody.calls,
        custody.replies, custody.released, ?_⟩
      intro task member
      exact custody.tasks task (List.mem_of_mem_eraseIdx member)

end Custody

theorem run_custody {pipeline : Pipeline} {trace : List Empty}
    (run : Run Pipeline.step Pipeline.Sound {} trace pipeline) :
    Custody pipeline := by
  refine run.state_invariant .empty ?_
  intro events state next action custody sound stepped
  exact custody.step sound stepped

/-- A message that was acknowledged after it was handled is in its session
and in the inbox and its receiver was seen to, except for what a message of
one of the queues still stands for. -/
theorem released_kept {pipeline : Pipeline} {trace : List Empty}
    (run : Run Pipeline.step Pipeline.Sound {} trace pipeline) :
    ∀ entry ∈ pipeline.released, ∀ duty ∈ messageDuties entry.2,
      duty ∈ pipeline.backlog.done ∨
        ∃ held ∈ pipeline.backlog.messages, duty ∈ promises held.2 := by
  intro entry member duty owed
  rcases (run_custody run).released entry member duty owed with
    done | ⟨held, present, _, promised⟩
  · exact .inl done
  · exact .inr ⟨held, present, promised⟩

theorem released_kept_pending :
    ∃ trace pipeline, Run Pipeline.step Pipeline.Sound {} trace pipeline ∧
      pipeline.released = [(0, Pipeline.sampleMessage)] ∧
      ∀ duty ∈ messageDuties Pipeline.sampleMessage,
        duty ∈ pipeline.backlog.done ∨
          ∃ held ∈ pipeline.backlog.messages, duty ∈ promises held.2 := by
  have ran : ∃ trace pipeline,
      Run Pipeline.step Pipeline.Sound {} trace pipeline ∧
        pipeline.released = [(0, Pipeline.sampleMessage)] := by
    apply Run.exists_state_of_exec Pipeline.sampleActions
    decide +kernel
  obtain ⟨trace, pipeline, run, released⟩ := ran
  refine ⟨trace, pipeline, run, released, ?_⟩
  apply released_kept run (0, Pipeline.sampleMessage)
  rw [released]
  exact List.mem_singleton_self _

end Worker

end TinyChat
