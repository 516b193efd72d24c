import Mathlib.Data.List.Nodup

/-!
# A backlog of numbered messages

A broker numbers its messages as they arrive and holds each of them until it
is settled.  A message promises duties; a duty is discharged once and for
all, or some message still promises it.  A message may be settled when all
that it promises is discharged or was promised again by later messages.  That
the others are later is what makes the argument well-founded: two messages
cannot both be settled because of each other.
-/

structure Backlog (ο μ : Type) where
  done : List ο := []
  messages : List (Nat × μ) := []
  next : Nat := 0
  deriving DecidableEq

namespace Backlog

section

variable {ο μ : Type}

/-- Duties are discharged. -/
def discharge (backlog : Backlog ο μ) (duties : List ο) : Backlog ο μ :=
  { backlog with done := backlog.done ++ duties }

/-- A number is used without a message. -/
def skip (backlog : Backlog ο μ) : Backlog ο μ :=
  { backlog with next := backlog.next + 1 }

/-- A message arrives. -/
def publish (backlog : Backlog ο μ) (message : μ) : Backlog ο μ :=
  { backlog with
    messages := backlog.messages ++ [(backlog.next, message)]
    next := backlog.next + 1 }

/-- The message with a number is settled. -/
def settle (backlog : Backlog ο μ) (number : Nat) : Backlog ο μ :=
  { backlog with
    messages := backlog.messages.filter (fun entry => entry.1 ≠ number) }

/-- A message with the number is not settled. -/
def Holds (backlog : Backlog ο μ) (number : Nat) : Prop :=
  number ∈ backlog.messages.map Prod.fst

/-- The numbers are below the next one, and no two messages share one. -/
structure Numbered (backlog : Backlog ο μ) : Prop where
  below : ∀ entry ∈ backlog.messages, entry.1 < backlog.next
  nodup : (backlog.messages.map Prod.fst).Nodup

/-- A duty is discharged, or promised by a message after a number. -/
def Above (promises : μ → List ο) (backlog : Backlog ο μ) (number : Nat)
    (duty : ο) : Prop :=
  duty ∈ backlog.done ∨
    ∃ entry ∈ backlog.messages, number < entry.1 ∧ duty ∈ promises entry.2

variable {promises : μ → List ο} {backlog : Backlog ο μ} {number : Nat}
  {duty : ο} {message : μ}

theorem Holds.of_getElem? {index : Nat}
    (found : backlog.messages[index]? = some (number, message)) :
    backlog.Holds number :=
  List.mem_map.mpr ⟨_, List.mem_of_getElem? found, rfl⟩

theorem Holds.publish (holds : backlog.Holds number) (message : μ) :
    (backlog.publish message).Holds number := by
  rw [Holds, Backlog.publish, List.map_append]
  exact List.mem_append_left _ holds

theorem numbered_empty : Numbered ({} : Backlog ο μ) where
  below := fun _ member => absurd member List.not_mem_nil
  nodup := List.nodup_nil

theorem Numbered.discharge (numbered : backlog.Numbered)
    (duties : List ο) : (backlog.discharge duties).Numbered :=
  ⟨numbered.below, numbered.nodup⟩

theorem Numbered.skip (numbered : backlog.Numbered) :
    backlog.skip.Numbered where
  below := by
    intro entry member
    exact Nat.lt_succ_of_lt (numbered.below entry member)
  nodup := numbered.nodup

theorem Numbered.publish (numbered : backlog.Numbered) (message : μ) :
    (backlog.publish message).Numbered where
  below := by
    intro entry member
    rcases List.mem_append.mp member with earlier | last
    · exact Nat.lt_succ_of_lt (numbered.below entry earlier)
    · rw [List.mem_singleton.mp last]
      exact Nat.lt_succ_self _
  nodup := by
    rw [Backlog.publish, List.map_append, List.nodup_append]
    refine ⟨numbered.nodup, List.nodup_singleton _, ?_⟩
    intro first earlier second last same
    obtain ⟨entry, member, rfl⟩ := List.mem_map.mp earlier
    rw [List.mem_singleton.mp last] at same
    exact Nat.ne_of_lt (numbered.below entry member) same

theorem Numbered.settle (numbered : backlog.Numbered) (number : Nat) :
    (backlog.settle number).Numbered where
  below := by
    intro entry member
    exact numbered.below entry (List.mem_of_mem_filter member)
  nodup := numbered.nodup.sublist (List.filter_sublist.map Prod.fst)

theorem Numbered.eq (numbered : backlog.Numbered) {first second : μ}
    (left : (number, first) ∈ backlog.messages)
    (right : (number, second) ∈ backlog.messages) : first = second :=
  congrArg Prod.snd
    (List.inj_on_of_nodup_map numbered.nodup left right rfl)

@[simp] theorem mem_messages_settle {entry : Nat × μ} :
    entry ∈ (backlog.settle number).messages ↔
      entry ∈ backlog.messages ∧ entry.1 ≠ number := by
  simp [settle]

theorem Above.mono (above : Above promises backlog number duty)
    {earlier : Nat} (before : earlier ≤ number) :
    Above promises backlog earlier duty := by
  rcases above with member | ⟨entry, member, later, promised⟩
  · exact .inl member
  · exact .inr ⟨entry, member, Nat.lt_of_le_of_lt before later, promised⟩

theorem Above.discharge (above : Above promises backlog number duty)
    (duties : List ο) :
    Above promises (backlog.discharge duties) number duty := by
  rcases above with member | promised
  · exact .inl (List.mem_append_left _ member)
  · exact .inr promised

theorem above_discharge {duties : List ο} (member : duty ∈ duties)
    (number : Nat) :
    Above promises (backlog.discharge duties) number duty :=
  .inl (List.mem_append_right _ member)

theorem Above.skip (above : Above promises backlog number duty) :
    Above promises backlog.skip number duty := above

theorem Above.publish (above : Above promises backlog number duty)
    (message : μ) :
    Above promises (backlog.publish message) number duty := by
  rcases above with member | ⟨entry, member, promised⟩
  · exact .inl member
  · exact .inr ⟨entry, List.mem_append_left _ member, promised⟩

theorem above_publish (before : number < backlog.next)
    (member : duty ∈ promises message) :
    Above promises (backlog.publish message) number duty :=
  .inr ⟨(backlog.next, message),
    List.mem_append_right _ (List.mem_singleton_self _), before, member⟩

/-- What a message promises is still above when it is settled, if it is
discharged or promised after the message. -/
theorem Above.settle {settled : Nat}
    (above : Above promises backlog number duty)
    (handled : ∀ message, (settled, message) ∈ backlog.messages →
      ∀ duty ∈ promises message, Above promises backlog settled duty) :
    Above promises (backlog.settle settled) number duty := by
  have after : ∀ {duty}, Above promises backlog settled duty →
      Above promises (backlog.settle settled) settled duty := by
    intro duty above
    rcases above with member | ⟨entry, member, later, promised⟩
    · exact .inl member
    · refine .inr ⟨entry, ?_, later, promised⟩
      exact mem_messages_settle.mpr ⟨member, Nat.ne_of_gt later⟩
  rcases above with member | ⟨entry, member, later, promised⟩
  · exact .inl member
  · by_cases same : entry.1 = settled
    · subst same
      have again := handled entry.2 member duty promised
      exact (after again).mono (Nat.le_of_lt later)
    · exact .inr ⟨entry, mem_messages_settle.mpr ⟨member, same⟩, later,
        promised⟩

/-- Once nothing is left, everything is discharged. -/
theorem Above.done (above : Above promises backlog number duty)
    (drained : backlog.messages = []) : duty ∈ backlog.done := by
  rcases above with member | ⟨entry, member, _⟩
  · exact member
  · rw [drained] at member
    cases member

end

end Backlog
