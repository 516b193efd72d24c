import Mathlib.Algebra.Order.Group.Int
import Mathlib.Algebra.BigOperators.Group.List.Basic
import TinyChat.User.FriendSymmetry

/-!
# The counters of friends

The triggers on `friends` keep `users.friend_count` up to date, except that
nothing is added when a deleted friend is blocked.  What is missing for this
reason is never made good.
-/

namespace TinyChat

namespace User

/-- The row counts for its owner. -/
def FriendRow.Counts (seq : Int) (row : FriendRow) : Bool :=
  row.ownerId = seq ∧ row.status ≠ .deleted

/-- The rows of a user whose status is not `Deleted`. -/
def countOf (friends : List FriendRow) (seq : Int) : Nat :=
  friends.countP (FriendRow.Counts seq)

/-- What the triggers add to the counter of a user. -/
def amounts (events : List RowEvent) (seq : Int) : Int :=
  (events.map (fun event => event.amount seq)).sum

theorem amounts_append (first second : List RowEvent) (seq : Int) :
    amounts (first ++ second) seq = amounts first seq + amounts second seq := by
  simp [amounts]

/-- The difference that the triggers leave when a row is changed. -/
def oversight (old new : FriendRow) (seq : Int) : Int :=
  if seq = new.ownerId ∧ old.status = .deleted ∧ new.status = .blocked then 1
  else 0

theorem count_updated {old new : FriendRow}
    (owner : new.ownerId = old.ownerId) (seq : Int) :
    (if new.Counts seq then 1 else 0 : Int) =
      (if old.Counts seq then 1 else 0) +
        (RowEvent.updated old new).amount seq + oversight old new seq := by
  have amount : (RowEvent.updated old new).amount seq =
      if seq = new.ownerId then (RowEvent.updated old new).change
      else 0 := rfl
  rw [amount]
  unfold oversight
  by_cases own : seq = new.ownerId
  · subst own
    cases before : old.status with
    | active | deleted | blocked =>
        cases after : new.status with
        | active | deleted | blocked =>
            simp [FriendRow.Counts, RowEvent.change, before, after, owner]
  · have other : old.ownerId ≠ seq := by
      rw [← owner]
      exact Ne.symm own
    simp [FriendRow.Counts, own, other, Ne.symm own]

theorem countOf_update {friends : List FriendRow} {key : Int × Int}
    {old : FriendRow} {change : FriendRow → FriendRow}
    (unique : Rows.Unique FriendRow.key friends)
    (found : Rows.find FriendRow.key friends key = some old)
    (owner : (change old).ownerId = old.ownerId) (seq : Int) :
    (countOf (Rows.update FriendRow.key friends key change) seq : Int) =
      countOf friends seq + (RowEvent.updated old (change old)).amount seq +
        oversight old (change old) seq := by
  have counted : (Rows.update FriendRow.key friends key change).countP
        (FriendRow.Counts seq) + (if old.Counts seq then 1 else 0) =
      friends.countP (FriendRow.Counts seq) +
        (if (change old).Counts seq then 1 else 0) :=
    Rows.countP_update unique found _
  have changed := count_updated owner seq
  unfold countOf
  split at counted
  · rename_i before
    rw [if_pos before] at changed
    split at counted
    · rename_i after
      rw [if_pos after] at changed
      omega
    · rename_i after
      rw [if_neg after] at changed
      omega
  · rename_i before
    rw [if_neg before] at changed
    split at counted
    · rename_i after
      rw [if_pos after] at changed
      omega
    · rename_i after
      rw [if_neg after] at changed
      omega

namespace Insertion

variable {insertion next : Insertion} {new : FriendRow}

/-- The rows that an insertion has changed are counted by its triggers. -/
structure Balanced (friends : List FriendRow) (insertion : Insertion) :
    Prop where
  unique : Rows.Unique FriendRow.key insertion.friends
  counted : ∀ seq, (countOf insertion.friends seq : Int) =
    countOf friends seq + amounts insertion.events seq
  owners : ∀ row ∈ insertion.friends,
    (∃ old ∈ friends, old.ownerId = row.ownerId) ∨
      ∃ created, .inserted created ∈ insertion.events ∧
        created.ownerId = row.ownerId

theorem balanced_start {friends : List FriendRow}
    (unique : Rows.Unique FriendRow.key friends) :
    Balanced friends { friends := friends } where
  unique := unique
  counted := by simp [amounts]
  owners := fun row member => Or.inl ⟨row, member, rfl⟩

theorem Balanced.insertFriend {friends : List FriendRow}
    (balanced : Balanced friends insertion) (active : new.status = .active)
    (inserted : insertion.insertFriend new = .ok next) :
    Balanced friends next := by
  rcases insertFriend_ok inserted with ⟨absent, rfl⟩ |
    ⟨old, found, -, ⟨inactive, rfl⟩ | ⟨-, rfl⟩⟩
  · constructor
    case unique => exact balanced.unique.append absent
    case counted =>
      intro seq
      have own : (if new.Counts seq then 1 else 0 : Int) =
          amounts [.inserted new] seq := by
        simp [FriendRow.Counts, active, amounts, RowEvent.amount,
          RowEvent.change, RowEvent.ownerId, eq_comm]
      rw [amounts_append, ← own, ← Int.add_assoc, ← balanced.counted seq]
      simp only [countOf, List.countP_append, List.countP_singleton]
      split
      · rfl
      · rfl
    case owners =>
      intro row member
      rcases List.mem_append.mp member with old | last
      · rcases balanced.owners row old with before | ⟨created, listed, same⟩
        · exact Or.inl before
        · exact Or.inr ⟨created, List.mem_append_left _ listed, same⟩
      · rw [List.mem_singleton.mp last]
        exact Or.inr ⟨new, List.mem_append_right _ List.mem_cons_self, rfl⟩
  · constructor
    case unique => exact balanced.unique.update (fun _ => rfl)
    case counted =>
      intro seq
      have changed : (countOf (Rows.update FriendRow.key insertion.friends
            new.key reactivated) seq : Int) =
          countOf insertion.friends seq +
            (RowEvent.updated old (reactivated old)).amount seq +
            oversight old (reactivated old) seq :=
        countOf_update balanced.unique found rfl seq
      have none : oversight old (reactivated old) seq = 0 := by
        simp [oversight, reactivated, inactive]
      have one : amounts [.updated old (reactivated old)] seq =
          (RowEvent.updated old (reactivated old)).amount seq := by
        simp [amounts]
      rw [changed, none, Int.add_zero, balanced.counted seq, amounts_append,
        one, Int.add_assoc]
    case owners =>
      intro row member
      obtain ⟨before, listed, rfl⟩ := Rows.mem_update.mp member
      have same : (if before.key = new.key then reactivated before
          else before).ownerId = before.ownerId := by
        split
        · rfl
        · rfl
      rw [same]
      rcases balanced.owners before listed with old | ⟨created, place, owner⟩
      · exact Or.inl old
      · exact Or.inr ⟨created, List.mem_append_left _ place, owner⟩
  · exact balanced

end Insertion

namespace Database

variable {database next : Database}

theorem mem_users_settled {sessions : List SessionRow} {amount : Int → Int}
    {seq : Int} :
    (∃ user ∈ (database.settled sessions amount).users, user.seq = seq) ↔
      ∃ user ∈ database.users, user.seq = seq := by
  simp [settled, addAmounts]

theorem owner_of_inserted {events : List RowEvent} {new : FriendRow}
    (fired : fireAll events database = .ok next)
    (member : .inserted new ∈ events) :
    ∃ user ∈ database.users, user.seq = new.ownerId := by
  induction events generalizing database with
  | nil => cases member
  | cons event events induction =>
      obtain ⟨middle, first, rest⟩ := Fallible.bind_ok.mp fired
      rcases List.mem_cons.mp member with rfl | later
      · obtain ⟨created, others, -⟩ := Fallible.bind_ok.mp first
        obtain ⟨checked, references, -⟩ := Fallible.bind_ok.mp others
        exact (checkReferences_ok references).2.1
      · have known := induction rest later
        rw [fire_ok first, mem_users_settled] at known
        exact known

/-- What is missing in the counters. -/
structure Drifted (missing : Int → Int) (database : Database) : Prop where
  unique : Rows.Unique FriendRow.key database.friends
  owners : ∀ row ∈ database.friends,
    ∃ user ∈ database.users, user.seq = row.ownerId
  counts : ∀ user ∈ database.users,
    user.friendCount + missing user.seq = countOf database.friends user.seq

theorem Drifted.fireAll {missing extra : Int → Int} {events : List RowEvent}
    {friends : List FriendRow} (drifted : Drifted missing database)
    (unique : Rows.Unique FriendRow.key friends)
    (owners : ∀ row ∈ friends, ∃ user ∈ database.users,
      user.seq = row.ownerId)
    (counted : ∀ seq, (countOf friends seq : Int) =
      countOf database.friends seq + amounts events seq + extra seq)
    (fired : Database.fireAll events { database with friends } = .ok next) :
    Drifted (fun seq => missing seq + extra seq) next := by
  rw [fireAll_ok fired]
  constructor
  case unique => exact unique
  case owners =>
    intro row member
    exact mem_users_settled.mpr (owners row member)
  case counts =>
    intro user member
    obtain ⟨before, listed, rfl⟩ := List.mem_map.mp member
    have counts := drifted.counts before listed
    have after := counted before.seq
    change before.friendCount + amounts events before.seq +
      (missing before.seq + extra before.seq) =
        (countOf friends before.seq : Int)
    omega

end Database

/-- The report of a deleted friend of the user that was blocked. -/
def FriendReport.BlocksDeleted (seq : Int) : FriendReport → Bool
  | .responded ownerId _ .deleted .blocked => ownerId = seq
  | _ => false

/-- How often the triggers overlooked a row of the user. -/
def missed (trace : List FriendReport) (seq : Int) : Int :=
  trace.countP (FriendReport.BlocksDeleted seq)

theorem missed_append (first second : List FriendReport) (seq : Int) :
    missed (first ++ second) seq = missed first seq + missed second seq := by
  simp [missed]

theorem missed_created (requestId addressId : Int) (selected : Option Int)
    (seq : Int) : missed [.created requestId addressId selected] seq = 0 :=
  rfl

theorem missed_responded {old : FriendRow} {status : RelationStatus}
    (seq : Int) :
    missed [.responded old.ownerId old.friendId old.status status] seq =
      oversight old { old with status } seq := by
  unfold missed oversight
  rw [List.countP_singleton]
  cases before : old.status with
  | active | blocked => simp [FriendReport.BlocksDeleted]
  | deleted =>
      cases status with
      | active | deleted => simp [FriendReport.BlocksDeleted]
      | blocked =>
          by_cases own : old.ownerId = seq
          · simp [FriendReport.BlocksDeleted, own]
          · simp [FriendReport.BlocksDeleted, own, Ne.symm own]

namespace Database

variable {database next : Database} {trace events : List FriendReport}

theorem drifted_created {requestId addressId sessionId : Int}
    {selected : Option Int} {missing : Int → Int}
    (drifted : Drifted missing database)
    (created : database.createFriend requestId addressId sessionId =
      .ok (selected, next)) : Drifted missing next := by
  obtain ⟨first, insertion, one, two, fired, -⟩ := createFriend_ok created
  have start := Insertion.balanced_start drifted.unique
  have balanced := (start.insertFriend rfl one).insertFriend rfl two
  have owners : ∀ row ∈ insertion.friends, ∃ user ∈ database.users,
      user.seq = row.ownerId := by
    intro row member
    rcases balanced.owners row member with ⟨old, listed, same⟩ |
      ⟨new, listed, same⟩
    · rw [← same]
      exact drifted.owners old listed
    · rw [← same]
      have owner := owner_of_inserted fired listed
      exact owner
  have counted : ∀ seq, (countOf insertion.friends seq : Int) =
      countOf database.friends seq + amounts insertion.events seq + 0 := by
    intro seq
    rw [Int.add_zero]
    exact balanced.counted seq
  have reached : Drifted (fun seq => missing seq + 0) next :=
    drifted.fireAll balanced.unique owners counted fired
  simpa using reached

theorem drifted_step {statement : FriendStatement}
    (drifted : Drifted (missed trace) database)
    (stepped : step database statement = some (next, events)) :
    Drifted (missed (trace ++ events)) next := by
  cases step_cases stepped with
  | kept =>
      rw [List.append_nil]
      exact drifted
  | @created requestId addressId _ selected _ created =>
      have same : missed (trace ++
          [.created requestId addressId selected]) = missed trace := by
        funext seq
        rw [missed_append, missed_created, Int.add_zero]
      rw [same]
      exact drifted_created drifted created
  | @responded _ ownerId friendId status old _ found fired =>
      have same : missed (trace ++
          [.responded old.ownerId old.friendId old.status status]) =
            fun seq => missed trace seq +
              oversight old { old with status } seq := by
        funext seq
        rw [missed_append]
        exact congrArg (missed trace seq + ·) (missed_responded seq)
      rw [same]
      apply drifted.fireAll _ _ _ fired
      · exact drifted.unique.update (fun _ => rfl)
      · intro row member
        obtain ⟨before, listed, rfl⟩ := Rows.mem_update.mp member
        have owner : (if before.key = (ownerId, friendId) then
            { before with status } else before).ownerId =
              before.ownerId := by
          split
          · rfl
          · rfl
        rw [owner]
        exact drifted.owners before listed
      · intro seq
        rw [countOf_update drifted.unique found rfl seq]
        simp [amounts]

section

variable {seqs : List Int}

theorem drifted_empty (seqs : List Int) :
    Drifted (missed []) (empty seqs) := by
  constructor
  · exact List.nodup_nil
  · intro row member
    cases member
  · intro user member
    obtain ⟨seq, -, rfl⟩ := List.mem_map.mp member
    rfl

/-- The counter of every user is the number of his rows that are not
deleted. -/
def Counted (database : Database) : Prop :=
  ∀ user ∈ database.users,
    user.friendCount = countOf database.friends user.seq

instance (database : Database) : Decidable database.Counted :=
  inferInstanceAs (Decidable (∀ user ∈ database.users, _))

theorem missed_eq_zero_iff {seq : Int} :
    missed trace seq = 0 ↔
      ∀ report ∈ trace, report.BlocksDeleted seq = false := by
  rw [missed, Int.natCast_eq_zero, List.countP_eq_zero]
  apply forall₂_congr
  intro report _
  rw [Bool.not_eq_true]

/-- Statements change the rows of users, but neither add nor remove any. -/
theorem mem_users_step {statement : FriendStatement} {seq : Int}
    (stepped : step database statement = some (next, events)) :
    (∃ user ∈ next.users, user.seq = seq) ↔
      ∃ user ∈ database.users, user.seq = seq := by
  cases step_cases stepped with
  | kept => exact Iff.rfl
  | created created =>
      obtain ⟨first, insertion, -, -, fired, -⟩ := createFriend_ok created
      rw [fireAll_ok fired]
      exact mem_users_settled
  | responded _ fired =>
      rw [fireAll_ok fired]
      exact mem_users_settled

/-- The owner of a row that was changed is a user. -/
def Reported (trace : List FriendReport) (database : Database) : Prop :=
  ∀ ownerId friendId old new, .responded ownerId friendId old new ∈ trace →
    ∃ user ∈ database.users, user.seq = ownerId

theorem reported_new {statement : FriendStatement}
    {ownerId friendId : Int} {old new : RelationStatus}
    (drifted : Drifted (missed trace) database)
    (stepped : step database statement = some (next, events))
    (member : .responded ownerId friendId old new ∈ events) :
    ∃ user ∈ database.users, user.seq = ownerId := by
  cases step_cases stepped with
  | kept => cases member
  | created => cases List.mem_singleton.mp member
  | @responded _ _ _ status row _ found _ =>
      cases List.mem_singleton.mp member
      exact drifted.owners row (Rows.mem_of_find found).1

theorem reported_of_run
    (run : Transition.AnyRun step (empty seqs) trace database) :
    Drifted (missed trace) database ∧ Reported trace database := by
  apply @Transition.Run.invariant _ _ _ _ _ _ _ _
    (fun trace database =>
      Drifted (missed trace) database ∧ Reported trace database) run
  · refine ⟨drifted_empty seqs, ?_⟩
    intro ownerId friendId old new member
    cases member
  · rintro trace events state next action ⟨drifted, reported⟩ - stepped
    refine ⟨drifted_step drifted stepped, ?_⟩
    intro ownerId friendId old new member
    rw [mem_users_step stepped]
    rcases List.mem_append.mp member with earlier | later
    · exact reported _ _ _ _ earlier
    · exact reported_new drifted stepped later

theorem blocksDeleted_iff {seq : Int} {report : FriendReport} :
    report.BlocksDeleted seq = true ↔
      ∃ friendId, report = .responded seq friendId .deleted .blocked := by
  cases report with
  | created => simp [FriendReport.BlocksDeleted]
  | responded ownerId friendId old new =>
      cases old with
      | active | blocked => simp [FriendReport.BlocksDeleted]
      | deleted =>
          cases new with
          | active | deleted => simp [FriendReport.BlocksDeleted]
          | blocked => simp [FriendReport.BlocksDeleted]

/-- After any sequence of statements, all counters are right if and only if
no statement has blocked a deleted friend. -/
theorem run_counted_iff
    (run : Transition.AnyRun step (empty seqs) trace database) :
    database.Counted ↔
      ∀ report ∈ trace, ∀ ownerId friendId,
        report ≠ .responded ownerId friendId .deleted .blocked := by
  obtain ⟨drifted, reported⟩ := reported_of_run run
  constructor
  · rintro counted report member ownerId friendId rfl
    obtain ⟨user, listed, same⟩ := reported _ _ _ _ member
    have counts := drifted.counts user listed
    rw [counted user listed] at counts
    have none : missed trace user.seq = 0 := by
      omega
    have overlooked : FriendReport.BlocksDeleted user.seq
        (.responded ownerId friendId .deleted .blocked) = true :=
      blocksDeleted_iff.mpr ⟨friendId, by rw [same]⟩
    rw [missed_eq_zero_iff.mp none _ member] at overlooked
    cases overlooked
  · intro never user member
    have none : missed trace user.seq = 0 := by
      apply missed_eq_zero_iff.mpr
      intro report listed
      rw [← Bool.not_eq_true, blocksDeleted_iff]
      rintro ⟨friendId, same⟩
      exact never report listed user.seq friendId same
    have counts := drifted.counts user member
    rw [none, Int.add_zero] at counts
    exact counts

/-- A friend is deleted and added again. -/
theorem run_counted_iff_deleted :
    ∃ (trace : List FriendReport) (database : Database),
      (database.Counted ↔ ∀ report ∈ trace, ∀ ownerId friendId,
        report ≠ .responded ownerId friendId .deleted .blocked) ∧
      trace.length = 3 := by
  have reached : ∃ (trace : List FriendReport) (database : Database),
      Transition.AnyRun step (empty [1, 2]) trace database ∧
      trace.length = 3 := by
    apply Transition.Run.exists_both_of_exec
      [.createFriend 1 2 7, .respondFriend "Deleted" 1 2,
        .createFriend 2 1 8]
    decide +kernel
  obtain ⟨trace, database, run, length⟩ := reached
  exact ⟨trace, database, run_counted_iff run, length⟩

/-- A friend is deleted and then blocked. -/
theorem blocked_not_counted :
    ¬ ∀ (seqs : List Int) (trace : List FriendReport) (database : Database),
      Transition.AnyRun step (empty seqs) trace database →
      database.Counted := by
  intro claimed
  have reached : ∃ (trace : List FriendReport) (database : Database),
      Transition.AnyRun step (empty [1, 2]) trace database ∧
      ¬ database.Counted := by
    apply Transition.Run.exists_state_of_exec
      [.createFriend 1 2 7, .respondFriend "Deleted" 1 2,
        .respondFriend "Blocked" 1 2]
    decide +kernel
  obtain ⟨trace, database, run, wrong⟩ := reached
  exact wrong (claimed _ _ _ run)

end

end Database

end User

end TinyChat
