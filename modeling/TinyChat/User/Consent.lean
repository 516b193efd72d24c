import TinyChat.User.Announcement

/-!
# Consent to a friendship

A confirmation of user `B` towards user `A` should answer the request of `A`
to `B`.  The event has `B` where a request has its author, and the statements
look for the request of `B` to `A`; nothing checks that `A` has asked.
-/

namespace TinyChat

namespace User

variable {database next : Database} {confirm : FriendConfirm}
  {ended : Attempt}

/-- The status that an action stands for. -/
def FriendConfirm.status (confirm : FriendConfirm) : RequestStatus :=
  if confirm.action = 0 then .accepted
  else if confirm.action = 1 then .rejected
  else .ignored

/-- The keys of the request that is confirmed, and of the one that the
statements look for. -/
def FriendConfirm.answered (confirm : FriendConfirm) : Int × Int :=
  (confirm.addressId, confirm.requestId)

def FriendConfirm.reversed (confirm : FriendConfirm) : Int × Int :=
  (confirm.requestId, confirm.addressId)

namespace Database

def Active (database : Database) (key : Int × Int) : Prop :=
  ∃ row ∈ database.friends, row.key = key ∧ row.status = .active

/-- The user who is confirmed has asked, and waits for the answer. -/
def Requested (confirm : FriendConfirm) (database : Database) : Prop :=
  ∃ request ∈ database.friendRequests,
    request.key = confirm.answered ∧ request.status = .pending

/-- A request that exists has the status already. -/
def Done (database : Database) (status : RequestStatus) (key : Int × Int) :
    Prop :=
  ∀ request ∈ database.friendRequests, request.key = key →
    request.status = status

end Database

/-- A row between the two users becomes active. -/
def Activates (confirm : FriendConfirm) (before after : Database) : Prop :=
  ∃ key, (key = confirm.answered ∨ key = confirm.reversed) ∧
    after.Active key ∧ ¬ before.Active key

/-- Only a pending request makes users friends, and exactly its status is
set. -/
structure Consensual (confirm : FriendConfirm) (before after : Database) :
    Prop where
  requested : confirm.action = 0 → Activates confirm before after →
    before.Requested confirm
  only : after.friendRequests =
    Database.setStatus before.friendRequests confirm.status confirm.answered

/-- The two users are friends already. -/
def Befriended (confirm : FriendConfirm) (database : Database) : Prop :=
  database.Active confirm.answered ∧ database.Active confirm.reversed

/-- There is nothing left to be done: neither request has another status, and
whoever is accepted is a friend.  If the statements are not executed, the
request of the other direction does not matter; a user may reject or ignore
himself. -/
def Needless (confirm : FriendConfirm) (ended : Attempt)
    (database : Database) : Prop :=
  if ended = .executed then
    (confirm.action ≠ 0 ∧ confirm.requestId = confirm.addressId) ∨
      (database.Done confirm.status confirm.answered ∧
        database.Done confirm.status confirm.reversed ∧
        (confirm.action = 0 → Befriended confirm database))
  else database.Done confirm.status confirm.answered

section

variable {requests : List RequestRow} {status : RequestStatus}

theorem withStatus_status (status : RequestStatus) (row : RequestRow) :
    (Database.withStatus status row).status = status := by
  unfold Database.withStatus
  split
  · rfl
  · rename_i same
    exact not_not.mp same

theorem withStatus_of_status {row : RequestRow} (same : row.status = status) :
    Database.withStatus status row = row :=
  if_neg (not_not.mpr same)

theorem setStatus_eq_self_iff {key : Int × Int} :
    Database.setStatus requests status key = requests ↔
      ∀ request ∈ requests, request.key = key → request.status = status := by
  constructor
  · intro same request member own
    have each := List.map_inj_left.mp (same.trans (List.map_id requests).symm)
      request member
    rw [if_pos own] at each
    have equal := congrArg RequestRow.status each
    rw [withStatus_status] at equal
    exact equal.symm
  · intro settled
    refine (List.map_congr_left ?_).trans (List.map_id requests)
    intro request member
    split
    · rename_i own
      exact withStatus_of_status (settled request member own)
    · rfl

/-- Setting the status of one of two requests is setting that of the other
one only if both have it. -/
theorem setStatus_eq_iff {first second : Int × Int}
    (different : first ≠ second) :
    Database.setStatus requests status first =
        Database.setStatus requests status second ↔
      (∀ request ∈ requests, request.key = first →
          request.status = status) ∧
        ∀ request ∈ requests, request.key = second →
          request.status = status := by
  constructor
  · intro same
    have each := List.map_inj_left.mp same
    constructor
    · intro request member own
      have equal := congrArg RequestRow.status (each request member)
      rw [if_pos own, if_neg (own ▸ different), withStatus_status] at equal
      exact equal.symm
    · intro request member own
      have equal := congrArg RequestRow.status (each request member)
      rw [if_pos own, if_neg (own ▸ different.symm), withStatus_status]
        at equal
      exact equal
  · rintro ⟨one, two⟩
    rw [setStatus_eq_self_iff.mpr one, setStatus_eq_self_iff.mpr two]

end

namespace Insertion

variable {insertion reached : Insertion} {new : FriendRow}

theorem insertFriend_active (active : new.status = .active)
    (inserted : insertion.insertFriend new = .ok reached) :
    (∃ row ∈ reached.friends, row.key = new.key ∧ row.status = .active) ∧
      ∀ key, (∃ row ∈ insertion.friends,
          row.key = key ∧ row.status = .active) →
        ∃ row ∈ reached.friends, row.key = key ∧ row.status = .active := by
  rcases insertFriend_ok inserted with ⟨-, rfl⟩ |
    ⟨old, found, -, ⟨inactive, rfl⟩ | ⟨settled, rfl⟩⟩
  · constructor
    · exact ⟨new, List.mem_append_right _ List.mem_cons_self, rfl, active⟩
    · rintro key ⟨row, member, own, status⟩
      exact ⟨row, List.mem_append_left _ member, own, status⟩
  · obtain ⟨member, own⟩ := Rows.mem_of_find found
    constructor
    · refine ⟨reactivated old, ?_, own, if_pos inactive⟩
      exact Rows.mem_update.mpr ⟨old, member, if_pos own⟩
    · rintro key ⟨row, listed, same, status⟩
      by_cases touched : row.key = new.key
      · refine ⟨reactivated row,
          Rows.mem_update.mpr ⟨row, listed, if_pos touched⟩, same, ?_⟩
        change (if row.status ≠ .active then .active else row.status) =
          RelationStatus.active
        rw [if_neg (not_not.mpr status), status]
      · exact ⟨row, Rows.mem_update.mpr ⟨row, listed, if_neg touched⟩, same,
          status⟩
  · obtain ⟨member, own⟩ := Rows.mem_of_find found
    exact ⟨⟨old, member, own, settled⟩, fun key row => row⟩

end Insertion

theorem createFriend_active {requestId addressId sessionId : Int}
    {selected : Option Int}
    (created : database.createFriend requestId addressId sessionId =
      .ok (selected, next)) :
    next.Active (requestId, addressId) ∧
      next.Active (addressId, requestId) := by
  obtain ⟨first, insertion, one, two, fired, -⟩ :=
    Database.createFriend_ok created
  have both := Insertion.insertFriend_active rfl two
  have lower := both.2 _ (Insertion.insertFriend_active rfl one).1
  have higher := both.1
  have friends : next.friends = insertion.friends := by
    rw [Database.fireAll_ok fired]
    rfl
  unfold Database.Active
  rw [friends]
  simp only [FriendRow.key] at lower higher
  rcases le_total requestId addressId with ordered | ordered
  · rw [min_eq_left ordered, max_eq_right ordered] at lower higher
    exact ⟨lower, higher⟩
  · rw [min_eq_right ordered, max_eq_left ordered] at lower higher
    exact ⟨higher, lower⟩

theorem not_activates : ¬ Activates confirm database database := by
  rintro ⟨key, -, active, inactive⟩
  exact inactive active

theorem befriended_iff_not_activates (database : Database)
    (active : next.Active confirm.reversed ∧ next.Active confirm.answered) :
    Befriended confirm database ↔ ¬ Activates confirm database next := by
  constructor
  · rintro ⟨one, two⟩ ⟨key, rfl | rfl, -, inactive⟩
    · exact inactive one
    · exact inactive two
  · intro unchanged
    constructor
    · by_contra inactive
      exact unchanged ⟨_, Or.inl rfl, active.2, inactive⟩
    · by_contra inactive
      exact unchanged ⟨_, Or.inr rfl, active.1, inactive⟩

theorem consensual_unchanged_iff :
    Consensual confirm database database ↔
      database.Done confirm.status confirm.answered := by
  constructor
  · intro consensual
    exact setStatus_eq_self_iff.mp consensual.only.symm
  · intro settled
    constructor
    · intro _ activates
      exact absurd activates not_activates
    · exact (setStatus_eq_self_iff.mpr settled).symm

/-- The statement for a request was executed on the request of the other
direction. -/
theorem only_iff
    (requests : next.friendRequests = Database.setStatus
      database.friendRequests confirm.status confirm.reversed) :
    next.friendRequests = Database.setStatus database.friendRequests
        confirm.status confirm.answered ↔
      confirm.requestId = confirm.addressId ∨
        database.Done confirm.status confirm.answered ∧
          database.Done confirm.status confirm.reversed := by
  rw [requests]
  by_cases self : confirm.requestId = confirm.addressId
  · have same : confirm.reversed = confirm.answered := by
      rw [FriendConfirm.reversed, FriendConfirm.answered, self]
    rw [same]
    exact iff_of_true rfl (Or.inl self)
  · have different : confirm.reversed ≠ confirm.answered := by
      intro same
      exact self (Prod.mk.inj same).1
    rw [setStatus_eq_iff different]
    constructor
    · rintro ⟨reversed, answered⟩
      exact Or.inr ⟨answered, reversed⟩
    · rintro (absurdly | ⟨answered, reversed⟩)
      · exact absurd absurdly self
      · exact ⟨reversed, answered⟩

theorem consensual_accepted_iff (zero : confirm.action = 0)
    (paired : Paired database.links database.sessions)
    (accepted : FriendServicer.Accepted confirm database
      (some (.success, ended)) next) :
    Consensual confirm database next ↔ Needless confirm ended database := by
  unfold Needless
  cases accepted with
  | nothing unavailable =>
      have idle := unavailable ended rfl
      subst idle
      rw [if_neg (by decide)]
      exact consensual_unchanged_iff
  | executed created =>
      rename_i reached
      obtain ⟨distinct, -, kept⟩ := Database.createFriend_cases paired created
      have status : confirm.status = .accepted := if_pos zero
      have requests : (reached.respondFriendRequest .accepted
          confirm.requestId confirm.addressId).friendRequests =
            Database.setStatus database.friendRequests confirm.status
              confirm.reversed := by
        rw [status, ← kept]
        rfl
      have equal := only_iff requests
      have friends : Befriended confirm database ↔
          ¬ Activates confirm database reached :=
        befriended_iff_not_activates database (createFriend_active created)
      rw [if_pos rfl]
      constructor
      · intro consensual
        rcases equal.mp consensual.only with self | ⟨answered, reversed⟩
        · exact absurd self distinct
        · refine Or.inr ⟨answered, reversed, fun _ => friends.mpr ?_⟩
          intro activates
          obtain ⟨request, member, own, pending⟩ :=
            consensual.requested zero activates
          have settled := answered request member own
          rw [pending, status] at settled
          cases settled
      · rintro (⟨other, -⟩ | ⟨answered, reversed, befriended⟩)
        · exact absurd zero other
        · constructor
          · intro _ activates
            exact absurd activates (friends.mp (befriended zero))
          · exact equal.mpr (Or.inr ⟨answered, reversed⟩)

theorem consensual_responded_iff (other : confirm.action ≠ 0) :
    Consensual confirm database
        (database.respondFriendRequest confirm.status confirm.requestId
          confirm.addressId) ↔
      Needless confirm .executed database := by
  have requests : (database.respondFriendRequest confirm.status
      confirm.requestId confirm.addressId).friendRequests =
        Database.setStatus database.friendRequests confirm.status
          confirm.reversed := rfl
  have equal := only_iff requests
  unfold Needless
  rw [if_pos rfl]
  constructor
  · intro consensual
    rcases equal.mp consensual.only with self | ⟨answered, reversed⟩
    · exact Or.inl ⟨other, self⟩
    · exact Or.inr ⟨answered, reversed, fun zero => absurd zero other⟩
  · intro needless
    constructor
    · exact fun zero => absurd zero other
    · rcases needless with ⟨-, self⟩ | ⟨answered, reversed, -⟩
      · exact equal.mpr (Or.inl self)
      · exact equal.mpr (Or.inr ⟨answered, reversed⟩)

namespace FriendSystem

variable {system : FriendSystem} {trace : List ConfirmReport}
  {seqs : List Int}

/-- Whenever a confirmation of a user is processed, it respects the consent of
the other one if and only if there is nothing left to be done. -/
theorem run_consensual_iff
    (run : Transition.AnyRun FriendSystem.step (start seqs) trace system) :
    ∀ confirm ended before next,
      .processed confirm ended before next ∈ trace →
        Answered trace confirm ∧
          (Consensual confirm before next ↔
            Needless confirm ended before) := by
  intro confirm ended before next member
  obtain ⟨answered, paired, attempts, cancelled, replied⟩ :=
    (coherent_of_run run).reported _ _ _ _ member
  refine ⟨answered, ?_⟩
  rcases FriendServicer.confirmFriend_success replied with
    ⟨zero, accepted⟩ | ⟨status, chosen, rfl, rfl⟩
  · exact consensual_accepted_iff zero paired accepted
  · have named : confirm.status = status ∧ confirm.action ≠ 0 := by
      rcases chosen with ⟨one, rfl⟩ | ⟨two, rfl⟩
      · simp [FriendConfirm.status, one]
      · simp [FriendConfirm.status, two]
    rw [← named.1]
    exact consensual_responded_iff named.2

/-- User 1 asks user 2, who accepts. -/
def asking : List FriendAction :=
  [.friendRequest 1 2 none true, .addFriend 0 .executed true] ++ accepting 7

theorem run_consensual_iff_asked :
    ∃ (trace : List ConfirmReport) (system : FriendSystem),
      (∀ confirm ended before next,
        .processed confirm ended before next ∈ trace →
          Answered trace confirm ∧
            (Consensual confirm before next ↔
              Needless confirm ended before)) ∧
      trace.length = 2 ∧
      system.database.friendRequests = [⟨1, 2, none, .pending⟩] := by
  have reached : ∃ (trace : List ConfirmReport) (system : FriendSystem),
      Transition.AnyRun FriendSystem.step (start [1, 2]) trace system ∧
      trace.length = 2 ∧
      system.database.friendRequests = [⟨1, 2, none, .pending⟩] := by
    apply Transition.Run.exists_both_of_exec asking
    decide +kernel
  obtain ⟨trace, system, run, facts⟩ := reached
  exact ⟨trace, system, run_consensual_iff run, facts⟩

/-- The event of user 2 accepting user 1 was processed, and the tables are not
those that it should have left. -/
def Unsettled : ConfirmReport → Bool
  | .processed confirm _ before next =>
      next.friendRequests ≠ Database.setStatus before.friendRequests
        confirm.status confirm.answered
  | .answered _ _ _ _ => false

/-- The request that was accepted stays pending. -/
theorem accepted_request_pending :
    ¬ ∀ (seqs : List Int) (trace : List ConfirmReport)
      (system : FriendSystem),
      Transition.AnyRun FriendSystem.step (start seqs) trace system →
      ∀ confirm ended before next,
        .processed confirm ended before next ∈ trace →
          Consensual confirm before next := by
  intro claimed
  have reached : ∃ (trace : List ConfirmReport) (system : FriendSystem),
      Transition.AnyRun FriendSystem.step (start [1, 2]) trace system ∧
      trace.any Unsettled = true := by
    apply Transition.Run.exists_both_of_exec asking
    decide +kernel
  obtain ⟨trace, system, run, some⟩ := reached
  obtain ⟨report, member, unsettled⟩ := List.any_eq_true.mp some
  cases report with
  | answered => cases unsettled
  | processed confirm ended before next =>
      have different := of_decide_eq_true unsettled
      exact different (claimed _ _ _ run _ _ _ _ member).only

end FriendSystem

end User

end TinyChat
