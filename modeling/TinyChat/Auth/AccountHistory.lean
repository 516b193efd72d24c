import TinyChat.Auth.Registration

/-!
# The table of accounts remembers its history

Every account holds what its last registration stored, and is confirmed if
and only if it was confirmed on the way.
-/

namespace TinyChat

namespace Auth

open Transition User

variable {libraries : Libraries} {trace events : List AccountEvent}
  {accounts after : Accounts}

theorem lastEntry_append (trace events : List AccountEvent)
    (email : String) :
    lastEntry (trace ++ events) email =
      (lastEntry events email).or (lastEntry trace email) := by
  simp [lastEntry, List.reverse_append, List.findSome?_append]

theorem lastEntry_registered (trace : List AccountEvent) (entry : Entry)
    (email : String) :
    lastEntry (trace ++ [.registered entry]) email =
      if entry.row.email = email then some entry
      else lastEntry trace email := by
  rw [lastEntry_append]
  by_cases same : entry.row.email = email
  · simp [lastEntry, same]
  · simp [lastEntry, same]

theorem lastEntry_mem {email : String} {entry : Entry}
    (last : lastEntry trace email = some entry) :
    .registered entry ∈ trace ∧ entry.row.email = email := by
  obtain ⟨event, member, found⟩ := List.exists_of_findSome?_eq_some last
  cases event with
  | registered other =>
      simp only at found
      split at found
      · rename_i same
        cases found
        exact ⟨List.mem_reverse.mp member, same⟩
      · cases found
  | issued issue => cases found
  | accepted server token seq time => cases found
  | confirmed seq => cases found
  | answered email password reply => cases found

/-- An event that says nothing about the table of accounts. -/
def AccountEvent.Quiet : AccountEvent → Prop
  | .registered _ => False
  | .confirmed _ => False
  | _ => True

theorem lastEntry_quiet (quiet : ∀ event ∈ events, event.Quiet)
    (email : String) :
    lastEntry (trace ++ events) email = lastEntry trace email := by
  have absent : lastEntry events email = none := by
    cases last : lastEntry events email with
    | none => rfl
    | some entry => exact (quiet _ (lastEntry_mem last).1).elim
  rw [lastEntry_append, absent]
  rfl

/-- The entry says what the row holds; only the confirmation is not part of
it. -/
structure Entry.Describes (libraries : Libraries) (entry : Entry)
    (row : AccountRow) : Prop where
  info : entry.row.info = row.info
  password : row.password =
    libraries.generatePasswordHash entry.password entry.salt

structure Remembers (libraries : Libraries) (trace : List AccountEvent)
    (accounts : Accounts) : Prop where
  wellFormed : accounts.WellFormed
  last : ∀ row ∈ accounts.users, ∃ entry,
    lastEntry trace row.email = some entry ∧ entry.Describes libraries row
  kept : ∀ entry, .registered entry ∈ trace →
    ∃ row ∈ accounts.users, row.email = entry.row.email ∧
      row.seq = entry.row.seq
  confirmed : ∀ row ∈ accounts.users,
    row.confirmed = true ↔ .confirmed row.seq ∈ trace
  known : ∀ seq, .confirmed seq ∈ trace →
    ∃ row ∈ accounts.users, row.seq = seq

namespace Remembers

theorem start (libraries : Libraries) : Remembers libraries [] {} where
  wellFormed := by
    constructor
    · exact List.nodup_nil
    · exact List.nodup_nil
    · exact List.nodup_nil
    · intro row member
      cases member
    · intro row member
      cases member
  last := by
    intro row member
    cases member
  kept := by
    intro entry member
    cases member
  confirmed := by
    intro row member
    cases member
  known := by
    intro seq member
    cases member

theorem quiet (remembers : Remembers libraries trace accounts)
    (wellFormed : after.WellFormed) (users : after.users = accounts.users)
    (quiet : ∀ event ∈ events, event.Quiet) :
    Remembers libraries (trace ++ events) after where
  wellFormed := wellFormed
  last := by
    intro row member
    rw [users] at member
    rw [lastEntry_quiet quiet]
    exact remembers.last row member
  kept := by
    intro entry member
    rw [users]
    rcases List.mem_append.mp member with member | member
    · exact remembers.kept entry member
    · exact (quiet _ member).elim
  confirmed := by
    intro row member
    rw [users] at member
    rw [remembers.confirmed row member, List.mem_append]
    constructor
    · exact .inl
    · rintro (member | member)
      · exact member
      · exact (quiet _ member).elim
  known := by
    intro seq member
    rw [users]
    rcases List.mem_append.mp member with member | member
    · exact remembers.known seq member
    · exact (quiet _ member).elim

/-- The history goes on with a registration that leaves the row `new` behind
and all other rows alone. -/
theorem registered (remembers : Remembers libraries trace accounts)
    {new : AccountRow} {entry : Entry} (wellFormed : after.WellFormed)
    (same : entry.row = new) (unconfirmed : new.confirmed = false)
    (describes : entry.Describes libraries new)
    (listed : new ∈ after.users)
    (fresh : .confirmed new.seq ∉ trace)
    (others : ∀ row ∈ after.users, row = new ∨
      row ∈ accounts.users ∧ row.email ≠ new.email)
    (stay : ∀ row ∈ accounts.users, ∃ now ∈ after.users,
      now.email = row.email ∧ now.seq = row.seq) :
    Remembers libraries (trace ++ [.registered entry]) after where
  wellFormed := wellFormed
  last := by
    intro row member
    rw [lastEntry_registered, same]
    rcases others row member with rfl | ⟨earlier, different⟩
    · exact ⟨entry, by simp, describes⟩
    · rw [if_neg (Ne.symm different)]
      exact remembers.last row earlier
  kept := by
    intro other member
    rcases List.mem_append.mp member with member | member
    · obtain ⟨row, present, email, seq⟩ := remembers.kept other member
      obtain ⟨now, stays, sameEmail, sameSeq⟩ := stay row present
      exact ⟨now, stays, sameEmail.trans email, sameSeq.trans seq⟩
    · cases List.mem_singleton.mp member
      exact ⟨new, listed, by rw [same], by rw [same]⟩
  confirmed := by
    intro row member
    have silent : AccountEvent.confirmed row.seq ∈
        trace ++ [.registered entry] ↔ .confirmed row.seq ∈ trace := by
      simp
    rw [silent]
    rcases others row member with rfl | ⟨earlier, _⟩
    · simp [unconfirmed, fresh]
    · exact remembers.confirmed row earlier
  known := by
    intro seq member
    have earlier : .confirmed seq ∈ trace := by
      simpa using member
    obtain ⟨row, present, number⟩ := remembers.known seq earlier
    obtain ⟨now, stays, _, sameSeq⟩ := stay row present
    exact ⟨now, stays, sameSeq.trans number⟩

/-- An account that is not confirmed was not confirmed before. -/
theorem unconfirmed (remembers : Remembers libraries trace accounts)
    {row : AccountRow} (member : row ∈ accounts.users)
    (unconfirmed : row.confirmed = false) :
    .confirmed row.seq ∉ trace := by
  intro earlier
  have settled := (remembers.confirmed row member).mpr earlier
  rw [unconfirmed] at settled
  cases settled

/-- What `register_user.sql` stores was not confirmed before. -/
theorem stored_fresh (remembers : Remembers libraries trace accounts)
    {hashPassword : String} {row : AccountRow}
    (registered : Accounts.Registered hashPassword accounts after
      (some row)) : .confirmed row.seq ∉ trace := by
  cases registered with
  | already member unconfirmed _ _ =>
      exact remembers.unconfirmed member unconfirmed
  | inserted _ _ _ above _ _ _ _ =>
      intro earlier
      obtain ⟨other, present, number⟩ := remembers.known _ earlier
      have below := remembers.wellFormed.issued other present
      omega
  | changed member unconfirmed _ =>
      have fresh := remembers.unconfirmed member unconfirmed
      exact fresh

theorem registerUser (remembers : Remembers libraries trace accounts)
    {stored : Option AccountRow} {password salt : String}
    (registered : Accounts.Registered
      (libraries.generatePasswordHash password salt) accounts after stored)
    (later : accounts.nextSeq ≤ after.nextSeq) :
    Remembers libraries
      (trace ++ stored.toList.map (fun row =>
        .registered ⟨password, salt, row⟩)) after := by
  have wellFormed := registered.wellFormed remembers.wellFormed later
  have fresh : ∀ row, stored = some row → .confirmed row.seq ∉ trace := by
    rintro row rfl
    exact remembers.stored_fresh registered
  cases registered with
  | nothing users =>
      apply remembers.quiet wellFormed users
      intro event member
      cases member
  | @already row member unconfirmed hash users =>
      have stays : row ∈ after.users := by
        rw [users]
        exact member
      apply remembers.registered wellFormed rfl unconfirmed ⟨rfl, hash⟩
        stays (fresh row rfl)
      · intro other listed
        rw [users] at listed
        by_cases same : other.email = row.email
        · exact .inl (remembers.wellFormed.email_eq listed member same)
        · exact .inr ⟨listed, same⟩
      · intro other listed
        rw [← users] at listed
        exact ⟨other, listed, rfl, rfl⟩
  | @inserted row _ emails _ _ _ unconfirmed hash users =>
      have listed : row ∈ after.users := by
        simp [users]
      apply remembers.registered wellFormed rfl unconfirmed ⟨rfl, hash⟩
        listed (fresh row rfl)
      · intro other member
        rw [users, List.mem_append, List.mem_singleton] at member
        rcases member with member | rfl
        · exact .inr ⟨member, emails other member⟩
        · exact .inl rfl
      · intro other member
        refine ⟨other, ?_, rfl, rfl⟩
        rw [users]
        exact List.mem_append_left _ member
  | @changed row username member unconfirmed users =>
      have listed : { row with
          password := libraries.generatePasswordHash password salt
          username } ∈ after.users := by
        rw [users]
        exact Rows.mem_update.mpr ⟨row, member, by simp⟩
      apply remembers.registered wellFormed rfl unconfirmed ⟨rfl, rfl⟩
        listed (fresh _ rfl)
      · intro other present
        rw [users] at present
        obtain ⟨old, earlier, rfl⟩ := Rows.mem_update.mp present
        by_cases same : old.seq = row.seq
        · have equal := remembers.wellFormed.row_eq earlier member same
          subst equal
          simp
        · have different : old.email ≠ row.email := by
            intro email
            rw [remembers.wellFormed.email_eq earlier member email] at same
            exact same rfl
          simp [same, earlier, different]
      · intro other present
        refine ⟨if other.seq = row.seq then { other with
          password := libraries.generatePasswordHash password salt
          username } else other, ?_, ?_, ?_⟩
        · rw [users]
          exact Rows.mem_update.mpr ⟨other, present, rfl⟩
        · split <;> rfl
        · split <;> rfl

theorem confirmed_row (remembers : Remembers libraries trace accounts)
    {row : AccountRow} (member : row ∈ accounts.users)
    (unconfirmed : row.confirmed = false) :
    Remembers libraries (trace ++ [.confirmed row.seq])
      (accounts.confirmUser row.seq) := by
  have same : ∀ old ∈ accounts.users, old.seq = row.seq → old = row :=
    fun old listed => remembers.wellFormed.row_eq listed member
  have stays : ∀ old ∈ accounts.users,
      ∃ now ∈ (accounts.confirmUser row.seq).users,
        now.email = old.email ∧ now.seq = old.seq := by
    intro old listed
    obtain ⟨now, present, becomes⟩ :=
      Accounts.confirmUser_grows accounts row.seq old listed
    exact ⟨now, present, becomes.email, becomes.seq⟩
  constructor
  · exact Accounts.confirmUser_wellFormed remembers.wellFormed row.seq
  · intro now present
    obtain ⟨old, listed, rfl⟩ := Rows.mem_update.mp present
    have email : (if old.seq = row.seq then Accounts.confirmed old
        else old).email = old.email := by
      split
      · exact (Accounts.confirmed_keeps old).2.1
      · rfl
    obtain ⟨entry, last, describes⟩ := remembers.last old listed
    refine ⟨entry, ?_, ?_⟩
    · rw [email, lastEntry_append]
      simpa [lastEntry] using last
    · constructor
      · rw [describes.info]
        unfold Accounts.confirmed
        split
        · split <;> rfl
        · rfl
      · rw [← describes.password]
        unfold Accounts.confirmed
        split
        · split <;> rfl
        · rfl
  · intro entry earlier
    have before : .registered entry ∈ trace := by
      simpa using earlier
    obtain ⟨old, listed, email, seq⟩ := remembers.kept entry before
    obtain ⟨now, present, sameEmail, sameSeq⟩ := stays old listed
    exact ⟨now, present, sameEmail.trans email, sameSeq.trans seq⟩
  · intro now present
    obtain ⟨old, listed, rfl⟩ := Rows.mem_update.mp present
    by_cases number : old.seq = row.seq
    · have equal := same old listed number
      subst equal
      simp [Accounts.confirmed, unconfirmed]
    · rw [if_neg number, remembers.confirmed old listed]
      simp [number]
  · intro seq earlier
    have before : .confirmed seq ∈ trace ∨ seq = row.seq := by
      simpa using earlier
    rcases before with before | rfl
    · obtain ⟨old, listed, number⟩ := remembers.known seq before
      obtain ⟨now, present, _, sameSeq⟩ := stays old listed
      exact ⟨now, present, sameSeq.trans number⟩
    · obtain ⟨now, present, _, sameSeq⟩ := stays row member
      exact ⟨now, present, sameSeq⟩

theorem confirmUser_eq (seq : Nat) (settled : ∀ row ∈ accounts.users,
    row.seq = seq → row.confirmed = true) :
    (accounts.confirmUser seq).users = accounts.users := by
  refine (List.map_congr_left ?_).trans (List.map_id accounts.users)
  intro row member
  split
  · rename_i number
    simp [Accounts.confirmed, settled row member number]
  · rfl

theorem confirmUser (remembers : Remembers libraries trace accounts)
    (seq : Nat) {ended : StatementEnd}
    (executed : Registration.executed ended = true) :
    Remembers libraries
      (trace ++ Registration.confirmedEvents seq ended accounts)
      (accounts.confirmUser seq) := by
  have silent : (∀ row ∈ accounts.users, row.seq = seq →
      row.confirmed = true) →
      Remembers libraries (trace ++ []) (accounts.confirmUser seq) := by
    intro settled
    apply remembers.quiet
      (Accounts.confirmUser_wellFormed remembers.wellFormed seq)
      (confirmUser_eq seq settled)
    intro event member
    cases member
  unfold Registration.confirmedEvents
  cases found : Rows.find AccountRow.seq accounts.users seq with
  | none =>
      apply silent
      intro row member number
      exact absurd number (Rows.find_eq_none_iff.mp found row member)
  | some row =>
      obtain ⟨member, rfl⟩ := Rows.mem_of_find found
      simp only [executed, true_and]
      cases settled : row.confirmed with
      | false =>
          exact remembers.confirmed_row member settled
      | true =>
          apply silent
          intro other listed number
          rw [remembers.wellFormed.row_eq listed member number]
          exact settled

end Remembers

end Auth

end TinyChat
