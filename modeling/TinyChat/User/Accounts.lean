import TinyChat.User.Confirmation

/-!
# Accounts

The statements of the user service on those columns of `users` that make an
account, and the handlers of `UserServicer` that execute them.
-/

namespace TinyChat

namespace User

structure AccountRow where
  seq : Nat
  uid : Nat
  email : String
  password : String
  username : String
  confirmed : Bool := false
  deriving DecidableEq

/-- The table and the next value of the sequence of its column `seq`. -/
structure Accounts where
  users : List AccountRow := []
  nextSeq : Nat := 1
  deriving DecidableEq

inductive RegisterError where
  | sequenceExhausted
  | textTooLong
  | uniqueViolation

def RegisterError.status : RegisterError → ExecutionStatus
  | .uniqueViolation => .infoDupEntry
  | .sequenceExhausted | .textTooLong => .failed

/-- The largest value of a `serial` column. -/
def maxSerial : Nat := 2147483647

/-- The value of a `varchar` column; only blanks may be cut off. -/
def assignVarchar (limit : Nat) (text : String) :
    Except RegisterError String :=
  if text.toList.length ≤ limit then .ok text
  else if (text.toList.drop limit).all (· = ' ') then
    .ok (String.ofList (text.toList.take limit))
  else .error .textTooLong

namespace Accounts

def find (accounts : Accounts) (email : String) : Option AccountRow :=
  Rows.find AccountRow.email accounts.users email

/-- What `register_user.sql` sets on a conflict. -/
def registeredAgain (password username : String) (row : AccountRow) :
    AccountRow :=
  { row with
    username := if username ≠ row.username then username else row.username
    password := if password ≠ row.password then password else row.password }

/-- `register_user.sql` for values that fit into their columns.  The row
that is returned comes from the insertion or, if that did nothing, from the
query for the email as it was given. -/
def insertUser (seq uid : Nat) (given email password username : String)
    (accounts : Accounts) :
    Except RegisterError (Option (Nat × Bool)) × Accounts :=
  match accounts.find email with
  | none =>
      if accounts.users.any (fun row => row.uid = uid) then
        (.error .uniqueViolation, accounts)
      else
        (.ok (some (seq, false)),
          { accounts with
            users := accounts.users ++
              [{ seq, uid, email, password, username }] })
  | some row =>
      if row.confirmed = false ∧
          (username ≠ row.username ∨ password ≠ row.password) then
        (.ok (some (row.seq, row.confirmed)),
          { accounts with
            users := Rows.update AccountRow.email accounts.users email
              (registeredAgain password username) })
      else
        (.ok ((accounts.find given).map
          (fun row => (row.seq, row.confirmed))), accounts)

/-- The values of the columns `email`, `password` and `username`. -/
def columns (email password username : String) :
    Except RegisterError (String × String × String) := do
  let email ← assignVarchar 30 email
  let password ← assignVarchar 128 password
  let username ← assignVarchar 20 username
  return (email, password, username)

/-- `register_user.sql`.  Every execution takes a value from the sequence,
which may have skipped some. -/
def registerUser (skipped uid : Nat) (email password username : String)
    (accounts : Accounts) :
    Except RegisterError (Option (Nat × Bool)) × Accounts :=
  let seq := accounts.nextSeq + skipped
  if maxSerial < seq then (.error .sequenceExhausted, accounts)
  else
    let advanced := { accounts with nextSeq := seq + 1 }
    match columns email password username with
    | .error failure => (.error failure, advanced)
    | .ok values =>
        advanced.insertUser seq uid email values.1 values.2.1 values.2.2

/-- What `confirm_user.sql` does to the row with the number. -/
def confirmed (row : AccountRow) : AccountRow :=
  if row.confirmed = false then { row with confirmed := true } else row

/-- `confirm_user.sql`. -/
def confirmUser (seq : Nat) (accounts : Accounts) : Accounts :=
  { accounts with
    users := Rows.update AccountRow.seq accounts.users seq confirmed }

end Accounts

inductive UserErrorCode where
  | incorrectEmail
  | incorrectPwd
  | notExists
  | alreadyExists
  | dbTimeout
  | unknownError
  deriving DecidableEq

structure UserDetailedInfo where
  seq : Nat
  uid : Nat
  username : String
  deriving DecidableEq

def AccountRow.info (row : AccountRow) : UserDetailedInfo where
  seq := row.seq
  uid := row.uid
  username := row.username

structure UserRegisterRequest where
  username : String
  email : String
  password : String
  deriving DecidableEq

inductive UserRegisterReply where
  | success (seq : Nat)
  | failure (code : UserErrorCode)
  deriving DecidableEq

inductive UserRegisterConfirmReply where
  | success
  | failure (code : UserErrorCode)
  deriving DecidableEq

/-- The reply of `UserLogin` and of `UserQuery`. -/
inductive UserReply where
  | success (user : UserDetailedInfo)
  | failure (code : UserErrorCode)
  deriving DecidableEq

/-- How a statement ends for the handler: there is no connection or too
little time, it fails and may have been executed all the same, or its result
arrives. -/
inductive StatementEnd where
  | unavailable
  | lost (trouble : Trouble) (executed : Bool)
  | answered
  deriving DecidableEq

/-- How one iteration of the loop of `UserRegister` ends. -/
inductive Iteration where
  | replied (reply : UserRegisterReply)
  | again
  | raised
  deriving DecidableEq

namespace UserServicer

/-- The code for a status other than success. -/
def errorCode (status : ExecutionStatus) : UserErrorCode :=
  if status = .timeoutHandling then .dbTimeout else .unknownError

/-- A duplicate is tried again. -/
def registerFailure (status : ExecutionStatus) : Iteration :=
  if status = .infoDupEntry then .again
  else .replied (.failure (errorCode status))

/-- The iteration for the result of the statement; without a row the handler
raises. -/
def registerResult :
    Except RegisterError (Option (Nat × Bool)) → Iteration
  | .error failure => registerFailure failure.status
  | .ok none => .raised
  | .ok (some (_, true)) => .replied (.failure .alreadyExists)
  | .ok (some (seq, false)) => .replied (.success seq)

/-- One iteration of `UserRegister` with the hash of the password. -/
def userRegister (request : UserRegisterRequest) (hashPassword : String)
    (skipped uid : Nat) (ended : StatementEnd) (accounts : Accounts) :
    Iteration × Accounts :=
  let result := accounts.registerUser skipped uid request.email hashPassword
    request.username
  match ended with
  | .unavailable => (.replied (.failure .dbTimeout), accounts)
  | .lost trouble executed =>
      (registerFailure trouble.status,
        if executed then result.2 else accounts)
  | .answered => (registerResult result.1, result.2)

def userRegisterConfirm (seq : Nat) (ended : StatementEnd)
    (accounts : Accounts) : UserRegisterConfirmReply × Accounts :=
  match ended with
  | .unavailable => (.failure .unknownError, accounts)
  | .lost trouble executed =>
      (.failure (errorCode trouble.status),
        if executed then accounts.confirmUser seq else accounts)
  | .answered => (.success, accounts.confirmUser seq)

def userLogin (checkPasswordHash : String → String → Bool)
    (email password : String) (ended : StatementEnd) (accounts : Accounts) :
    UserReply :=
  match ended with
  | .unavailable => .failure .dbTimeout
  | .lost trouble _ => .failure (errorCode trouble.status)
  | .answered =>
      match accounts.find email with
      | none => .failure .incorrectEmail
      | some row =>
          if row.confirmed then
            if checkPasswordHash row.password password then
              .success row.info
            else .failure .incorrectPwd
          else .failure .notExists

def userQuery (email : String) (ended : StatementEnd)
    (accounts : Accounts) : UserReply :=
  match ended with
  | .unavailable => .failure .unknownError
  | .lost trouble _ => .failure (errorCode trouble.status)
  | .answered =>
      match accounts.find email with
      | none => .failure .notExists
      | some row =>
          if row.confirmed then .success row.info
          else .failure .notExists

end UserServicer

namespace Accounts

/-- The account that an execution of `register_user.sql` leaves as a
registration that can be confirmed. -/
def stored (result : Except RegisterError (Option (Nat × Bool)) × Accounts) :
    Option AccountRow :=
  match result.1 with
  | .ok (some (seq, false)) => Rows.find AccountRow.seq result.2.users seq
  | _ => none

/-! ## What the statements keep -/

/-- No two accounts share a number, an email or an id, the emails fit into
their column, and the sequence is past all numbers. -/
structure WellFormed (accounts : Accounts) : Prop where
  numbers : Rows.Unique AccountRow.seq accounts.users
  emails : Rows.Unique AccountRow.email accounts.users
  uids : Rows.Unique AccountRow.uid accounts.users
  fitting : ∀ row ∈ accounts.users, row.email.toList.length ≤ 30
  issued : ∀ row ∈ accounts.users, row.seq < accounts.nextSeq

/-- What an execution of `register_user.sql` with a hash does to the table,
and the account that it stores. -/
inductive Registered (hashPassword : String) (before after : Accounts) :
    Option AccountRow → Prop where
  | nothing : after.users = before.users →
      Registered hashPassword before after none
  | already {row : AccountRow} : row ∈ before.users →
      row.confirmed = false → row.password = hashPassword →
      after.users = before.users →
      Registered hashPassword before after (some row)
  | inserted {row : AccountRow} : row.email.toList.length ≤ 30 →
      (∀ other ∈ before.users, other.email ≠ row.email) →
      (∀ other ∈ before.users, other.uid ≠ row.uid) →
      before.nextSeq ≤ row.seq → row.seq < after.nextSeq →
      row.confirmed = false → row.password = hashPassword →
      after.users = before.users ++ [row] →
      Registered hashPassword before after (some row)
  | changed {row : AccountRow} {username : String} : row ∈ before.users →
      row.confirmed = false →
      after.users = Rows.update AccountRow.seq before.users row.seq
        (fun old => { old with password := hashPassword, username }) →
      Registered hashPassword before after
        (some { row with password := hashPassword, username })

end Accounts

/-- An account stays what it is: its number, its id and its email are never
changed, and once confirmed nothing of it is. -/
structure AccountRow.Becomes (old new : AccountRow) : Prop where
  seq : new.seq = old.seq
  uid : new.uid = old.uid
  email : new.email = old.email
  settled : old.confirmed = true → new = old

theorem AccountRow.Becomes.refl (row : AccountRow) : row.Becomes row :=
  ⟨rfl, rfl, rfl, fun _ => rfl⟩

theorem AccountRow.Becomes.trans {first second third : AccountRow}
    (earlier : first.Becomes second) (later : second.Becomes third) :
    first.Becomes third where
  seq := later.seq.trans earlier.seq
  uid := later.uid.trans earlier.uid
  email := later.email.trans earlier.email
  settled := by
    intro confirmed
    have same : second = first := earlier.settled confirmed
    rw [same] at later
    exact later.settled confirmed

namespace Accounts

/-- Every account of the first table is still there in the second one. -/
def Grows (before after : Accounts) : Prop :=
  ∀ old ∈ before.users, ∃ new ∈ after.users, old.Becomes new

theorem Grows.refl (accounts : Accounts) : accounts.Grows accounts := by
  intro row member
  exact ⟨row, member, .refl row⟩

theorem Grows.trans {first second third : Accounts}
    (earlier : first.Grows second) (later : second.Grows third) :
    first.Grows third := by
  intro old member
  obtain ⟨between, listed, became⟩ := earlier old member
  obtain ⟨new, present, becomes⟩ := later between listed
  exact ⟨new, present, became.trans becomes⟩

variable {accounts : Accounts}

theorem registeredAgain_eq (password username : String)
    (row : AccountRow) :
    registeredAgain password username row =
      { row with password, username } := by
  have name : (if username ≠ row.username then username else row.username) =
      username := by
    by_cases same : username = row.username
    · simp [same]
    · simp [same]
  have secret :
      (if password ≠ row.password then password else row.password) =
        password := by
    by_cases same : password = row.password
    · simp [same]
    · simp [same]
  simp only [registeredAgain, name, secret]

theorem WellFormed.row_eq (wellFormed : accounts.WellFormed)
    {first second : AccountRow} (left : first ∈ accounts.users)
    (right : second ∈ accounts.users) (same : first.seq = second.seq) :
    first = second :=
  List.inj_on_of_nodup_map wellFormed.numbers left right same

theorem WellFormed.email_eq (wellFormed : accounts.WellFormed)
    {first second : AccountRow} (left : first ∈ accounts.users)
    (right : second ∈ accounts.users) (same : first.email = second.email) :
    first = second :=
  List.inj_on_of_nodup_map wellFormed.emails left right same

theorem WellFormed.findSeq_eq (wellFormed : accounts.WellFormed)
    {row : AccountRow} (member : row ∈ accounts.users) :
    Rows.find AccountRow.seq accounts.users row.seq = some row := by
  cases found : Rows.find AccountRow.seq accounts.users row.seq with
  | none =>
      exact absurd rfl (Rows.find_eq_none_iff.mp found row member)
  | some other =>
      obtain ⟨listed, same⟩ := Rows.mem_of_find found
      rw [wellFormed.row_eq listed member same]

/-- The conflict is on the email, but the row can be changed by its number
as well. -/
theorem WellFormed.update_eq (wellFormed : accounts.WellFormed)
    {row : AccountRow} (member : row ∈ accounts.users)
    (change : AccountRow → AccountRow) :
    Rows.update AccountRow.email accounts.users row.email change =
      Rows.update AccountRow.seq accounts.users row.seq change := by
  apply List.map_congr_left
  intro other listed
  have both : other.email = row.email ↔ other.seq = row.seq := by
    constructor
    · intro same
      rw [wellFormed.email_eq listed member same]
    · intro same
      rw [wellFormed.row_eq listed member same]
  simp only [both]

theorem assignVarchar_eq {limit : Nat} {text value : String}
    (assigned : assignVarchar limit text = .ok value) :
    value.toList.length ≤ limit ∧
      (value = text ∨ limit < text.toList.length) := by
  unfold assignVarchar at assigned
  split at assigned
  · rename_i fits
    cases assigned
    exact ⟨fits, .inl rfl⟩
  · rename_i long
    split at assigned
    · cases assigned
      refine ⟨?_, .inr (Nat.lt_of_not_le long)⟩
      simp [List.length_take]
    · cases assigned

theorem columns_eq {email password username : String}
    {values : String × String × String}
    (assigned : columns email password username = .ok values) :
    assignVarchar 30 email = .ok values.1 ∧
      assignVarchar 128 password = .ok values.2.1 ∧
      assignVarchar 20 username = .ok values.2.2 := by
  unfold columns at assigned
  cases first : assignVarchar 30 email with
  | error failure => simp [first, bind, Except.bind] at assigned
  | ok address =>
      cases second : assignVarchar 128 password with
      | error failure =>
          simp [first, second, bind, Except.bind] at assigned
      | ok secret =>
          cases third : assignVarchar 20 username with
          | error failure =>
              simp [first, second, third, bind, Except.bind] at assigned
          | ok name =>
              simp only [first, second, third, bind, Except.bind, pure,
                Except.pure, Except.ok.injEq] at assigned
              subst assigned
              exact ⟨rfl, rfl, rfl⟩

theorem insertUser_registered {seq : Nat} (uid : Nat)
    {given email : String} (password username : String)
    (wellFormed : accounts.WellFormed) (fits : email.toList.length ≤ 30)
    (start : Nat) (later : start ≤ seq) (below : seq < accounts.nextSeq)
    (fresh : ∀ row ∈ accounts.users, row.seq < start)
    (source : email = given ∨ 30 < given.toList.length) :
    let result := accounts.insertUser seq uid given email password username
    Registered password { accounts with nextSeq := start } result.2
      (stored result) ∧ result.2.nextSeq = accounts.nextSeq := by
  unfold insertUser
  cases found : accounts.find email with
  | none =>
      have absent := Rows.find_eq_none_iff.mp found
      simp only
      split
      · exact ⟨.nothing rfl, rfl⟩
      · rename_i unused
        have distinct : ∀ row ∈ accounts.users, row.uid ≠ uid := by
          simpa using unused
        refine ⟨?_, rfl⟩
        have last : stored (.ok (some (seq, false)), { accounts with
            users := accounts.users ++
              [{ seq, uid, email, password, username }] }) =
            some { seq, uid, email, password, username } := by
          have earlier : Rows.find AccountRow.seq accounts.users seq =
              none := by
            apply Rows.find_eq_none_iff.mpr
            intro row member
            exact Nat.ne_of_lt (Nat.lt_of_lt_of_le (fresh row member) later)
          simp only [Rows.find] at earlier
          simp [stored, Rows.find, List.find?_append, earlier]
        rw [last]
        exact .inserted fits absent distinct later below rfl rfl rfl
  | some row =>
      obtain ⟨member, same⟩ := Rows.mem_of_find found
      subst same
      simp only
      split
      · rename_i changes
        refine ⟨?_, rfl⟩
        rw [wellFormed.update_eq member]
        have contents : registeredAgain password username =
            fun old => { old with password, username } := by
          funext old
          exact registeredAgain_eq password username old
        have last : stored (.ok (some (row.seq, row.confirmed)),
            { accounts with
              users := Rows.update AccountRow.seq accounts.users row.seq
                (registeredAgain password username) }) =
            some { row with password, username } := by
          have present := wellFormed.findSeq_eq member
          have moved : Rows.find AccountRow.seq
              (Rows.update AccountRow.seq accounts.users row.seq
                (fun old => { old with password, username })) row.seq =
              some { row with password, username } := by
            refine (Rows.find_update ?_).trans ?_
            · intro old
              rfl
            · rw [present]
              rfl
          simp only [stored, changes.1, contents]
          rw [moved, changes.1]
        rw [last, contents]
        exact .changed member changes.1 rfl
      · rename_i settled
        refine ⟨?_, rfl⟩
        rcases source with rfl | long
        · have present := wellFormed.findSeq_eq member
          cases confirmed : row.confirmed with
          | true =>
              simp only [found, Option.map_some, confirmed, stored]
              exact .nothing rfl
          | false =>
              simp only [found, Option.map_some, confirmed, stored, present]
              refine .already member confirmed ?_ rfl
              by_contra different
              exact settled ⟨confirmed, .inr (Ne.symm different)⟩
        · have absent : accounts.find given = none := by
            apply Rows.find_eq_none_iff.mpr
            intro other listed equal
            have short := wellFormed.fitting other listed
            rw [equal] at short
            omega
          simp only [absent, Option.map_none, stored]
          exact .nothing rfl

theorem registerUser_registered (skipped uid : Nat) {password : String}
    (email username : String) (wellFormed : accounts.WellFormed)
    (fits : password.toList.length ≤ 128) :
    let result := accounts.registerUser skipped uid email password username
    Registered password accounts result.2 (stored result) ∧
      accounts.nextSeq ≤ result.2.nextSeq := by
  unfold registerUser
  simp only
  split
  · exact ⟨.nothing rfl, Nat.le_refl _⟩
  · cases assigned : columns email password username with
    | error failure =>
        exact ⟨.nothing rfl, by simp only; omega⟩
    | ok values =>
        obtain ⟨address, secret, name⟩ := columns_eq assigned
        obtain ⟨short, source⟩ := assignVarchar_eq address
        have same : values.2.1 = password := by
          rcases (assignVarchar_eq secret).2 with same | long
          · exact same
          · omega
        have advanced : WellFormed { accounts with
            nextSeq := accounts.nextSeq + skipped + 1 } :=
          { wellFormed with
            issued := by
              intro row member
              have before := wellFormed.issued row member
              simp only
              omega }
        obtain ⟨registered, next⟩ := insertUser_registered uid
          values.2.1 values.2.2 advanced short
          accounts.nextSeq (Nat.le_add_right _ skipped)
          (Nat.lt_succ_self _) wellFormed.issued source
        rw [same] at registered next
        simp only [same]
        refine ⟨registered, ?_⟩
        rw [next]
        simp only
        omega

theorem insertUser_present {seq uid number : Nat} {settled : Bool}
    {given email password username : String}
    (returned : (accounts.insertUser seq uid given email password
      username).1 = .ok (some (number, settled))) :
    ∃ row ∈ (accounts.insertUser seq uid given email password
      username).2.users, row.seq = number := by
  unfold insertUser at returned ⊢
  cases found : accounts.find email with
  | none =>
      simp only [found] at returned ⊢
      split at returned
      · cases returned
      · rename_i unused
        cases returned
        simp [unused]
  | some row =>
      obtain ⟨member, same⟩ := Rows.mem_of_find found
      simp only [found] at returned ⊢
      split at returned
      · rename_i changes
        cases returned
        simp only [changes, and_self, if_true]
        refine ⟨_, Rows.mem_update.mpr ⟨row, member, rfl⟩, ?_⟩
        simp [same, registeredAgain]
      · rename_i settled
        simp only [if_neg settled]
        cases again : accounts.find given with
        | none =>
            rw [again] at returned
            cases returned
        | some other =>
            rw [again] at returned
            cases returned
            exact ⟨other, (Rows.mem_of_find again).1, rfl⟩

theorem stored_of_returned {skipped uid number : Nat}
    {email password username : String}
    (returned : (accounts.registerUser skipped uid email password
      username).1 = .ok (some (number, false))) :
    ∃ row, stored (accounts.registerUser skipped uid email password
      username) = some row ∧ row.seq = number := by
  have present : ∃ row ∈ (accounts.registerUser skipped uid email password
      username).2.users, row.seq = number := by
    unfold registerUser at returned ⊢
    simp only at returned ⊢
    split at returned
    · cases returned
    · rename_i within
      rw [if_neg within]
      cases assigned : columns email password username with
      | error failure =>
          rw [assigned] at returned
          cases returned
      | ok values =>
          rw [assigned] at returned
          exact insertUser_present returned
  obtain ⟨row, member, same⟩ := present
  simp only [stored, returned]
  cases found : Rows.find AccountRow.seq (accounts.registerUser skipped uid
      email password username).2.users number with
  | none => exact absurd same (Rows.find_eq_none_iff.mp found row member)
  | some other => exact ⟨other, rfl, (Rows.mem_of_find found).2⟩

theorem WellFormed.update (wellFormed : accounts.WellFormed)
    {after : Accounts} {seq : Nat} {change : AccountRow → AccountRow}
    (keeps : ∀ row, (change row).seq = row.seq ∧
      (change row).email = row.email ∧ (change row).uid = row.uid)
    (later : accounts.nextSeq ≤ after.nextSeq)
    (users : after.users =
      Rows.update AccountRow.seq accounts.users seq change) :
    after.WellFormed where
  numbers := by
    rw [users]
    exact wellFormed.numbers.update (fun row => (keeps row).1)
  emails := by
    rw [users, Rows.Unique, Rows.map_update (fun row => (keeps row).2.1)]
    exact wellFormed.emails
  uids := by
    rw [users, Rows.Unique, Rows.map_update (fun row => (keeps row).2.2)]
    exact wellFormed.uids
  fitting := by
    intro row member
    rw [users] at member
    obtain ⟨old, listed, rfl⟩ := Rows.mem_update.mp member
    split
    · rw [(keeps old).2.1]
      exact wellFormed.fitting old listed
    · exact wellFormed.fitting old listed
  issued := by
    intro row member
    rw [users] at member
    obtain ⟨old, listed, rfl⟩ := Rows.mem_update.mp member
    have before := wellFormed.issued old listed
    split
    · rw [(keeps old).1]
      omega
    · omega

theorem WellFormed.same (wellFormed : accounts.WellFormed)
    {after : Accounts} (later : accounts.nextSeq ≤ after.nextSeq)
    (users : after.users = accounts.users) : after.WellFormed where
  numbers := by
    rw [users]
    exact wellFormed.numbers
  emails := by
    rw [users]
    exact wellFormed.emails
  uids := by
    rw [users]
    exact wellFormed.uids
  fitting := by
    rw [users]
    exact wellFormed.fitting
  issued := by
    intro row member
    rw [users] at member
    exact Nat.lt_of_lt_of_le (wellFormed.issued row member) later

theorem Registered.wellFormed {hashPassword : String}
    {before after : Accounts} {row : Option AccountRow}
    (registered : Registered hashPassword before after row)
    (wellFormed : before.WellFormed)
    (later : before.nextSeq ≤ after.nextSeq) : after.WellFormed := by
  cases registered with
  | nothing users => exact wellFormed.same later users
  | already _ _ _ users => exact wellFormed.same later users
  | @inserted row short email uid fresh below _ _ users =>
      have seq : ∀ other ∈ before.users, other.seq ≠ row.seq := by
        intro other member
        exact Nat.ne_of_lt
          (Nat.lt_of_lt_of_le (wellFormed.issued other member) fresh)
      constructor
      · rw [users]
        exact wellFormed.numbers.append (Rows.find_eq_none_iff.mpr seq)
      · rw [users]
        exact wellFormed.emails.append (Rows.find_eq_none_iff.mpr email)
      · rw [users]
        exact wellFormed.uids.append (Rows.find_eq_none_iff.mpr uid)
      · intro other member
        rw [users, List.mem_append, List.mem_singleton] at member
        rcases member with member | rfl
        · exact wellFormed.fitting other member
        · exact short
      · intro other member
        rw [users, List.mem_append, List.mem_singleton] at member
        rcases member with member | rfl
        · exact Nat.lt_of_lt_of_le (wellFormed.issued other member) later
        · exact below
  | changed _ _ users =>
      refine wellFormed.update ?_ later users
      intro row
      exact ⟨rfl, rfl, rfl⟩

theorem confirmed_keeps (row : AccountRow) :
    (confirmed row).seq = row.seq ∧ (confirmed row).email = row.email ∧
      (confirmed row).uid = row.uid := by
  unfold confirmed
  split
  · exact ⟨rfl, rfl, rfl⟩
  · exact ⟨rfl, rfl, rfl⟩

theorem confirmUser_wellFormed (wellFormed : accounts.WellFormed)
    (seq : Nat) : (accounts.confirmUser seq).WellFormed :=
  wellFormed.update confirmed_keeps (Nat.le_refl _) rfl

theorem grows_of_update {after : Accounts} {seq : Nat}
    {change : AccountRow → AccountRow}
    (users : after.users =
      Rows.update AccountRow.seq accounts.users seq change)
    (becomes : ∀ row ∈ accounts.users, row.seq = seq →
      row.Becomes (change row)) : accounts.Grows after := by
  intro old member
  refine ⟨if old.seq = seq then change old else old, ?_, ?_⟩
  · rw [users]
    exact Rows.mem_update.mpr ⟨old, member, rfl⟩
  · split
    · rename_i same
      exact becomes old member same
    · exact .refl old

theorem Registered.grows {hashPassword : String} {before after : Accounts}
    {row : Option AccountRow}
    (registered : Registered hashPassword before after row)
    (wellFormed : before.WellFormed) : before.Grows after := by
  have unchanged : after.users = before.users → before.Grows after := by
    intro users old member
    exact ⟨old, by rw [users]; exact member, .refl old⟩
  cases registered with
  | nothing users => exact unchanged users
  | already _ _ _ users => exact unchanged users
  | inserted _ _ _ _ _ _ _ users =>
      intro old member
      refine ⟨old, ?_, .refl old⟩
      rw [users]
      exact List.mem_append_left _ member
  | @changed row _ member unconfirmed users =>
      apply grows_of_update users
      intro old listed same
      have equal : old = row := wellFormed.row_eq listed member same
      refine ⟨rfl, rfl, rfl, ?_⟩
      intro settled
      rw [equal, unconfirmed] at settled
      cases settled

theorem confirmUser_grows (accounts : Accounts) (seq : Nat) :
    accounts.Grows (accounts.confirmUser seq) := by
  apply grows_of_update rfl
  intro row _ _
  obtain ⟨seq, email, uid⟩ := confirmed_keeps row
  refine ⟨seq, uid, email, ?_⟩
  intro settled
  simp [confirmed, settled]

end Accounts

end User

end TinyChat
