import TinyChat.Auth.AccountRuns

/-!
# The routes of users

What the routes `register`, `confirm` and `login` answer, through the calls
of `AuthService` and `UserService`.  A handler that raises or is cancelled
answers nothing, which its caller sees as a failed call.
-/

namespace TinyChat

namespace Auth

open Transition User

inductive AuthFailedDetailedInfo where
  | incorrectEmail
  | incorrectPwd
  | incorrectConfirmation
  | notExists
  | alreadyExists
  | unknownError
  deriving DecidableEq

/-- `DETAILED_INFO_MAP`, in which the timeout has the number of another
enumeration. -/
def detailedInfo : UserErrorCode → AuthFailedDetailedInfo
  | .incorrectEmail => .incorrectEmail
  | .incorrectPwd => .incorrectPwd
  | .alreadyExists => .alreadyExists
  | .notExists => .notExists
  | .dbTimeout => .notExists
  | .unknownError => .unknownError

/-- The result of a call, `CallResult`. -/
inductive CallResult (α : Type) where
  | success (data : α)
  | timeout
  | failed
  deriving DecidableEq

/-- How a call goes on its way. -/
inductive Transport where
  | answered
  | timedOut
  | failed
  deriving DecidableEq

/-- What the caller sees of the reply of a handler. -/
def Transport.carry {α : Type} (transport : Transport) :
    Option α → CallResult α
  | none =>
      match transport with
      | .timedOut => .timeout
      | .answered | .failed => .failed
  | some reply =>
      match transport with
      | .answered => .success reply
      | .timedOut => .timeout
      | .failed => .failed

@[simp] theorem Transport.carry_timedOut {α : Type} (reply : Option α) :
    Transport.timedOut.carry reply = .timeout := by
  cases reply <;> rfl

@[simp] theorem Transport.carry_failed {α : Type} (reply : Option α) :
    Transport.failed.carry reply = .failed := by
  cases reply <;> rfl

/-- A reply of `AuthService` with what belongs to its success. -/
inductive AuthReply (α : Type) where
  | success (data : α)
  | failed (info : Option AuthFailedDetailedInfo)
  | expired (info : AuthFailedDetailedInfo)
  | timeout
  deriving DecidableEq

structure Login where
  user : UserDetailedInfo
  accessToken : String
  refreshToken : String
  deriving DecidableEq

namespace AuthService

/-- The reply for a code of the user service. -/
def codeReply {α : Type} (code : UserErrorCode) : AuthReply α :=
  if code = .dbTimeout then .timeout else .failed (some (detailedInfo code))

/-- `AuthLogin` after its call, with the tokens that were stored. -/
def authLogin (called : CallResult UserReply)
    (tokens : Option (String × String)) : AuthReply Login :=
  match called with
  | .success (.success user) =>
      match tokens with
      | some (accessToken, refreshToken) =>
          .success { user, accessToken, refreshToken }
      | none => .timeout
  | .success (.failure code) => codeReply code
  | .timeout => .timeout
  | .failed => .failed (some .unknownError)

/-- `AuthRegister` after its call. -/
def authRegister (libraries : Libraries) (server stamp : Nat) (now : Int)
    (called : CallResult UserRegisterReply) : AuthReply String :=
  match called with
  | .success (.success seq) =>
      .success (libraries.dumps server stamp
        (libraries.confirmInfo server now seq))
  | .success (.failure code) => codeReply code
  | .timeout => .timeout
  | .failed => .failed (some .unknownError)

/-- The end of `AuthRegisterConfirm` without a call; an exception that it
does not catch is no reply. -/
def confirmationRefused : ConfirmCheck → Option (AuthReply Unit)
  | .failed => some (.failed none)
  | .expired => some (.expired .incorrectConfirmation)
  | .raised | .call _ => none

/-- `AuthRegisterConfirm` after its call. -/
def authRegisterConfirm (called : CallResult UserRegisterConfirmReply) :
    AuthReply Unit :=
  match called with
  | .success .success => .success ()
  | .success (.failure .dbTimeout) => .timeout
  | .success (.failure _) => .failed none
  | .timeout => .timeout
  | .failed => .failed (some .unknownError)

end AuthService

/-- The responses of the routes: `login` carries the tokens in its headers
and answers 401 with a code, `confirm` answers with a text. -/
inductive UserResponse where
  | status (code : Nat)
  | loggedIn (login : Login)
  | unauthorized (errCode : Nat)
  | text (content : String) (code : Nat)
  deriving DecidableEq

namespace Gateway

/-- The route `login`, with the result of its call if the service is known. -/
def login : Option (CallResult (AuthReply Login)) → UserResponse
  | none => .status 500
  | some (.success (.success data)) => .loggedIn data
  | some (.success .timeout) => .status 504
  | some (.success (.failed (some .incorrectEmail))) => .unauthorized 0
  | some (.success (.failed (some .incorrectPwd))) => .unauthorized 1
  | some (.success (.failed (some .notExists))) => .status 202
  | some (.success (.failed none)) => .unauthorized 0
  | some (.success (.failed (some _))) => .status 503
  | some (.success (.expired .incorrectEmail)) => .unauthorized 0
  | some (.success (.expired .incorrectPwd)) => .unauthorized 1
  | some (.success (.expired .notExists)) => .status 202
  | some (.success (.expired _)) => .status 503
  | some .timeout => .status 504
  | some .failed => .status 400

/-- The route `register`: the response, and the token that is sent to the
email. -/
def register (validAppid : Bool)
    (called : Option (CallResult (AuthReply String))) :
    UserResponse × Option String :=
  if validAppid = false then (.text "Invalid Request" 400, none)
  else
    match called with
    | none => (.status 500, none)
    | some (.success (.success token)) => (.status 200, some token)
    | some (.success .timeout) => (.status 504, none)
    | some (.success (.failed (some .alreadyExists))) => (.status 202, none)
    | some (.success (.failed _)) => (.status 502, none)
    | some (.success (.expired .alreadyExists)) => (.status 202, none)
    | some (.success (.expired _)) => (.status 502, none)
    | some .timeout => (.status 504, none)
    | some .failed => (.status 400, none)

/-- The route `confirm`. -/
def confirm : Option (CallResult (AuthReply Unit)) → UserResponse
  | none => .status 500
  | some (.success (.success ())) => .text "Confirmed Successfully" 200
  | some (.success (.expired _)) =>
      .text "Sorry, this activate link has expired." 200
  | some (.success .timeout) =>
      .text "Sorry, timeout, please try it again" 504
  | some (.success (.failed _)) =>
      .text "Sorry, something wrong, please try it later" 503
  | some .timeout => .status 504
  | some .failed => .status 400

end Gateway

/-- How the calls of a login go: whether the services are known, how the
calls of them and the statement end, and the tokens if they are stored. -/
structure LoginCalls where
  authService : Bool
  auth : Transport
  userService : Bool
  user : Transport
  statement : StatementEnd
  tokens : Option (String × String)
  deriving DecidableEq

/-- Nothing fails on the way to the accounts and back. -/
def LoginCalls.Reaching (calls : LoginCalls) : Prop :=
  calls.authService = true ∧ calls.auth = .answered ∧
    calls.userService = true ∧ calls.user = .answered ∧
    calls.statement = .answered

/-- The whole way of a login. -/
def LoginCalls.response (calls : LoginCalls) (libraries : Libraries)
    (email password : String) (accounts : Accounts) : UserResponse :=
  let reply := UserServicer.userLogin libraries.checkPasswordHash email
    password calls.statement accounts
  let answered : Option (AuthReply Login) :=
    if calls.userService then
      some (AuthService.authLogin (calls.user.carry (some reply))
        calls.tokens)
    else none
  Gateway.login (if calls.authService then
    some (calls.auth.carry answered) else none)

namespace LoginCalls

variable {libraries : Libraries} {trace : List AccountEvent}
  {registration : Registration} {calls : LoginCalls}

theorem response_reaching (reaching : calls.Reaching)
    (email password : String) (accounts : Accounts) :
    calls.response libraries email password accounts =
      Gateway.login (some (.success (AuthService.authLogin
        (.success (UserServicer.userLogin libraries.checkPasswordHash email
          password .answered accounts)) calls.tokens))) := by
  obtain ⟨authService, auth, userService, user, statement⟩ := reaching
  simp [response, authService, auth, userService, user, statement,
    Transport.carry]

/-- Whatever fails, the response is the status of a failure. -/
theorem response_failing (failing : ¬ calls.Reaching)
    (email password : String) (accounts : Accounts) :
    ∃ code, calls.response libraries email password accounts =
      .status code ∧ code ≠ 202 := by
  obtain ⟨authService, auth, userService, user, statement, tokens⟩ := calls
  cases authService with
  | false => exact ⟨500, rfl, by decide⟩
  | true =>
      cases auth with
      | timedOut =>
          cases userService with
          | false => exact ⟨504, rfl, by decide⟩
          | true => exact ⟨504, rfl, by decide⟩
      | failed =>
          cases userService with
          | false => exact ⟨400, rfl, by decide⟩
          | true => exact ⟨400, rfl, by decide⟩
      | answered =>
          cases userService with
          | false => exact ⟨400, rfl, by decide⟩
          | true =>
              cases user with
              | timedOut => exact ⟨504, rfl, by decide⟩
              | failed => exact ⟨503, rfl, by decide⟩
              | answered =>
                  cases statement with
                  | unavailable => exact ⟨504, rfl, by decide⟩
                  | lost trouble executed =>
                      cases trouble with
                      | timedOut => exact ⟨504, rfl, by decide⟩
                      | disconnected => exact ⟨503, rfl, by decide⟩
                      | other => exact ⟨503, rfl, by decide⟩
                  | answered =>
                      exact absurd ⟨rfl, rfl, rfl, rfl, rfl⟩ failing

theorem expectedLogin_cases (libraries : Libraries)
    (trace : List AccountEvent) (email password : String) :
    (∃ user, expectedLogin libraries trace email password =
      .success user) ∨
    expectedLogin libraries trace email password =
      .failure .incorrectEmail ∨
    expectedLogin libraries trace email password = .failure .incorrectPwd ∨
    expectedLogin libraries trace email password = .failure .notExists := by
  unfold expectedLogin
  split
  · exact .inr (.inl rfl)
  · split
    · split
      · exact .inl ⟨_, rfl⟩
      · exact .inr (.inr (.inl rfl))
    · exact .inr (.inr (.inr rfl))

end LoginCalls

/-- What the route `login` answers says how the accounts came to be: the
tokens, if the last registration was confirmed and had the password; 401, if
the email was never registered or the password is another one; and 202, if
the registration was not confirmed.  Whatever fails has another status. -/
theorem login_route_answers {libraries : Libraries}
    {trace : List AccountEvent} {registration : Registration}
    (run : AnyRun (Registration.step libraries) {} trace registration)
    (calls : LoginCalls) (email password : String) :
    let response := calls.response libraries email password
      registration.accounts
    let expected := expectedLogin libraries trace email password
    (∀ data, response = .loggedIn data ↔
      calls.Reaching ∧ expected = .success data.user ∧
        calls.tokens = some (data.accessToken, data.refreshToken)) ∧
    (response = .unauthorized 0 ↔
      calls.Reaching ∧ expected = .failure .incorrectEmail) ∧
    (response = .unauthorized 1 ↔
      calls.Reaching ∧ expected = .failure .incorrectPwd) ∧
    (response = .status 202 ↔
      calls.Reaching ∧ expected = .failure .notExists) := by
  intro response expected
  by_cases reaching : calls.Reaching
  · have answer : response = Gateway.login (some (.success
        (AuthService.authLogin (.success expected) calls.tokens))) := by
      rw [← show UserServicer.userLogin libraries.checkPasswordHash email
        password .answered registration.accounts = expected from
          (Registration.run_remembers run).userLogin_eq email password]
      exact LoginCalls.response_reaching reaching email password _
    rw [answer]
    simp only [reaching, true_and]
    rcases LoginCalls.expectedLogin_cases libraries trace email password with
      ⟨user, equal⟩ | equal | equal | equal
    · rw [show expected = _ from equal]
      cases tokens : calls.tokens with
      | none => simp [AuthService.authLogin, Gateway.login]
      | some pair =>
          refine ⟨?_, ?_, ?_, ?_⟩
          · intro data
            obtain ⟨user', accessToken, refreshToken⟩ := data
            simp only [AuthService.authLogin, Gateway.login,
              UserResponse.loggedIn.injEq, Login.mk.injEq,
              UserReply.success.injEq, Option.some.injEq, Prod.ext_iff]
          · simp [AuthService.authLogin, Gateway.login]
          · simp [AuthService.authLogin, Gateway.login]
          · simp [AuthService.authLogin, Gateway.login]
    · rw [show expected = _ from equal]
      simp [AuthService.authLogin, AuthService.codeReply, detailedInfo,
        Gateway.login]
    · rw [show expected = _ from equal]
      simp [AuthService.authLogin, AuthService.codeReply, detailedInfo,
        Gateway.login]
    · rw [show expected = _ from equal]
      simp [AuthService.authLogin, AuthService.codeReply, detailedInfo,
        Gateway.login]
  · obtain ⟨code, failure, different⟩ :=
      LoginCalls.response_failing reaching email password
        registration.accounts
    rw [show response = _ from failure]
    simp [reaching, different]

/-- The last password logs in, with the tokens in the response. -/
theorem login_route_answers_tokens :
    ∃ (registration : Registration),
      LoginCalls.response ⟨true, .answered, true, .answered, .answered,
        some ("access", "refresh")⟩ sampleLibraries "a@b" "two"
          registration.accounts =
        .loggedIn ⟨⟨1, 7, "bob"⟩, "access", "refresh"⟩ := by
  obtain ⟨trace, registration, run, success⟩ :
      ∃ (trace : List AccountEvent) (registration : Registration),
        AnyRun (Registration.step sampleLibraries) {} trace registration ∧
        expectedLogin sampleLibraries trace "a@b" "two" =
          .success ⟨1, 7, "bob"⟩ := by
    apply Run.exists_both_of_exec (sampleActions ++ sampleConfirmation)
    decide +kernel
  refine ⟨registration, ?_⟩
  apply ((login_route_answers run _ "a@b" "two").1 _).mpr
  exact ⟨⟨rfl, rfl, rfl, rfl, rfl⟩, success, rfl⟩

/-! ## Registration -/

/-- How the calls of a registration go: whether the id of the application is
valid and the services are known, how the calls of them and the last execution
of the statement end, the values that the statement draws, and what the token
is signed with. -/
structure RegisterCalls where
  validAppid : Bool
  authService : Bool
  auth : Transport
  userService : Bool
  user : Transport
  statement : StatementEnd
  skipped : Nat
  uid : Nat
  server : Nat
  stamp : Nat
  time : Int
  deriving DecidableEq

namespace RegisterCalls

/-- Nothing fails on the way to the accounts and back. -/
def Reaching (calls : RegisterCalls) : Prop :=
  calls.validAppid = true ∧ calls.authService = true ∧
    calls.auth = .answered ∧ calls.userService = true ∧
    calls.user = .answered ∧ calls.statement = .answered

/-- The last iteration of the loop of `UserRegister`. -/
def iteration (calls : RegisterCalls) (libraries : Libraries)
    (handler : Registering) (accounts : Accounts) : Iteration × Accounts :=
  UserServicer.userRegister handler.request
    (Registration.hashPassword libraries handler) calls.skipped calls.uid
    calls.statement accounts

/-- The token for the number of an account. -/
def token (calls : RegisterCalls) (libraries : Libraries) (seq : Nat) :
    String :=
  libraries.dumps calls.server calls.stamp
    (libraries.confirmInfo calls.server calls.time seq)

/-- The whole way of a registration.  A handler that leaves its loop without
a reply was cancelled. -/
def response (calls : RegisterCalls) (libraries : Libraries)
    (handler : Registering) (accounts : Accounts) :
    UserResponse × Option String :=
  let reply : Option UserRegisterReply :=
    match (calls.iteration libraries handler accounts).1 with
    | .replied reply => some reply
    | .again | .raised => none
  let answered : Option (AuthReply String) :=
    if calls.userService then
      some (AuthService.authRegister libraries calls.server calls.stamp
        calls.time (calls.user.carry reply))
    else none
  Gateway.register calls.validAppid (if calls.authService then
    some (calls.auth.carry answered) else none)

/-- The values fit into their columns, and those that are drawn are new. -/
structure Fitting (calls : RegisterCalls) (handler : Registering)
    (accounts : Accounts) : Prop where
  email : handler.request.email.toList.length ≤ 30
  username : handler.request.username.toList.length ≤ 20
  within : accounts.nextSeq + calls.skipped ≤ maxSerial
  unused : ∀ row ∈ accounts.users, row.uid ≠ calls.uid

end RegisterCalls

/-- The number of the account that a registration gets after a trace, where
`fresh` is the number of a new one; there is none for an email that was
confirmed. -/
def expectedRegister (trace : List AccountEvent) (fresh : Nat)
    (email : String) : Option Nat :=
  match lastEntry trace email with
  | none => some fresh
  | some entry =>
      if .confirmed entry.row.seq ∈ trace then none else some entry.row.seq

/-- An account with the number waits for its confirmation as the request
describes it. -/
def Registering.StoredAs (libraries : Libraries) (handler : Registering)
    (seq : Nat) (accounts : Accounts) : Prop :=
  ∃ row ∈ accounts.users, row.seq = seq ∧
    row.email = handler.request.email ∧
    row.username = handler.request.username ∧
    row.password = Registration.hashPassword libraries handler ∧
    row.confirmed = false

theorem assignVarchar_of_fits {limit : Nat} {text : String}
    (fits : text.toList.length ≤ limit) :
    assignVarchar limit text = .ok text := if_pos fits

theorem columns_of_fits {email password username : String}
    (address : email.toList.length ≤ 30)
    (secret : password.toList.length ≤ 128)
    (name : username.toList.length ≤ 20) :
    Accounts.columns email password username =
      .ok (email, password, username) := by
  simp [Accounts.columns, assignVarchar_of_fits address,
    assignVarchar_of_fits secret, assignVarchar_of_fits name, bind,
    Except.bind, pure, Except.pure]

/-- The number and the state of the account of an email. -/
def accountOf (fresh : Nat) : Option AccountRow → Nat × Bool
  | none => (fresh, false)
  | some row => (row.seq, row.confirmed)

theorem insertUser_result {accounts : Accounts} {seq uid : Nat}
    {email password username : String}
    (unused : ∀ row ∈ accounts.users, row.uid ≠ uid) :
    (accounts.insertUser seq uid email email password username).1 =
      .ok (some (accountOf seq (accounts.find email))) := by
  unfold Accounts.insertUser
  cases found : accounts.find email with
  | none =>
      simp only
      rw [if_neg (by simpa using unused)]
      rfl
  | some row =>
      simp only
      split
      · rfl
      · rfl

theorem insertUser_stores {accounts : Accounts} {seq uid number : Nat}
    {email password username : String}
    (unused : ∀ row ∈ accounts.users, row.uid ≠ uid)
    (account : accountOf seq (accounts.find email) = (number, false)) :
    ∃ row ∈ (accounts.insertUser seq uid email email password
        username).2.users,
      row.seq = number ∧ row.email = email ∧ row.username = username ∧
        row.password = password ∧ row.confirmed = false := by
  unfold Accounts.insertUser
  cases found : accounts.find email with
  | none =>
      rw [found] at account
      cases account
      simp only
      rw [if_neg (by simpa using unused)]
      exact ⟨_, List.mem_append_right _ List.mem_cons_self, rfl, rfl, rfl,
        rfl, rfl⟩
  | some row =>
      rw [found] at account
      obtain ⟨rfl, unconfirmed⟩ := Prod.mk.inj account
      obtain ⟨member, address⟩ := Rows.mem_of_find found
      simp only
      split
      · refine ⟨Accounts.registeredAgain password username row, ?_, ?_⟩
        · exact Rows.mem_update.mpr ⟨row, member, by simp [address]⟩
        · rw [Accounts.registeredAgain_eq]
          exact ⟨rfl, address, rfl, rfl, unconfirmed⟩
      · rename_i same
        have equal : username = row.username ∧ password = row.password := by
          by_contra different
          exact same ⟨unconfirmed, by grind⟩
        exact ⟨row, member, rfl, address, equal.1.symm, equal.2.symm,
          unconfirmed⟩

theorem insertUser_refuses {accounts : Accounts} {seq uid number : Nat}
    {email password username : String}
    (account : accountOf seq (accounts.find email) = (number, true)) :
    (accounts.insertUser seq uid email email password username).2 =
      accounts := by
  unfold Accounts.insertUser
  cases found : accounts.find email with
  | none =>
      rw [found] at account
      cases account
  | some row =>
      rw [found] at account
      have confirmed : row.confirmed = true := (Prod.mk.inj account).2
      simp [confirmed]

namespace RegisterCalls

variable {libraries : Libraries} {trace : List AccountEvent}
  {accounts : Accounts} {calls : RegisterCalls} {handler : Registering}

theorem Fitting.registerUser_eq (fitting : calls.Fitting handler accounts) :
    accounts.registerUser calls.skipped calls.uid handler.request.email
        (Registration.hashPassword libraries handler)
        handler.request.username =
      { accounts with
        nextSeq := accounts.nextSeq + calls.skipped + 1 }.insertUser
        (accounts.nextSeq + calls.skipped) calls.uid handler.request.email
        handler.request.email (Registration.hashPassword libraries handler)
        handler.request.username := by
  unfold Accounts.registerUser
  simp only [if_neg (Nat.not_lt.mpr fitting.within), columns_of_fits
    fitting.email (libraries.fits handler.request.password handler.salt)
    fitting.username, Registration.hashPassword]

theorem expectedRegister_eq (remembers : Remembers libraries trace accounts)
    (fresh : Nat) (email : String) :
    expectedRegister trace fresh email =
      if (accountOf fresh (accounts.find email)).2 then none
      else some (accountOf fresh (accounts.find email)).1 := by
  unfold expectedRegister
  cases found : accounts.find email with
  | none =>
      cases last : lastEntry trace email with
      | none => rfl
      | some entry =>
          obtain ⟨member, same⟩ := lastEntry_mem last
          obtain ⟨row, listed, equal, _⟩ := remembers.kept entry member
          exact absurd (equal.trans same)
            (Rows.find_eq_none_iff.mp found row listed)
  | some row =>
      obtain ⟨member, address⟩ := Rows.mem_of_find found
      obtain ⟨entry, last, describes⟩ := remembers.last row member
      rw [address] at last
      have seq : entry.row.seq = row.seq :=
        congrArg UserDetailedInfo.seq describes.info
      simp only [last, seq, ← remembers.confirmed row member, accountOf]
      rfl

/-- What the statement does for values that fit: it stores the account or
leaves a confirmed one alone. -/
theorem Fitting.registered (remembers : Remembers libraries trace accounts)
    (fitting : calls.Fitting handler accounts) :
    let result := accounts.registerUser calls.skipped calls.uid
      handler.request.email (Registration.hashPassword libraries handler)
      handler.request.username
    let fresh := accounts.nextSeq + calls.skipped
    (∃ seq, expectedRegister trace fresh handler.request.email = some seq ∧
      result.1 = .ok (some (seq, false)) ∧
      handler.StoredAs libraries seq result.2) ∨
    (∃ seq, expectedRegister trace fresh handler.request.email = none ∧
      result.1 = .ok (some (seq, true)) ∧
      result.2.users = accounts.users) := by
  intro result fresh
  have advanced : ∀ row ∈ ({ accounts with nextSeq := fresh + 1 } :
      Accounts).users, row.uid ≠ calls.uid := fitting.unused
  rw [expectedRegister_eq remembers]
  have executed : result = _ := fitting.registerUser_eq
  have returned := @insertUser_result _ fresh calls.uid
    handler.request.email (Registration.hashPassword libraries handler)
    handler.request.username advanced
  rw [executed]
  rcases account : accountOf fresh (accounts.find handler.request.email) with
    ⟨seq, confirmed⟩
  cases confirmed with
  | false =>
      refine .inl ⟨seq, rfl, ?_, insertUser_stores advanced account⟩
      exact returned.trans (by rw [← account]; rfl)
  | true =>
      refine .inr ⟨seq, rfl, ?_, ?_⟩
      · exact returned.trans (by rw [← account]; rfl)
      · have same : accountOf fresh (Accounts.find
            { accounts with nextSeq := fresh + 1 }
            handler.request.email) = (seq, true) := account
        rw [insertUser_refuses same]

/-- Whatever fails, no token is sent and the response is another one. -/
theorem response_failing (failing : ¬ calls.Reaching)
    (libraries : Libraries) (handler : Registering) (accounts : Accounts) :
    ∃ refusal, calls.response libraries handler accounts = (refusal, none) ∧
      refusal ≠ .status 200 ∧ refusal ≠ .status 202 := by
  obtain ⟨validAppid, authService, auth, userService, user, statement,
    skipped, uid, server, stamp, time⟩ := calls
  cases validAppid with
  | false => exact ⟨.text "Invalid Request" 400, rfl, by decide, by decide⟩
  | true =>
      cases authService with
      | false => exact ⟨.status 500, rfl, by decide, by decide⟩
      | true =>
          cases auth with
          | timedOut =>
              cases userService with
              | false => exact ⟨.status 504, rfl, by decide, by decide⟩
              | true => exact ⟨.status 504, rfl, by decide, by decide⟩
          | failed =>
              cases userService with
              | false => exact ⟨.status 400, rfl, by decide, by decide⟩
              | true => exact ⟨.status 400, rfl, by decide, by decide⟩
          | answered =>
              cases userService with
              | false => exact ⟨.status 400, rfl, by decide, by decide⟩
              | true =>
                  cases user with
                  | timedOut =>
                      refine ⟨.status 504, ?_, by decide, by decide⟩
                      simp only [response, Transport.carry_timedOut]
                      rfl
                  | failed =>
                      refine ⟨.status 502, ?_, by decide, by decide⟩
                      simp only [response, Transport.carry_failed]
                      rfl
                  | answered =>
                      cases statement with
                      | unavailable =>
                          exact ⟨.status 504, rfl, by decide, by decide⟩
                      | lost trouble executed =>
                          cases trouble with
                          | timedOut =>
                              exact ⟨.status 504, rfl, by decide, by decide⟩
                          | disconnected =>
                              exact ⟨.status 502, rfl, by decide, by decide⟩
                          | other =>
                              exact ⟨.status 502, rfl, by decide, by decide⟩
                      | answered =>
                          exact absurd ⟨rfl, rfl, rfl, rfl, rfl, rfl⟩ failing

theorem iteration_accounts :
    (calls.iteration libraries handler accounts).2 =
      if Registration.executed calls.statement then
        (accounts.registerUser calls.skipped calls.uid handler.request.email
          (Registration.hashPassword libraries handler)
          handler.request.username).2
      else accounts := by
  unfold iteration UserServicer.userRegister
  cases calls.statement with
  | unavailable => rfl
  | lost trouble executed => rfl
  | answered => rfl

theorem response_reaching (reaching : calls.Reaching)
    (reply : UserRegisterReply)
    (replied : UserServicer.registerResult
      (accounts.registerUser calls.skipped calls.uid handler.request.email
        (Registration.hashPassword libraries handler)
        handler.request.username).1 = .replied reply) :
    calls.response libraries handler accounts =
      Gateway.register true (some (.success (AuthService.authRegister
        libraries calls.server calls.stamp calls.time (.success reply)))) := by
  obtain ⟨validAppid, authService, auth, userService, user, statement⟩ :=
    reaching
  simp [response, iteration, UserServicer.userRegister, validAppid,
    authService, auth, userService, user, statement, replied,
    Transport.carry]

end RegisterCalls

/-- What the route `register` answers says how the accounts came to be and
what becomes of them: 200 with a token for the number of the account, if its
email was not confirmed; 202, if it was.  Whatever fails has another response
and sends no token.  Once the statement was executed the account waits for its
confirmation as the request describes it, and a confirmed one is left alone. -/
theorem register_route_answers {libraries : Libraries}
    {trace : List AccountEvent} {registration : Registration}
    (run : AnyRun (Registration.step libraries) {} trace registration)
    (calls : RegisterCalls) (handler : Registering)
    (fitting : calls.Fitting handler registration.accounts) :
    let answer := calls.response libraries handler registration.accounts
    let after := (calls.iteration libraries handler registration.accounts).2
    let expected := expectedRegister trace
      (registration.accounts.nextSeq + calls.skipped) handler.request.email
    (∀ token, answer = (.status 200, some token) ↔
      calls.Reaching ∧ ∃ seq, expected = some seq ∧
        token = calls.token libraries seq) ∧
    (answer.1 = .status 202 ↔ calls.Reaching ∧ expected = none) ∧
    (∀ seq, Registration.executed calls.statement = true →
      expected = some seq → handler.StoredAs libraries seq after) ∧
    (expected = none → after.users = registration.accounts.users) := by
  intro answer after expected
  have registered := fitting.registered (Registration.run_remembers run)
  have left : after = _ := RegisterCalls.iteration_accounts
  by_cases reaching : calls.Reaching
  · have executed : Registration.executed calls.statement = true := by
      rw [reaching.2.2.2.2.2]
      rfl
    rw [executed, if_pos rfl] at left
    rcases registered with ⟨seq, found, result, stored⟩ |
      ⟨seq, found, result, users⟩
    · have answered : answer = (.status 200,
          some (calls.token libraries seq)) :=
        RegisterCalls.response_reaching reaching (.success seq)
          (by rw [result]; rfl)
      rw [answered, show expected = some seq from found]
      refine ⟨?_, by simp, ?_, by simp⟩
      · intro token
        simp [reaching, eq_comm]
      · intro number _ equal
        cases equal
        rw [left]
        exact stored
    · have answered : answer = (.status 202, none) :=
        RegisterCalls.response_reaching reaching (.failure .alreadyExists)
          (by rw [result]; rfl)
      rw [answered, show expected = none from found]
      refine ⟨by simp, by simp [reaching], by simp, ?_⟩
      intro _
      rw [left]
      exact users
  · obtain ⟨refusal, answered, notStored, notTaken⟩ :=
      RegisterCalls.response_failing reaching libraries handler
        registration.accounts
    rw [show answer = _ from answered]
    refine ⟨by simp [reaching], by simp [reaching, notTaken], ?_, ?_⟩
    · intro number executed equal
      rw [executed, if_pos rfl] at left
      rcases registered with ⟨seq, found, _, stored⟩ | ⟨seq, found, _, _⟩
      · rw [show expected = some seq from found] at equal
        cases equal
        rw [left]
        exact stored
      · rw [show expected = none from found] at equal
        cases equal
    · intro equal
      rcases registered with ⟨seq, found, _, _⟩ | ⟨seq, found, _, users⟩
      · rw [show expected = some seq from found] at equal
        cases equal
      · rw [left]
        split
        · exact users
        · rfl

/-- A second registration before the confirmation gets a token for the same
account, which has the new name and the new password from then on. -/
theorem register_route_answers_again :
    ∃ (registration : Registration),
      RegisterCalls.response ⟨true, true, .answered, true, .answered,
        .answered, 0, 9, 0, 1, 0⟩ sampleLibraries
        ⟨⟨"eve", "a@b", "three"⟩, "u"⟩ registration.accounts =
          (.status 200, some "bc") ∧
      Registering.StoredAs sampleLibraries ⟨⟨"eve", "a@b", "three"⟩, "u"⟩ 1
        (RegisterCalls.iteration ⟨true, true, .answered, true, .answered,
          .answered, 0, 9, 0, 1, 0⟩ sampleLibraries
          ⟨⟨"eve", "a@b", "three"⟩, "u"⟩ registration.accounts).2 := by
  obtain ⟨trace, registration, run, good⟩ :
      ∃ (trace : List AccountEvent) (registration : Registration),
        AnyRun (Registration.step sampleLibraries) {} trace registration ∧
        expectedRegister trace (registration.accounts.nextSeq + 0) "a@b" =
          some 1 ∧
        registration.accounts.nextSeq + 0 ≤ maxSerial ∧
        ∀ row ∈ registration.accounts.users, row.uid ≠ 9 := by
    apply Run.exists_both_of_exec sampleActions
    decide +kernel
  obtain ⟨expected, within, unused⟩ := good
  obtain ⟨answers, _, stored, _⟩ := register_route_answers run
    ⟨true, true, .answered, true, .answered, .answered, 0, 9, 0, 1, 0⟩
    ⟨⟨"eve", "a@b", "three"⟩, "u"⟩ ⟨by decide, by decide, within, unused⟩
  refine ⟨registration, ?_, stored 1 rfl expected⟩
  apply (answers "bc").mpr
  exact ⟨⟨rfl, rfl, rfl, rfl, rfl, rfl⟩, 1, expected, by decide⟩

/-! ## Confirmation -/

/-- The response to a token if all calls succeed. -/
def confirmResponse (libraries : Libraries) (server : Nat) (token : String)
    (registration : Registration) : UserResponse :=
  match checkConfirmation libraries server registration.now token with
  | .call seq =>
      Gateway.confirm (some (.success (AuthService.authRegisterConfirm
        (.success (UserServicer.userRegisterConfirm seq .answered
          registration.accounts).1))))
  | refused =>
      Gateway.confirm (some (Transport.answered.carry
        (AuthService.confirmationRefused refused)))

/-- A token is good for ten minutes at its server; later the response says
that it has expired. -/
theorem confirmResponse_issued {libraries : Libraries}
    {trace : List AccountEvent} {registration : Registration}
    (lawful : ∀ server stamp info,
      libraries.loads server (libraries.dumps server stamp info) =
        .info info)
    (run : AnyRun (Registration.step libraries) {} trace registration)
    {issue : Issued} (member : issue ∈ registration.issued) :
    confirmResponse libraries issue.server issue.token registration =
      if registration.now ≤ issue.time + 600 * second then
        .text "Confirmed Successfully" 200
      else .text "Sorry, this activate link has expired." 200 := by
  have checked := checkConfirmation_issued lawful
    (Registration.run_pending run) member
  by_cases within : registration.now ≤ issue.time + 600 * second
  · rw [if_pos within] at checked ⊢
    simp [confirmResponse, checked, UserServicer.userRegisterConfirm,
      AuthService.authRegisterConfirm, Gateway.confirm]
  · rw [if_neg within] at checked ⊢
    simp [confirmResponse, checked, AuthService.confirmationRefused,
      Transport.carry, Gateway.confirm]

end Auth

end TinyChat
