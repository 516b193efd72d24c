import TinyChat.Lib.Transition
import TinyChat.User.Accounts

/-!
# Registration, confirmation and login

`AuthService` passes a registration to the user service and signs a token
for the number of the account, which a later call has to bring back within
ten minutes.  The handlers of both services and the statements of the
database interleave; a call that is lost on its way is one that never
arrives.
-/

namespace TinyChat

namespace Auth

open Transition User

/-- What a token says. -/
structure ConfirmInfo where
  confirm : Nat
  exp : Int
  deriving DecidableEq

inductive Loaded where
  | info (info : ConfirmInfo)
  | badTimeSignature
  | raised
  deriving DecidableEq

/-- The clocks count milliseconds. -/
def second : Int := 1000

/-- The libraries for passwords and for signed tokens, and the start of the
clock of every auth service.  Each of them has keys of its own, and a token
also depends on the time at which it is signed.  A hash fits into its
column. -/
structure Libraries where
  generatePasswordHash : String → String → String
  checkPasswordHash : String → String → Bool
  dumps : Nat → Nat → ConfirmInfo → String
  loads : Nat → String → Loaded
  clock : Nat → Int
  fits : ∀ password salt,
    (generatePasswordHash password salt).toList.length ≤ 128

namespace Libraries

variable (libraries : Libraries)

/-- `time.monotonic()` of a server. -/
def monotonic (server : Nat) (now : Int) : Int :=
  now - libraries.clock server

/-- What `AuthRegister` signs for an account. -/
def confirmInfo (server : Nat) (now : Int) (seq : Nat) : ConfirmInfo where
  confirm := seq
  exp := libraries.monotonic server now + 300 * second

end Libraries

inductive ConfirmCheck where
  | failed
  | expired
  | raised
  | call (seq : Nat)
  deriving DecidableEq

/-- `AuthRegisterConfirm` before it calls the user service. -/
def checkConfirmation (libraries : Libraries) (server : Nat) (now : Int)
    (token : String) : ConfirmCheck :=
  match libraries.loads server token with
  | .badTimeSignature => .failed
  | .raised => .raised
  | .info info =>
      if 300 * second < libraries.monotonic server now - info.exp then
        .expired
      else .call info.confirm

/-- The handler `UserRegister` at work, with the salt of its hash. -/
structure Registering where
  request : UserRegisterRequest
  salt : String
  deriving DecidableEq

/-- A token that was signed. -/
structure Issued where
  server : Nat
  token : String
  info : ConfirmInfo
  time : Int
  deriving DecidableEq

/-- The accounts, the handlers at work, the replies with a number on their
way to an auth service, the tokens that were signed, and the confirmations on
their way to the user service. -/
structure Registration where
  accounts : Accounts := {}
  now : Int := 0
  registering : List Registering := []
  registered : List Nat := []
  issued : List Issued := []
  confirming : List Nat := []
  deriving DecidableEq

inductive RegistrationAction where
  | wait (elapsed : Nat)
  | userRegister (request : UserRegisterRequest) (salt : String)
  | iterate (index skipped uid : Nat) (ended : StatementEnd)
  | authRegister (index server stamp : Nat)
  | authRegisterConfirm (server : Nat) (token : String)
  | userRegisterConfirm (index : Nat) (ended : StatementEnd)
  | userLogin (email password : String) (ended : StatementEnd)

/-- A registration that was stored. -/
structure Entry where
  password : String
  salt : String
  row : AccountRow
  deriving DecidableEq

inductive AccountEvent where
  | registered (entry : Entry)
  | issued (issue : Issued)
  | accepted (server : Nat) (token : String) (seq : Nat) (time : Int)
  | confirmed (seq : Nat)
  | answered (email password : String) (reply : UserReply)
  deriving DecidableEq

namespace Registration

variable (libraries : Libraries)

def hashPassword (handler : Registering) : String :=
  libraries.generatePasswordHash handler.request.password handler.salt

/-- The statement was executed. -/
def executed : StatementEnd → Bool
  | .unavailable => false
  | .lost _ executed => executed
  | .answered => true

/-- What an execution of `register_user.sql` for the handler stores. -/
def storedEvents (handler : Registering) (skipped uid : Nat)
    (ended : StatementEnd) (accounts : Accounts) : List AccountEvent :=
  if executed ended then
    (Accounts.stored (accounts.registerUser skipped uid
      handler.request.email (hashPassword libraries handler)
      handler.request.username)).toList.map (fun row =>
        .registered ⟨handler.request.password, handler.salt, row⟩)
  else []

/-- What an execution of `confirm_user.sql` changes. -/
def confirmedEvents (seq : Nat) (ended : StatementEnd)
    (accounts : Accounts) : List AccountEvent :=
  match Rows.find AccountRow.seq accounts.users seq with
  | none => []
  | some row =>
      if executed ended ∧ row.confirmed = false then [.confirmed seq]
      else []

/-- The handler after an iteration of its loop. -/
def afterIteration (registration : Registration) (index : Nat) :
    Iteration → Registration
  | .again => registration
  | .replied (.success seq) =>
      { registration with
        registering := registration.registering.eraseIdx index
        registered := registration.registered ++ [seq] }
  | .replied (.failure _) | .raised =>
      { registration with
        registering := registration.registering.eraseIdx index }

def step : Transition.Step Registration RegistrationAction AccountEvent
  | registration, .wait elapsed =>
      some ({ registration with now := registration.now + elapsed }, [])
  | registration, .userRegister request salt =>
      some ({ registration with
        registering := registration.registering ++ [⟨request, salt⟩] }, [])
  | registration, .iterate index skipped uid ended =>
      match registration.registering[index]? with
      | none => none
      | some handler =>
          let result := UserServicer.userRegister handler.request
            (hashPassword libraries handler) skipped uid ended
            registration.accounts
          some (afterIteration { registration with accounts := result.2 }
              index result.1,
            storedEvents libraries handler skipped uid ended
              registration.accounts)
  | registration, .authRegister index server stamp =>
      match registration.registered[index]? with
      | none => none
      | some seq =>
          let info := libraries.confirmInfo server registration.now seq
          let issue : Issued :=
            { server, info
              token := libraries.dumps server stamp info
              time := registration.now }
          some ({ registration with
              registered := registration.registered.eraseIdx index
              issued := registration.issued ++ [issue] }, [.issued issue])
  | registration, .authRegisterConfirm server token =>
      match checkConfirmation libraries server registration.now token with
      | .call seq =>
          some ({ registration with
              confirming := registration.confirming ++ [seq] },
            [.accepted server token seq registration.now])
      | _ => some (registration, [])
  | registration, .userRegisterConfirm index ended =>
      match registration.confirming[index]? with
      | none => none
      | some seq =>
          some ({ registration with
              accounts := (UserServicer.userRegisterConfirm seq ended
                registration.accounts).2
              confirming := registration.confirming.eraseIdx index },
            confirmedEvents seq ended registration.accounts)
  | registration, .userLogin email password ended =>
      some (registration, [.answered email password
        (UserServicer.userLogin libraries.checkPasswordHash email password
          ended registration.accounts)])

/-- A bearer cannot make a token: one that a server reads was signed by it. -/
def Signed (registration : Registration) : RegistrationAction → Prop
  | .authRegisterConfirm server token =>
      match libraries.loads server token with
      | .info info =>
          ∃ issue ∈ registration.issued, issue.server = server ∧
            issue.info = info
      | _ => True
  | _ => True

instance (registration : Registration) (action : RegistrationAction) :
    Decidable (Signed libraries registration action) := by
  unfold Signed
  split
  · split
    · infer_instance
    · infer_instance
  · infer_instance

end Registration

/-- The last registration for an email. -/
def lastEntry (trace : List AccountEvent) (email : String) : Option Entry :=
  trace.reverse.findSome? (fun event =>
    match event with
    | .registered entry =>
        if entry.row.email = email then some entry else none
    | _ => none)

/-- What the login with an email has to answer after a trace. -/
def expectedLogin (libraries : Libraries) (trace : List AccountEvent)
    (email password : String) : UserReply :=
  match lastEntry trace email with
  | none => .failure .incorrectEmail
  | some entry =>
      if .confirmed entry.row.seq ∈ trace then
        if libraries.checkPasswordHash
            (libraries.generatePasswordHash entry.password entry.salt)
            password then
          .success entry.row.info
        else .failure .incorrectPwd
      else .failure .notExists

/-- Why an event may happen: a registration never changes an account that
was confirmed; a token is signed for a stored registration; a token is
accepted by the server that signed it, at most ten minutes later; and an
account is confirmed because such a token was accepted. -/
def Justified (before : List AccountEvent) : AccountEvent → Prop
  | .registered entry => .confirmed entry.row.seq ∉ before
  | .issued issue =>
      ∃ entry, .registered entry ∈ before ∧
        entry.row.seq = issue.info.confirm
  | .accepted server _ seq time =>
      ∃ issue, .issued issue ∈ before ∧ issue.server = server ∧
        issue.info.confirm = seq ∧ issue.time ≤ time ∧
        time ≤ issue.time + 600 * second
  | .confirmed seq =>
      (∃ server token time, .accepted server token seq time ∈ before) ∧
        .confirmed seq ∉ before
  | .answered _ _ _ => True

end Auth

end TinyChat
