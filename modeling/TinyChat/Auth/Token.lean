import Mathlib.Data.Int.Notation

/-!
# The check of access tokens

`AuthServicer.AuthToken` answers whether an access token is valid and for
whom it was issued.  What the token library makes of a token is a parameter.
-/

namespace TinyChat

namespace Auth

inductive AuthStatus where
  | success
  | expired
  | invalidToken
  | invalidSignature
  | invalidPayload

inductive AuthOpStatus where
  | success
  | failed
  | expired
  | timeout
  deriving DecidableEq

/-- The optional `uid` of the reply reads as `0` if it is missing. -/
structure AuthTokenReply where
  status : AuthOpStatus
  uid : Nat := 0

/-- The result of decoding a token: its payload, in which the user id and the
time of expiry may be missing, or an exception. -/
inductive Decoded where
  | payload (uid : Option Nat) (exp : Option Int)
  | invalidSignature
  | invalidToken
  | otherError

/-- `AuthBackend.authenticate` at the time `now`. -/
def authenticate (decode : String → Decoded) (now leeway : Int)
    (accessToken : String) : AuthStatus × Nat :=
  match decode accessToken with
  | .invalidSignature => (.invalidSignature, 0)
  | .invalidToken => (.invalidToken, 0)
  | .otherError => (.invalidPayload, 0)
  | .payload (some uid) (some exp) =>
      (if exp > now - leeway then .success else .expired, uid)
  | .payload _ _ => (.invalidPayload, 0)

def authToken (decode : String → Decoded) (now leeway : Int)
    (accessToken : String) : AuthTokenReply :=
  match authenticate decode now leeway accessToken with
  | (.success, uid) => { status := .success, uid := uid }
  | (.expired, uid) => { status := .expired, uid := uid }
  | _ => { status := .failed }

theorem authToken_success {decode : String → Decoded} {now leeway : Int}
    {accessToken : String}
    (success : (authToken decode now leeway accessToken).status = .success) :
    ∃ exp, decode accessToken =
        .payload (some (authToken decode now leeway accessToken).uid)
          (some exp) ∧
      exp > now - leeway := by
  cases decoded : decode accessToken with
  | payload uid exp =>
      cases uid with
      | none => simp [authToken, authenticate, decoded] at success
      | some uid =>
          cases exp with
          | none => simp [authToken, authenticate, decoded] at success
          | some exp =>
              by_cases valid : exp > now - leeway
              · refine ⟨exp, ?_, valid⟩
                simp only [authToken, authenticate, decoded, if_pos valid]
              · simp [authToken, authenticate, decoded, if_neg valid]
                  at success
  | invalidSignature => simp [authToken, authenticate, decoded] at success
  | invalidToken => simp [authToken, authenticate, decoded] at success
  | otherError => simp [authToken, authenticate, decoded] at success

end Auth

end TinyChat
