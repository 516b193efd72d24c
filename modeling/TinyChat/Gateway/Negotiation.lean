import TinyChat.Gateway.SessionSteps

/-!
# Logins that find a session of their key

An endpoint that finds a session under its key asks its client whether to
kick it off, and keeps a reference to the session object while it waits for
the answer.  Meanwhile the object may be recycled and given to another user.
A kick from another gateway looks the session up when it arrives.
-/

namespace TinyChat

namespace Gateway

open Transition

/-- An endpoint that waits for the answer of its client, with the session
object that it has found. -/
structure Visit where
  sessionKey : Int
  session : Nat
  deriving DecidableEq

structure Negotiation where
  server : Server := {}
  visits : List Visit := []

/-- A step of the gateway, or of a login that has found a session: it finds
one, the client confirms the kick or does not, a kick arrives from another
gateway, or a reader begins. -/
inductive LoginAction where
  | server (action : ServerAction)
  | find (sessionKey : Int)
  | kickFormer (index : Nat)
  | keepFormer (index : Nat)
  | kick (sessionKey : Int)
  | activate (index : Nat)

namespace SessionManager

def setState (manager : SessionManager) (name : Nat)
    (state : SessionState) : SessionManager :=
  manager.update name (fun session => { session with state := state })

end SessionManager

namespace Negotiation

def setState (negotiation : Negotiation) (name : Nat)
    (state : SessionState) : Negotiation :=
  { negotiation with
    server := negotiation.server.withManager
      (negotiation.server.manager.setState name state) }

/-- `task_manager.cancel` finds a reader of the key. -/
def hasReader (negotiation : Negotiation) (sessionKey : Int) : Bool :=
  negotiation.server.endpoints.any (fun endpoint =>
    endpoint.sessionKey = sessionKey &&
      match endpoint.phase with
      | .reading _ => true
      | _ => false)

def step : Step Negotiation LoginAction ServerEvent
  | negotiation, .server action =>
      (negotiation.server.step action).map (fun result =>
        ({ negotiation with server := result.1 }, result.2))
  | negotiation, .find sessionKey =>
      match negotiation.server.manager.sessions.lookup sessionKey with
      | none => none
      | some name =>
          some ({ negotiation with
            visits := negotiation.visits ++
              [{ sessionKey := sessionKey, session := name }] }, [])
  | negotiation, .kickFormer index =>
      match negotiation.visits[index]? with
      | none => none
      | some visit =>
          some ({ negotiation.setState visit.session .closing with
            visits := negotiation.visits.eraseIdx index }, [])
  | negotiation, .keepFormer index =>
      match negotiation.visits[index]? with
      | none => none
      | some _ =>
          some ({ negotiation with
            visits := negotiation.visits.eraseIdx index }, [])
  | negotiation, .kick sessionKey =>
      if negotiation.hasReader sessionKey then
        match negotiation.server.manager.sessions.lookup sessionKey with
        | none => some (negotiation, [])
        | some name => some (negotiation.setState name .closing, [])
      else some (negotiation, [])
  | negotiation, .activate index =>
      match negotiation.server.endpoints[index]? with
      | none => none
      | some endpoint =>
          match endpoint.phase with
          | .reading _ =>
              some (negotiation.setState endpoint.session .active, [])
          | _ => none

end Negotiation

variable {trace : List ServerEvent} {manager following : SessionManager}
  {endpoints : List Endpoint} {server next : Server}

namespace Negotiation

variable {negotiation later : Negotiation} {action : LoginAction}
  {events : List ServerEvent}

/-- The tables and the endpoints of the gateway agree. -/
def Consistent (trace : List ServerEvent) (negotiation : Negotiation) :
    Prop :=
  Attached trace negotiation.server.manager negotiation.server.endpoints

theorem Consistent.setState (consistent : Consistent trace negotiation)
    (name : Nat) (state : SessionState) :
    Consistent (trace ++ []) (negotiation.setState name state) := by
  apply Attached.append
  exact Attached.update consistent name (fun _ => rfl)

theorem Consistent.step (consistent : Consistent trace negotiation)
    (stepped : negotiation.step action = some (later, events)) :
    Consistent (trace ++ events) later := by
  cases action with
  | server action =>
      obtain ⟨result, done, equality⟩ := Option.map_eq_some_iff.mp stepped
      cases equality
      exact Attached.stepped consistent (Server.step_stepped done)
  | find sessionKey =>
      simp only [Negotiation.step] at stepped
      split at stepped
      · cases stepped
      · cases stepped
        exact Attached.append consistent []
  | kickFormer index =>
      simp only [Negotiation.step] at stepped
      split at stepped
      · cases stepped
      · cases stepped
        exact consistent.setState _ _
  | keepFormer index =>
      simp only [Negotiation.step] at stepped
      split at stepped
      · cases stepped
      · cases stepped
        exact Attached.append consistent []
  | kick sessionKey =>
      simp only [Negotiation.step] at stepped
      split at stepped
      · split at stepped
        · cases stepped
          exact Attached.append consistent []
        · cases stepped
          exact consistent.setState _ _
      · cases stepped
        exact Attached.append consistent []
  | activate index =>
      simp only [Negotiation.step] at stepped
      split at stepped
      · cases stepped
      · split at stepped
        · cases stepped
          exact consistent.setState _ _
        · cases stepped

end Negotiation

/-! ## What a login changes -/

namespace Negotiation

variable {negotiation later : Negotiation} {action : LoginAction}
  {events : List ServerEvent} {sessionKey : Int}

end Negotiation

end Gateway

end TinyChat
