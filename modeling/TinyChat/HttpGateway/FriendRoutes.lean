import TinyChat.HttpGateway.Admission
import TinyChat.User.FriendList

/-!
# The routes for friends

The routes for friends run behind the layers of the gateway, for the user
whose token was presented.  What they put into the queue is processed by the
friend worker, which shares the table of users with the accounts.
-/

namespace TinyChat

namespace HttpGateway

open Transition Auth User

structure FriendGateway where
  gateway : Gateway := {}
  friends : FriendSystem := FriendSystem.start []

/-- The handler of a route for friends runs for a request that has passed
every layer; a handler that raises before it has an effect is an action of
the gateway. -/
inductive FriendGatewayAction where
  | gateway (action : GatewayAction)
  | friendRequest (index : Nat) (addressId : Int)
      (requestMsg : Option String) (published : Bool)
  | friendConfirm (index : Nat) (validAppid : Bool)
      (addressId action : Int) (flicked : FlickResult) (published : Bool)
  | getFriends (index : Nat) (calls : ListCalls)
  | worker (action : FriendAction)

inductive FriendGatewayEvent where
  | gateway (event : GatewayEvent)
  | confirming (number : Nat) (report : ConfirmReport)
  | listed (number uid : Nat) (response : FriendListResponse)
  | worker (report : ConfirmReport)
  deriving DecidableEq

/-- The routes are called by requests only. -/
def ownOfWorker : FriendAction → Bool
  | .friendRequest .. | .friendConfirm .. => false
  | _ => true

/-- The number and the user of a request that is to be handled by a route. -/
def Gateway.handling (gateway : Gateway) (index : Nat) (handler : String) :
    Option (Nat × Nat) :=
  (gateway.requests[index]?).bind (fun request =>
    if request.stage = .handling ∧ request.endpoint.handler = handler then
      request.uid.map (fun uid => (request.number, uid))
    else none)

namespace FriendGateway

/-- The tables after a step of the gateway. -/
def setGateway (system : FriendGateway) (gateway : Gateway) :
    FriendGateway where
  gateway := gateway
  friends :=
    { system.friends with
      database :=
        system.friends.database.withUsers gateway.registration.accounts }

variable (libraries : Libraries) (tokens : TokenLibraries)

/-- The request is handled, and the handler does something with friends. -/
def handle (system : FriendGateway) (index : Nat) (action : FriendAction)
    (report : ConfirmReport → FriendGatewayEvent) :
    Option (FriendGateway × List FriendGatewayEvent) :=
  (Gateway.step libraries tokens system.gateway (.handle index)).bind
    (fun handled =>
      (FriendSystem.step system.friends action).map (fun result =>
        ({ gateway := handled.1, friends := result.1 },
          handled.2.map .gateway ++ result.2.map report)))

def step : Step FriendGateway FriendGatewayAction FriendGatewayEvent
  | system, .gateway action =>
      (Gateway.step libraries tokens system.gateway action).map
        (fun result => (system.setGateway result.1, result.2.map .gateway))
  | system, .friendRequest index addressId requestMsg published =>
      (system.gateway.handling index "friend_request").bind (fun request =>
        system.handle libraries tokens index
          (.friendRequest request.2 addressId requestMsg published)
          (.confirming request.1))
  | system, .friendConfirm index validAppid addressId action flicked
      published =>
      (system.gateway.handling index "friend_confirm").bind (fun request =>
        system.handle libraries tokens index
          (.friendConfirm validAppid request.2 addressId action flicked
            published)
          (.confirming request.1))
  | system, .getFriends index calls =>
      (system.gateway.handling index "get_friends").bind (fun request =>
        (Gateway.step libraries tokens system.gateway (.handle index)).map
          (fun handled =>
            ({ system with gateway := handled.1 },
              handled.2.map .gateway ++
                [.listed request.1 request.2 (calls.response request.2
                  system.gateway.registration.accounts
                  system.friends.database)])))
  | system, .worker action =>
      if ownOfWorker action then
        (FriendSystem.step system.friends action).map (fun result =>
          ({ system with friends := result.1 }, result.2.map .worker))
      else none

/-- A bearer cannot make a token. -/
def Signed (system : FriendGateway) : FriendGatewayAction → Prop
  | .gateway action => Gateway.Signed tokens system.gateway action
  | _ => True

instance (system : FriendGateway) (action : FriendGatewayAction) :
    Decidable (system.Signed tokens action) := by
  unfold Signed
  cases action with
  | _ => infer_instance

end FriendGateway

/-! ## What happened before -/

def gatewayEvents (trace : List FriendGatewayEvent) : List GatewayEvent :=
  trace.filterMap (fun event =>
    match event with
    | .gateway event => some event
    | _ => none)

def friendReports (trace : List FriendGatewayEvent) : List ConfirmReport :=
  trace.filterMap (fun event =>
    match event with
    | .confirming _ report => some report
    | .worker report => some report
    | _ => none)

/-- The session of a friendship was told to a user, who was authenticated by
a token from a login at most ten days before, as the answer to a request that
accepts the friendship. -/
def Authorised (trace : List FriendGatewayEvent) (confirm : FriendConfirm) :
    Prop :=
  ∃ number uid token time, confirm.requestId = (uid : Nat) ∧
    .confirming number (.answered confirm.requestId confirm.addressId
      (.sessionId confirm.sessionId) confirm) ∈ trace ∧
    (∃ key handled, .gateway (.handled number "friend_confirm" key
      (some uid) handled) ∈ trace) ∧
    .gateway (.authenticated number uid token time) ∈ trace ∧
    ∃ email password start,
      .gateway (.loggedIn uid email password token start) ∈ trace ∧
      start ≤ time ∧ time < start + expirationDelta * second

theorem Authorised.grow {trace : List FriendGatewayEvent}
    {confirm : FriendConfirm} (authorised : Authorised trace confirm)
    (events : List FriendGatewayEvent) :
    Authorised (trace ++ events) confirm := by
  obtain ⟨number, uid, token, time, same, told, ⟨key, handled, listed⟩,
    authenticated, email, password, start, login, fresh⟩ := authorised
  exact ⟨number, uid, token, time, same, List.mem_append_left _ told,
    ⟨key, handled, List.mem_append_left _ listed⟩,
    List.mem_append_left _ authenticated, email, password, start,
    List.mem_append_left _ login, fresh⟩

section

variable (trace events : List FriendGatewayEvent)
  (happened : List GatewayEvent) (reports : List ConfirmReport)
  (number : Nat)

theorem gatewayEvents_append :
    gatewayEvents (trace ++ events) =
      gatewayEvents trace ++ gatewayEvents events :=
  List.filterMap_append

theorem friendReports_append :
    friendReports (trace ++ events) =
      friendReports trace ++ friendReports events :=
  List.filterMap_append

theorem gatewayEvents_gateway :
    gatewayEvents (happened.map .gateway) = happened := by
  simp [gatewayEvents, List.filterMap_map]

theorem friendReports_gateway :
    friendReports (happened.map .gateway) = [] := by
  simp [friendReports]

theorem gatewayEvents_confirming :
    gatewayEvents (reports.map (.confirming number)) = [] := by
  simp [gatewayEvents]

theorem friendReports_confirming :
    friendReports (reports.map (.confirming number)) = reports := by
  simp [friendReports, List.filterMap_map]

theorem gatewayEvents_worker :
    gatewayEvents (reports.map .worker) = [] := by
  simp [gatewayEvents]

theorem friendReports_worker :
    friendReports (reports.map .worker) = reports := by
  simp [friendReports, List.filterMap_map]

end

theorem mem_gatewayEvents {trace : List FriendGatewayEvent}
    {event : GatewayEvent} :
    event ∈ gatewayEvents trace ↔ .gateway event ∈ trace := by
  constructor
  · intro member
    obtain ⟨origin, listed, same⟩ := List.mem_filterMap.mp member
    cases origin with
    | gateway other =>
        cases same
        exact listed
    | confirming number report => cases same
    | listed number uid response => cases same
    | worker report => cases same
  · intro member
    exact List.mem_filterMap.mpr ⟨_, member, rfl⟩

/-! ## Steps of the gateway -/

namespace Gateway

variable {libraries : Libraries} {tokens : TokenLibraries}
  {gateway next : Gateway} {events : List GatewayEvent}

theorem proceed_registration (gateway : Gateway) (index : Nat)
    (request : Request) (stage : Stage) (answer : Option Nat) :
    (gateway.proceed index request stage answer).1.registration =
      gateway.registration := by
  cases answer with
  | none => rfl
  | some status => rfl

theorem authenticated_registration (gateway : Gateway) (index : Nat)
    (request : Request) (token : Option String)
    (authentication : Authentication) :
    (gateway.authenticated index request token
      authentication).1.registration = gateway.registration := by
  cases authentication with
  | uid uid => rfl
  | refreshed uid accessToken refreshToken => rfl
  | error status info => rfl
  | raised => rfl

theorem authLogin_registration (gateway : Gateway)
    (email password : String) (stored : Bool) (reply : UserReply) :
    (gateway.authLogin tokens email password stored reply).1.registration =
      gateway.registration := by
  cases reply with
  | success user =>
      cases stored with
      | false => rfl
      | true => rfl
  | failure code => rfl

theorem registration_of {result : Gateway × List GatewayEvent}
    (kept : result.1.registration = gateway.registration)
    (stepped : some result = some (next, events)) :
    next.registration = gateway.registration := by
  cases stepped
  exact kept

/-- Only a step of the accounts changes them. -/
theorem step_registration {action : GatewayAction}
    (stepped : Gateway.step libraries tokens gateway action =
      some (next, events)) :
    next.registration = gateway.registration ∨
      ∃ action happened, Registration.step libraries gateway.registration
        action = some (next.registration, happened) := by
  cases action with
  | account action =>
      obtain ⟨⟨moved, happened⟩, changed, equality⟩ :=
        Option.map_eq_some_iff.mp stepped
      cases equality
      exact .inr ⟨action, happened, changed⟩
  | authLogin email password ended stored =>
      cases stepped
      exact .inl (authLogin_registration _ _ _ _ _)
  | arrive address place authorization refresh transport =>
      simp only [Gateway.step] at stepped
      split at stepped
      · cases stepped
      · split at stepped
        · cases stepped
          exact .inl rfl
        · cases stepped
          exact .inl rfl
  | authenticate index service authRefresh =>
      simp only [Gateway.step] at stepped
      split at stepped
      · cases stepped
      · split at stepped
        · exact .inl (registration_of
            (authenticated_registration _ _ _ _ _) stepped)
        · cases stepped
  | executeIpLimiter index =>
      simp only [Gateway.step] at stepped
      split at stepped
      · cases stepped
      · split at stepped
        · cases stepped
          exact .inl rfl
        · cases stepped
  | ipLimit index transport =>
      simp only [Gateway.step] at stepped
      split at stepped
      · cases stepped
      · split at stepped
        · split at stepped
          · cases stepped
            exact .inl (proceed_registration _ _ _ _ _)
          · exact .inl (registration_of
              (proceed_registration (gateway.abandon _) _ _ _ _) stepped)
        · cases stepped
  | executeApiLimiter index =>
      simp only [Gateway.step] at stepped
      split at stepped
      · cases stepped
      · split at stepped
        · cases stepped
          exact .inl rfl
        · cases stepped
  | apiLimit index transport =>
      simp only [Gateway.step] at stepped
      split at stepped
      · cases stepped
      · split at stepped
        · split at stepped
          · cases stepped
            exact .inl (proceed_registration _ _ _ _ _)
          · exact .inl (registration_of
              (proceed_registration (gateway.abandon _) _ _ _ _) stepped)
        · cases stepped
  | executeAbandoned index =>
      simp only [Gateway.step] at stepped
      split at stepped
      · cases stepped
      · split at stepped
        · cases stepped
          exact .inl rfl
        · cases stepped
          exact .inl rfl
        · cases stepped
  | handle index =>
      simp only [Gateway.step] at stepped
      split at stepped
      · cases stepped
      · split at stepped
        · cases stepped
          exact .inl rfl
        · cases stepped

/-- Accounts are neither removed nor renumbered, and stay well formed. -/
theorem step_grows {action : GatewayAction}
    (wellFormed : gateway.registration.accounts.WellFormed)
    (stepped : Gateway.step libraries tokens gateway action =
      some (next, events)) :
    next.registration.accounts.WellFormed ∧
      gateway.registration.accounts.Grows next.registration.accounts := by
  rcases step_registration stepped with same | ⟨_, _, changed⟩
  · rw [same]
    exact ⟨wellFormed, .refl _⟩
  · have accounts := Registration.accountStep wellFormed changed
    exact ⟨accounts.wellFormed wellFormed, accounts.grows wellFormed⟩

theorem handling_eq {index number uid : Nat} {handler : String}
    (handling : gateway.handling index handler = some (number, uid)) :
    ∃ request, gateway.requests[index]? = some request ∧
      request.stage = .handling ∧ request.endpoint.handler = handler ∧
      request.uid = some uid ∧ request.number = number := by
  obtain ⟨request, found, rest⟩ := Option.bind_eq_some_iff.mp handling
  split at rest
  · rename_i both
    obtain ⟨user, known, same⟩ := Option.map_eq_some_iff.mp rest
    cases same
    exact ⟨request, found, both.1, both.2, known, rfl⟩
  · cases rest

theorem step_handle {index : Nat} {request : Request}
    (found : gateway.requests[index]? = some request)
    (stage : request.stage = .handling) :
    Gateway.step libraries tokens gateway (.handle index) =
      some (gateway.respond index,
        [.handled request.number request.endpoint.handler request.key
          request.uid gateway.now]) := by
  simp only [Gateway.step, found, stage]
  rfl

end Gateway

end HttpGateway

end TinyChat
