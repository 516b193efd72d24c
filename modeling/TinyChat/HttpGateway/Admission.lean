import TinyChat.HttpGateway.Requests

/-!
# What lets a request through

Every event of a run is justified by the events before it: a handler runs
for a user only after a login for the confirmed account, and after every
layer of its endpoint has let the request through.
-/

namespace TinyChat

namespace HttpGateway

open Transition Auth Redis User

namespace Stage

/-- The layers that a request has behind it. -/
def rank : Stage → Nat
  | .authenticating => 0
  | .ipLimiting => 1
  | .apiLimiting => 2
  | .handling => 3

end Stage

/-- What the layers that a request has behind it have said. -/
structure Request.Sound (trace : List GatewayEvent) (request : Request) :
    Prop where
  known : request.endpoint ∈ endpoints
  passed : ∃ time, .passed request.number request.key time ∈ trace
  authenticated : request.endpoint.authenticated = true →
    1 ≤ request.stage.rank → ∃ user token time, request.uid = some user ∧
      .authenticated request.number user token time ∈ trace
  ipLimited : ∀ limit ∈ request.endpoint.ipLimit,
    2 ≤ request.stage.rank → ∃ time, .ipLimited request.number true
      request.key limit.blockedTime time .allowed ∈ trace
  apiLimited : ∀ limit ∈ request.endpoint.apiLimit,
    3 ≤ request.stage.rank → ∃ time, .apiLimited request.number true
      request.endpoint.handler ⟨time, 1, .allowed⟩ ∈ trace

theorem Request.Sound.grow {trace : List GatewayEvent} {request : Request}
    (sound : request.Sound trace) (events : List GatewayEvent) :
    request.Sound (trace ++ events) where
  known := sound.known
  passed := by
    obtain ⟨time, passed⟩ := sound.passed
    exact ⟨time, List.mem_append_left _ passed⟩
  authenticated := by
    intro required reached
    obtain ⟨user, token, time, same, member⟩ :=
      sound.authenticated required reached
    exact ⟨user, token, time, same, List.mem_append_left _ member⟩
  ipLimited := by
    intro limit limited reached
    obtain ⟨time, member⟩ := sound.ipLimited limit limited reached
    exact ⟨time, List.mem_append_left _ member⟩
  apiLimited := by
    intro limit limited reached
    obtain ⟨time, member⟩ := sound.apiLimited limit limited reached
    exact ⟨time, List.mem_append_left _ member⟩

namespace Endpoint

variable {endpoint : Endpoint}

theorem afterIpLimiter_rank (endpoint : Endpoint) :
    2 ≤ endpoint.afterIpLimiter.rank ∧
      ∀ limit ∈ endpoint.apiLimit, ¬ 3 ≤ endpoint.afterIpLimiter.rank := by
  unfold afterIpLimiter
  cases limited : endpoint.apiLimit with
  | none => simp [Stage.rank]
  | some limit => simp [Stage.rank]

theorem afterAuthentication_rank (endpoint : Endpoint) :
    1 ≤ endpoint.afterAuthentication.rank ∧
      (∀ limit ∈ endpoint.ipLimit,
        ¬ 2 ≤ endpoint.afterAuthentication.rank) ∧
      ∀ limit ∈ endpoint.apiLimit,
        ¬ 3 ≤ endpoint.afterAuthentication.rank := by
  obtain ⟨above, below⟩ := endpoint.afterIpLimiter_rank
  unfold afterAuthentication
  cases limited : endpoint.ipLimit with
  | none =>
      simp only [Option.isSome_none, Bool.false_eq_true, if_false]
      refine ⟨by omega, ?_, below⟩
      intro limit absent
      cases absent
  | some limit => simp [Stage.rank]

theorem afterAdmission_rank (endpoint : Endpoint) :
    (endpoint.authenticated = true → ¬ 1 ≤ endpoint.afterAdmission.rank) ∧
      (∀ limit ∈ endpoint.ipLimit, ¬ 2 ≤ endpoint.afterAdmission.rank) ∧
      ∀ limit ∈ endpoint.apiLimit, ¬ 3 ≤ endpoint.afterAdmission.rank := by
  obtain ⟨_, ip, api⟩ := endpoint.afterAuthentication_rank
  unfold afterAdmission
  cases endpoint.authenticated with
  | false =>
      simp only [Bool.false_eq_true, if_false]
      refine ⟨?_, ip, api⟩
      intro absent
      cases absent
  | true => simp [Stage.rank]

end Endpoint

/-! ## Blocks -/

/-- A script blocks an address only with its answer, and does not extend a
block that stands. -/
theorem ipRatelimiter_blockedUntil (limit : IpLimit) (current : Int)
    (keys : IpKeys) :
    (ipRatelimiter limit current keys).1.blockedUntil =
      if (ipRatelimiter limit current keys).2 = .blocked ∧
        ∀ last ∈ keys.blockedUntil, last < current
      then some (current + limit.blockedTime * 1000)
      else keys.blockedUntil := by
  unfold ipRatelimiter
  simp only
  split
  · simp
  · split
    · unfold IpKeys.block IpKeys.expired
      cases standing : keys.blockedUntil with
      | none => simp
      | some last =>
          by_cases passed : last < current
          · simp [passed]
          · simp [passed]
    · split
      · simp
      · simp

@[simp] theorem purge_blockedUntil (keys : IpKeys) (current : Int) :
    (keys.purge current).blockedUntil = keys.blockedUntil := by
  unfold IpKeys.purge
  split <;> rfl

theorem blockedAfter_ipLimited (key other : String) (standing : Option Int)
    (number : Nat) (answered : Bool) (blockedTime time : Int)
    (status : RatelimiterStatus) :
    blockedAfter key standing
        (.ipLimited number answered other blockedTime time status) =
      if other = key ∧ status = .blocked ∧ ∀ last ∈ standing, last < time
      then some (time + blockedTime * 1000)
      else standing := by
  cases status with
  | allowed => simp [blockedAfter]
  | rejected => simp [blockedAfter]
  | blocked => simp [blockedAfter]

theorem blockedUntil_append (trace events : List GatewayEvent)
    (key : String) :
    blockedUntil (trace ++ events) key =
      events.foldl (blockedAfter key) (blockedUntil trace key) :=
  List.foldl_append

theorem foldl_account (key : String) (standing : Option Int)
    (events : List AccountEvent) :
    (events.map .account).foldl (blockedAfter key) standing = standing := by
  induction events with
  | nil => rfl
  | cons event events induction => exact induction

theorem accountEvents_append (trace events : List GatewayEvent) :
    accountEvents (trace ++ events) =
      accountEvents trace ++ accountEvents events :=
  List.filterMap_append

theorem accountEvents_map (events : List AccountEvent) :
    accountEvents (events.map .account) = events := by
  simp [accountEvents, List.filterMap_map]

/-! ## The invariant -/

theorem registration_now {libraries : Libraries}
    {registration next : Registration} {action : RegistrationAction}
    {events : List AccountEvent}
    (stepped : Registration.step libraries registration action =
      some (next, events)) : registration.now ≤ next.now := by
  cases action with
  | wait elapsed =>
      cases stepped
      exact Int.le_add_of_nonneg_right (Int.natCast_nonneg _)
  | userRegister request salt =>
      cases stepped
      exact Int.le_refl _
  | iterate index skipped uid ended =>
      simp only [Registration.step] at stepped
      split at stepped
      · cases stepped
      · cases stepped
        unfold Registration.afterIteration
        split <;> exact Int.le_refl _
  | authRegister index server stamp =>
      simp only [Registration.step] at stepped
      split at stepped
      · cases stepped
      · cases stepped
        exact Int.le_refl _
  | authRegisterConfirm server token =>
      simp only [Registration.step] at stepped
      split at stepped
      · cases stepped
        exact Int.le_refl _
      · cases stepped
        exact Int.le_refl _
  | userRegisterConfirm index ended =>
      simp only [Registration.step] at stepped
      split at stepped
      · cases stepped
      · cases stepped
        exact Int.le_refl _
  | userLogin email password ended =>
      cases stepped
      exact Int.le_refl _

/-- What is known of a token: it was returned by a login, and expires ten
days later. -/
def AccessToken.Known (tokens : TokenLibraries)
    (trace : List GatewayEvent) (now : Int) (access : AccessToken) : Prop :=
  access.token = tokens.encode access.uid access.exp ∧
    ∃ email password start,
      .loggedIn access.uid email password access.token start ∈ trace ∧
        start ≤ now ∧ access.exp * second ≤
          tokens.epoch + start + expirationDelta * second

theorem AccessToken.Known.grow {tokens : TokenLibraries}
    {trace : List GatewayEvent} {now later : Int} {access : AccessToken}
    (known : access.Known tokens trace now) (events : List GatewayEvent)
    (passed : now ≤ later) : access.Known tokens (trace ++ events) later := by
  obtain ⟨token, email, password, start, member, before, exp⟩ := known
  exact ⟨token, email, password, start, List.mem_append_left _ member,
    Int.le_trans before passed, exp⟩

/-- What the events say of a state. -/
structure Tracked (libraries : Libraries) (tokens : TokenLibraries)
    (trace : List GatewayEvent) (gateway : Gateway) : Prop where
  accounts : AnyRun (Registration.step libraries) {} (accountEvents trace)
    gateway.registration
  tokens : ∀ access ∈ gateway.tokens,
    access.Known tokens trace gateway.now
  blocks : ∀ key, (gateway.keys key).blockedUntil = blockedUntil trace key
  requests : ∀ request ∈ gateway.requests, request.Sound trace
  numbers : (gateway.requests.map Request.number).Nodup
  below : ∀ request ∈ gateway.requests, request.number < gateway.next
  handled : ∀ number handler key uid time,
    .handled number handler key uid time ∈ trace →
      number < gateway.next ∧
        ∀ request ∈ gateway.requests, request.number ≠ number

/-- Events that say nothing of accounts, blocks and handlers. -/
structure Inert (events : List GatewayEvent) : Prop where
  accounts : accountEvents events = []
  blocks : ∀ key standing,
    events.foldl (blockedAfter key) standing = standing
  handled : ∀ number handler key uid time,
    .handled number handler key uid time ∉ events

theorem inert_answered (number status : Nat) :
    Inert [.answered number status] where
  accounts := rfl
  blocks := fun _ _ => rfl
  handled := by simp

namespace Tracked

variable {libraries : Libraries} {tokens : TokenLibraries}
  {trace events : List GatewayEvent} {gateway next : Gateway}
  {request : Request} {index : Nat}

theorem empty : Tracked libraries tokens [] {} where
  accounts := .refl
  tokens := fun _ member => absurd member List.not_mem_nil
  blocks := fun _ => rfl
  requests := fun _ member => absurd member List.not_mem_nil
  numbers := List.nodup_nil
  below := fun _ member => absurd member List.not_mem_nil
  handled := fun _ _ _ _ _ member => absurd member List.not_mem_nil

theorem note (tracked : Tracked libraries tokens trace gateway)
    (inert : Inert events) :
    Tracked libraries tokens (trace ++ events) gateway where
  accounts := by
    rw [accountEvents_append, inert.accounts, List.append_nil]
    exact tracked.accounts
  tokens := by
    intro access member
    exact (tracked.tokens access member).grow events (Int.le_refl _)
  blocks := by
    intro key
    rw [blockedUntil_append, inert.blocks]
    exact tracked.blocks key
  requests := by
    intro request member
    exact (tracked.requests request member).grow events
  numbers := tracked.numbers
  below := tracked.below
  handled := by
    intro number handler key uid time member
    rcases List.mem_append.mp member with earlier | new
    · exact tracked.handled number handler key uid time earlier
    · exact absurd new (inert.handled number handler key uid time)

theorem map_number_set {requests : List Request}
    (found : requests[index]? = some request) {changed : Request}
    (same : changed.number = request.number) :
    (requests.set index changed).map Request.number =
      requests.map Request.number := by
  have listed : (requests.map Request.number)[index]? =
      some request.number := by
    rw [List.getElem?_map, found]
    rfl
  obtain ⟨bound, here⟩ := List.getElem?_eq_some_iff.mp listed
  rw [List.map_set, same, ← here, List.set_getElem_self]

theorem setRequest (tracked : Tracked libraries tokens trace gateway)
    (found : gateway.requests[index]? = some request) {changed : Request}
    (same : changed.number = request.number)
    (sound : changed.Sound trace) :
    Tracked libraries tokens trace (gateway.setRequest index changed) where
  accounts := tracked.accounts
  tokens := tracked.tokens
  blocks := tracked.blocks
  requests := by
    intro other member
    rcases List.mem_or_eq_of_mem_set member with earlier | rfl
    · exact tracked.requests other earlier
    · exact sound
  numbers := by
    simp only [Gateway.setRequest]
    rw [map_number_set found same]
    exact tracked.numbers
  below := by
    intro other member
    rcases List.mem_or_eq_of_mem_set member with earlier | rfl
    · exact tracked.below other earlier
    · rw [same]
      exact tracked.below request (List.mem_of_getElem? found)
  handled := by
    intro number handler key uid time handled
    obtain ⟨below, others⟩ :=
      tracked.handled number handler key uid time handled
    refine ⟨below, ?_⟩
    intro other member
    rcases List.mem_or_eq_of_mem_set member with earlier | rfl
    · exact others other earlier
    · rw [same]
      exact others request (List.mem_of_getElem? found)

theorem respond (tracked : Tracked libraries tokens trace gateway)
    (index : Nat) :
    Tracked libraries tokens trace (gateway.respond index) where
  accounts := tracked.accounts
  tokens := tracked.tokens
  blocks := tracked.blocks
  requests := fun other member =>
    tracked.requests other (List.mem_of_mem_eraseIdx member)
  numbers := tracked.numbers.sublist
    ((List.eraseIdx_sublist _ _).map Request.number)
  below := fun other member =>
    tracked.below other (List.mem_of_mem_eraseIdx member)
  handled := by
    intro number handler key uid time handled
    obtain ⟨below, others⟩ :=
      tracked.handled number handler key uid time handled
    exact ⟨below, fun other member =>
      others other (List.mem_of_mem_eraseIdx member)⟩

theorem proceed (tracked : Tracked libraries tokens trace gateway)
    (found : gateway.requests[index]? = some request) (stage : Stage)
    (answer : Option Nat)
    (sound : answer = none →
      { request with stage, entered := gateway.now }.Sound trace) :
    let proceeded := gateway.proceed index request stage answer
    Tracked libraries tokens (trace ++ proceeded.2) proceeded.1 ∧
      EachEvent (Justified libraries) trace proceeded.2 := by
  cases answer with
  | none =>
      simp only [Gateway.proceed, List.append_nil]
      exact ⟨tracked.setRequest found rfl (sound rfl), trivial⟩
  | some status =>
      exact ⟨(tracked.respond index).note (inert_answered _ _), trivial,
        trivial⟩

theorem abandon (tracked : Tracked libraries tokens trace gateway)
    (request : Request) :
    Tracked libraries tokens trace (gateway.abandon request) :=
  ⟨tracked.accounts, tracked.tokens, tracked.blocks, tracked.requests,
    tracked.numbers, tracked.below, tracked.handled⟩

theorem runIpLimiter (tracked : Tracked libraries tokens trace gateway)
    (request : Request) (limit : IpLimit) (answered : Bool) :
    let ran := gateway.runIpLimiter request limit
    Tracked libraries tokens
      (trace ++ [gateway.ipLimited request limit answered ran.2]) ran.1 := by
  intro ran
  constructor
  case accounts =>
    rw [accountEvents_append]
    exact (List.append_nil _).symm ▸ tracked.accounts
  case tokens =>
    intro access member
    exact (tracked.tokens access member).grow _ (Int.le_refl _)
  case blocks =>
    intro key
    rw [blockedUntil_append, ← tracked.blocks]
    simp only [List.foldl_cons, List.foldl_nil, Gateway.ipLimited,
      blockedAfter_ipLimited, ran, Gateway.runIpLimiter]
    by_cases same : request.key = key
    · subst same
      simp [ipRatelimiter_blockedUntil]
    · rw [Function.update_of_ne (Ne.symm same), if_neg]
      exact fun both => same both.1
  case requests =>
    intro other member
    exact (tracked.requests other member).grow _
  case numbers => exact tracked.numbers
  case below => exact tracked.below
  case handled =>
    intro number handler key uid time member
    rcases List.mem_append.mp member with earlier | new
    · exact tracked.handled number handler key uid time earlier
    · cases List.mem_singleton.mp new

theorem runApiLimiter (tracked : Tracked libraries tokens trace gateway)
    (request : Request) (limit : TokenLimit) (answered : Bool) :
    let ran := gateway.runApiLimiter request limit
    Tracked libraries tokens
      (trace ++ [Gateway.apiLimited request answered ran.2]) ran.1 := by
  intro ran
  have noted : Tracked libraries tokens
      (trace ++ [Gateway.apiLimited request answered ran.2]) gateway :=
    tracked.note ⟨rfl, fun _ _ => rfl, by simp [Gateway.apiLimited]⟩
  exact ⟨noted.accounts, noted.tokens, noted.blocks, noted.requests,
    noted.numbers, noted.below, noted.handled⟩

/-! ## Authentication -/

/-- A token is refused, or it was returned by a login and has not expired,
so that it is never refreshed. -/
theorem authToken_cases (lawful : tokens.Lawful)
    (tracked : Tracked libraries tokens trace gateway) {token : String}
    (signed : ∀ uid exp,
      tokens.decode (gateway.wall tokens) token = .payload uid exp →
        ∃ access ∈ gateway.tokens, access.token = token) :
    (gateway.authToken tokens token).status = .failed ∨
      (gateway.authToken tokens token).status = .success ∧
        ∃ access ∈ gateway.tokens, access.token = token ∧
          (gateway.authToken tokens token).uid = access.uid ∧
          gateway.wall tokens < access.exp * second := by
  unfold Gateway.authToken Auth.authToken authenticate
  cases decoded : tokens.decode (gateway.wall tokens) token with
  | invalidSignature => exact .inl rfl
  | invalidToken => exact .inl rfl
  | otherError => exact .inl rfl
  | payload uid exp =>
      obtain ⟨access, member, rfl⟩ := signed uid exp decoded
      rw [(tracked.tokens access member).1, lawful] at decoded
      split at decoded
      · rename_i within
        cases decoded
        have fresh : access.exp > gateway.wall tokens / second - leeway := by
          unfold leeway
          unfold second at within ⊢
          omega
        simp only [if_pos fresh]
        exact .inr ⟨trivial, access, member, rfl, rfl, within⟩
      · cases decoded

theorem authenticateToken_logged (lawful : tokens.Lawful)
    (tracked : Tracked libraries tokens trace gateway)
    {authorization refresh : Option String} {service : Option Transport}
    {authRefresh : String → CallResult (AuthReply (String × String))}
    (signed : ∀ token ∈ authorization.bind bearer, ∀ uid exp,
      tokens.decode (gateway.wall tokens) token = .payload uid exp →
        ∃ access ∈ gateway.tokens, access.token = token)
    {authentication : Authentication}
    (ended : authenticateToken
      (service.map (fun transport token =>
        transport.carry (some (gateway.authToken tokens token))))
      authRefresh authorization refresh = authentication) {uid : Nat}
    (entered : authentication = .uid uid ∨ ∃ accessToken refreshToken,
      authentication = .refreshed uid accessToken refreshToken) :
    ∃ token, authorization.bind bearer = some token ∧
      ∃ access ∈ gateway.tokens, access.token = token ∧
        access.uid = uid ∧ gateway.wall tokens < access.exp * second := by
  rw [← ended] at entered
  unfold authenticateToken at entered
  cases authorization with
  | none => simp at entered
  | some field =>
      cases found : bearer field with
      | none => simp [found] at entered
      | some token =>
          have bearing : (some field).bind bearer = some token := found
          refine ⟨token, bearing, ?_⟩
          have cases := authToken_cases lawful tracked (signed token bearing)
          simp only [found] at entered
          cases service with
          | none => simp at entered
          | some transport =>
              cases transport with
              | timedOut => simp [Transport.carry] at entered
              | failed => simp [Transport.carry] at entered
              | answered =>
                  simp only [Option.map_some, Transport.carry] at entered
                  rcases cases with failed | ⟨success, access, member, rfl,
                    same, within⟩
                  · simp [failed] at entered
                  · simp only [success, Authentication.uid.injEq,
                      reduceCtorEq, exists_false, or_false] at entered
                    exact ⟨access, member, rfl, same.symm.trans entered,
                      within⟩

/-! ## A step -/

theorem account (tracked : Tracked libraries tokens trace gateway)
    {action : RegistrationAction} {registration : Registration}
    {happened : List AccountEvent}
    (stepped : Registration.step libraries gateway.registration action =
      some (registration, happened)) :
    Tracked libraries tokens (trace ++ happened.map .account)
        { gateway with registration } ∧
      EachEvent (Justified libraries) trace (happened.map .account) := by
  constructor
  · constructor
    case accounts =>
      rw [accountEvents_append, accountEvents_map]
      exact tracked.accounts.act action trivial stepped
    case tokens =>
      intro access member
      exact (tracked.tokens access member).grow _ (registration_now stepped)
    case blocks =>
      intro key
      rw [blockedUntil_append, foldl_account]
      exact tracked.blocks key
    case requests =>
      intro request member
      exact (tracked.requests request member).grow _
    case numbers => exact tracked.numbers
    case below => exact tracked.below
    case handled =>
      intro number handler key uid time member
      rcases List.mem_append.mp member with earlier | new
      · exact tracked.handled number handler key uid time earlier
      · simp at new
  · apply eachEvent_of_forall
    intro before event member
    obtain ⟨_, _, rfl⟩ := List.mem_map.mp member
    trivial

theorem loggedIn (tracked : Tracked libraries tokens trace gateway)
    {email password : String} {user : UserDetailedInfo}
    (success : UserServicer.userLogin libraries.checkPasswordHash email
      password .answered gateway.registration.accounts = .success user) :
    let access := gateway.generateAccessToken tokens user.seq
    let event := GatewayEvent.loggedIn user.seq email password access.token
      gateway.now
    Tracked libraries tokens (trace ++ [event])
        { gateway with tokens := gateway.tokens ++ [access] } ∧
      Justified libraries trace event := by
  intro access event
  have inert : Inert [event] := ⟨rfl, fun _ _ => rfl, by simp [event]⟩
  have noted := tracked.note inert
  refine ⟨⟨noted.accounts, ?_, noted.blocks, noted.requests,
    noted.numbers, noted.below, noted.handled⟩, user, ?_, rfl⟩
  · intro other member
    rcases List.mem_append.mp member with earlier | new
    · exact noted.tokens other earlier
    · rw [List.mem_singleton.mp new]
      refine ⟨rfl, email, password, gateway.now,
        List.mem_append_right _ (List.mem_singleton_self _),
        Int.le_refl _, ?_⟩
      have whole : gateway.wall tokens / second * second ≤
          gateway.wall tokens := by
        unfold second
        omega
      simp only [access, Gateway.generateAccessToken, Int.add_mul]
      unfold Gateway.wall at whole ⊢
      omega
  · rw [← (Registration.run_remembers tracked.accounts).userLogin_eq email
      password]
    exact success

theorem userLogin_answered {check : String → String → Bool}
    {email password : String} {ended : StatementEnd} {accounts : Accounts}
    {user : UserDetailedInfo}
    (success : UserServicer.userLogin check email password ended accounts =
      .success user) :
    UserServicer.userLogin check email password .answered accounts =
      .success user := by
  cases ended with
  | unavailable => cases success
  | lost trouble executed => cases success
  | answered => exact success

theorem authLogin (tracked : Tracked libraries tokens trace gateway)
    {email password : String} {ended : StatementEnd} (stored : Bool)
    {reply : UserReply}
    (replied : UserServicer.userLogin libraries.checkPasswordHash email
      password ended gateway.registration.accounts = reply) :
    let login := gateway.authLogin tokens email password stored reply
    Tracked libraries tokens
        (trace ++ .account (.answered email password reply) :: login.2)
        login.1 ∧
      EachEvent (Justified libraries) trace
        (.account (.answered email password reply) :: login.2) := by
  have answered : Registration.step libraries gateway.registration
      (.userLogin email password ended) =
        some (gateway.registration, [.answered email password reply]) := by
    rw [← replied]
    rfl
  obtain ⟨noted, _⟩ := tracked.account answered
  intro login
  rw [List.append_cons]
  cases reply with
  | failure code =>
      simp only [login, Gateway.authLogin, List.append_nil]
      exact ⟨noted, trivial, trivial⟩
  | success user =>
      cases stored with
      | false =>
          simp only [login, Gateway.authLogin, Bool.false_eq_true, if_false,
            List.append_nil]
          exact ⟨noted, trivial, trivial⟩
      | true =>
          obtain ⟨returned, justified⟩ :=
            noted.loggedIn (userLogin_answered replied)
          exact ⟨returned, trivial, justified, trivial⟩

theorem blockedKey_none {key : String} {transport : Transport}
    (passed : allowOrDeny
      (transport.carry (some (gateway.blockedKey key))) = none) :
    ∀ last ∈ (gateway.keys key).blockedUntil, last < gateway.now := by
  cases transport with
  | timedOut => cases passed
  | failed => cases passed
  | answered =>
      simp only [Transport.carry, Gateway.blockedKey] at passed
      cases standing : (gateway.keys key).blockedUntil with
      | none =>
          intro last found
          cases found
      | some last =>
          rintro _ ⟨⟩
          by_contra standing'
          rw [standing] at passed
          simp only [if_neg standing'] at passed
          cases passed

theorem blockedKey_denied {key : String} {transport : Transport}
    (denied : allowOrDeny
      (transport.carry (some (gateway.blockedKey key))) = some 403) :
    ∃ last ∈ (gateway.keys key).blockedUntil, gateway.now ≤ last := by
  cases transport with
  | timedOut => cases denied
  | failed => cases denied
  | answered =>
      simp only [Transport.carry, Gateway.blockedKey] at denied
      cases standing : (gateway.keys key).blockedUntil with
      | none =>
          rw [standing] at denied
          cases denied
      | some last =>
          refine ⟨last, rfl, ?_⟩
          by_contra passed
          rw [standing] at denied
          simp only [if_pos (Int.not_le.mp passed)] at denied
          cases denied

theorem arrive (tracked : Tracked libraries tokens trace gateway)
    {request : Request} {time : Int} (fresh : request.number = gateway.next)
    (sound : request.Sound
      (trace ++ [.passed request.number request.key time])) :
    Tracked libraries tokens
      (trace ++ [.passed request.number request.key time])
      { gateway with
        requests := gateway.requests ++ [request]
        next := gateway.next + 1 } := by
  have inert : Inert [.passed request.number request.key time] :=
    ⟨rfl, fun _ _ => rfl, by simp⟩
  have noted := tracked.note inert
  constructor
  case accounts => exact noted.accounts
  case tokens => exact noted.tokens
  case blocks => exact noted.blocks
  case requests =>
    intro other member
    rcases List.mem_append.mp member with earlier | new
    · exact noted.requests other earlier
    · rw [List.mem_singleton.mp new]
      exact sound
  case numbers =>
    rw [List.map_append, List.map_singleton]
    refine List.nodup_append.mpr
      ⟨noted.numbers, List.nodup_singleton _, ?_⟩
    intro number member other new same
    obtain ⟨earlier, listed, rfl⟩ := List.mem_map.mp member
    have below := noted.below earlier listed
    rw [same, List.mem_singleton.mp new, fresh] at below
    exact Nat.lt_irrefl _ below
  case below =>
    intro other member
    rcases List.mem_append.mp member with earlier | new
    · exact Nat.lt_succ_of_lt (noted.below other earlier)
    · rw [List.mem_singleton.mp new, fresh]
      exact Nat.lt_succ_self _
  case handled =>
    intro number handler key uid time handled
    obtain ⟨below, others⟩ :=
      noted.handled number handler key uid time handled
    refine ⟨Nat.lt_succ_of_lt below, ?_⟩
    intro other member
    rcases List.mem_append.mp member with earlier | new
    · exact others other earlier
    · rw [List.mem_singleton.mp new, fresh]
      exact Nat.ne_of_gt below

theorem keepOut (tracked : Tracked libraries tokens trace gateway)
    (inert : Inert events) :
    Tracked libraries tokens (trace ++ events)
      { gateway with next := gateway.next + 1 } := by
  have noted := tracked.note inert
  refine ⟨noted.accounts, noted.tokens, noted.blocks, noted.requests,
    noted.numbers, ?_, ?_⟩
  · intro other member
    exact Nat.lt_succ_of_lt (noted.below other member)
  · intro number handler key uid time handled
    obtain ⟨below, others⟩ :=
      noted.handled number handler key uid time handled
    exact ⟨Nat.lt_succ_of_lt below, others⟩

theorem handle (tracked : Tracked libraries tokens trace gateway)
    (found : gateway.requests[index]? = some request) :
    Tracked libraries tokens
      (trace ++ [.handled request.number request.endpoint.handler
        request.key request.uid gateway.now])
      (gateway.respond index) := by
  have left := tracked.respond index
  constructor
  case accounts =>
    rw [accountEvents_append]
    exact (List.append_nil _).symm ▸ left.accounts
  case tokens =>
    intro access member
    exact (left.tokens access member).grow _ (Int.le_refl _)
  case blocks =>
    intro key
    rw [blockedUntil_append]
    exact left.blocks key
  case requests =>
    intro other member
    exact (left.requests other member).grow _
  case numbers => exact left.numbers
  case below => exact left.below
  case handled =>
    intro number handler key uid time member
    rcases List.mem_append.mp member with earlier | new
    · exact left.handled number handler key uid time earlier
    · cases List.mem_singleton.mp new
      refine ⟨tracked.below request (List.mem_of_getElem? found), ?_⟩
      intro other rest same
      obtain ⟨place, different, here⟩ :=
        List.mem_eraseIdx_iff_getElem?.mp rest
      have bound : place < (gateway.requests.map Request.number).length := by
        rw [List.length_map]
        exact (List.getElem?_eq_some_iff.mp here).1
      apply different
      apply (List.getElem?_inj bound tracked.numbers).mp
      rw [List.getElem?_map, List.getElem?_map, here, found]
      exact congrArg some same

theorem authenticated (tracked : Tracked libraries tokens trace gateway)
    (found : gateway.requests[index]? = some request) {token : String}
    {uid : Nat}
    (known : ∃ access ∈ gateway.tokens, access.token = token ∧
      access.uid = uid ∧ gateway.wall tokens < access.exp * second) :
    let event := GatewayEvent.authenticated request.number uid token
      gateway.now
    Tracked libraries tokens (trace ++ [event])
        (gateway.setRequest index { request with
          uid := some uid
          stage := request.endpoint.afterAuthentication
          entered := gateway.now }) ∧
      Justified libraries trace event := by
  intro event
  obtain ⟨access, member, rfl, rfl, within⟩ := known
  obtain ⟨_, email, password, start, logged, before, exp⟩ :=
    tracked.tokens access member
  have inert : Inert [event] := ⟨rfl, fun _ _ => rfl, by simp [event]⟩
  have sound := (tracked.requests request
    (List.mem_of_getElem? found)).grow [event]
  obtain ⟨_, ip, api⟩ := request.endpoint.afterAuthentication_rank
  refine ⟨(tracked.note inert).setRequest found rfl
    ⟨sound.known, sound.passed, ?_, ?_, ?_⟩,
    email, password, start, logged, before, ?_⟩
  · intro _ _
    exact ⟨access.uid, access.token, gateway.now, rfl,
      List.mem_append_right _ (List.mem_singleton_self _)⟩
  · intro limit limited reached
    exact absurd reached (ip limit limited)
  · intro limit limited reached
    exact absurd reached (api limit limited)
  · unfold Gateway.wall at within
    omega

theorem authenticate (lawful : tokens.Lawful)
    (tracked : Tracked libraries tokens trace gateway)
    (found : gateway.requests[index]? = some request)
    (signed : ∀ token ∈ request.authorization.bind bearer, ∀ uid exp,
      tokens.decode (gateway.wall tokens) token = .payload uid exp →
        ∃ access ∈ gateway.tokens, access.token = token)
    (service : Option Transport)
    (authRefresh : String → CallResult (AuthReply (String × String))) :
    let entered := gateway.authenticated index request
      (request.authorization.bind bearer) (authenticateToken
        (service.map (fun transport token =>
          transport.carry (some (gateway.authToken tokens token))))
        authRefresh request.authorization request.refresh)
    Tracked libraries tokens (trace ++ entered.2) entered.1 ∧
      EachEvent (Justified libraries) trace entered.2 := by
  cases ended : authenticateToken
      (service.map (fun transport token =>
        transport.carry (some (gateway.authToken tokens token))))
      authRefresh request.authorization request.refresh with
  | uid uid =>
      obtain ⟨token, presented, known⟩ :=
        authenticateToken_logged lawful tracked signed ended (.inl rfl)
      simp only [Gateway.authenticated, presented, Option.getD_some]
      obtain ⟨kept, justified⟩ := tracked.authenticated found known
      exact ⟨kept, justified, trivial⟩
  | refreshed uid accessToken refreshToken =>
      obtain ⟨token, presented, known⟩ := authenticateToken_logged lawful
        tracked signed ended (.inr ⟨accessToken, refreshToken, rfl⟩)
      simp only [Gateway.authenticated, presented, Option.getD_some]
      obtain ⟨kept, justified⟩ := tracked.authenticated found known
      exact ⟨kept, justified, trivial⟩
  | error status info =>
      exact ⟨(tracked.respond index).note (inert_answered _ _), trivial,
        trivial⟩
  | raised =>
      exact ⟨(tracked.respond index).note (inert_answered _ _), trivial,
        trivial⟩

theorem ipLimiter_none {called : CallResult RatelimiterStatus}
    (passed : ipLimiter called = none) : called = .success .allowed := by
  cases called with
  | success status =>
      cases status with
      | allowed => rfl
      | rejected => cases passed
      | blocked => cases passed
  | timeout => cases passed
  | failed => cases passed

theorem apiLimiter_none {called : CallResult RatelimiterStatus}
    (passed : apiLimiter called = none) : called = .success .allowed := by
  cases called with
  | success status =>
      cases status with
      | allowed => rfl
      | rejected => cases passed
      | blocked => cases passed
  | timeout => cases passed
  | failed => cases passed

theorem carry_none {α : Type} {transport : Transport} {data : α} :
    transport.carry none ≠ .success data := by
  intro carried
  cases transport with
  | answered => cases carried
  | timedOut => cases carried
  | failed => cases carried

theorem ipLimit (tracked : Tracked libraries tokens trace gateway)
    (found : gateway.requests[index]? = some request) {limit : IpLimit}
    (stage : request.stage = .ipLimiting)
    (limited : request.endpoint.ipLimit = some limit) :
    let ran := gateway.runIpLimiter request limit
    let proceeded := ran.1.proceed index request
      request.endpoint.afterIpLimiter (ipLimiter (.success ran.2))
    Tracked libraries tokens
        (trace ++ gateway.ipLimited request limit true ran.2 :: proceeded.2)
        proceeded.1 ∧
      EachEvent (Justified libraries) trace
        (gateway.ipLimited request limit true ran.2 :: proceeded.2) := by
  intro ran proceeded
  have executed := tracked.runIpLimiter request limit true
  have sound := executed.requests request (List.mem_of_getElem? found)
  obtain ⟨above, api⟩ := request.endpoint.afterIpLimiter_rank
  obtain ⟨kept, justified⟩ := executed.proceed found
    request.endpoint.afterIpLimiter (ipLimiter (.success ran.2)) (by
      intro passed
      refine ⟨sound.known, sound.passed, ?_, ?_, ?_⟩
      · intro required _
        apply sound.authenticated required
        rw [stage]
        decide
      · intro other also _
        rw [limited] at also
        cases also
        have allowed : ran.2 = .allowed :=
          CallResult.success.inj (ipLimiter_none passed)
        refine ⟨gateway.now, ?_⟩
        rw [← allowed]
        exact List.mem_append_right _ (List.mem_singleton_self _)
      · intro other also reached
        exact absurd reached (api other also))
  rw [List.append_cons]
  exact ⟨kept, trivial, justified⟩

theorem apiLimit (tracked : Tracked libraries tokens trace gateway)
    (found : gateway.requests[index]? = some request) (limit : TokenLimit)
    (stage : request.stage = .apiLimiting) :
    let ran := gateway.runApiLimiter request limit
    let proceeded := ran.1.proceed index request .handling
      (apiLimiter (.success ran.2))
    Tracked libraries tokens
        (trace ++ Gateway.apiLimited request true ran.2 :: proceeded.2)
        proceeded.1 ∧
      EachEvent (Justified libraries) trace
        (Gateway.apiLimited request true ran.2 :: proceeded.2) := by
  intro ran proceeded
  have executed := tracked.runApiLimiter request limit true
  have sound := executed.requests request (List.mem_of_getElem? found)
  obtain ⟨kept, justified⟩ := executed.proceed found .handling
    (apiLimiter (.success ran.2)) (by
      intro passed
      refine ⟨sound.known, sound.passed, ?_, ?_, ?_⟩
      · intro required _
        apply sound.authenticated required
        rw [stage]
        decide
      · intro other also _
        apply sound.ipLimited other also
        rw [stage]
        decide
      · intro other also _
        have allowed : ran.2 = .allowed :=
          CallResult.success.inj (apiLimiter_none passed)
        refine ⟨request.entered, ?_⟩
        rw [← allowed]
        exact List.mem_append_right _ (List.mem_singleton_self _))
  rw [List.append_cons]
  exact ⟨kept, trivial, justified⟩

variable {action : GatewayAction}

theorem step (lawful : tokens.Lawful)
    (tracked : Tracked libraries tokens trace gateway)
    (signed : Gateway.Signed tokens gateway action)
    (stepped : Gateway.step libraries tokens gateway action =
      some (next, events)) :
    Tracked libraries tokens (trace ++ events) next ∧
      EachEvent (Justified libraries) trace events := by
  cases action with
  | account action =>
      obtain ⟨moved, happened, equality⟩ :=
        Option.map_eq_some_iff.mp stepped
      cases equality
      exact tracked.account happened
  | authLogin email password ended stored =>
      cases stepped
      exact tracked.authLogin stored rfl
  | arrive address place authorization refresh transport =>
      simp only [Gateway.step] at stepped
      split at stepped
      · cases stepped
      · rename_i endpoint listed
        split at stepped
        · rename_i passed
          cases stepped
          obtain ⟨auth, ip, api⟩ := endpoint.afterAdmission_rank
          let request : Request :=
            { number := gateway.next, key := tokens.md5 address, endpoint
              authorization, refresh, stage := endpoint.afterAdmission
              entered := gateway.now }
          have sound : request.Sound
              (trace ++ [.passed request.number request.key gateway.now]) :=
            { known := List.mem_of_getElem? listed
              passed := ⟨gateway.now,
                List.mem_append_right _ (List.mem_singleton_self _)⟩
              authenticated := fun required reached =>
                absurd reached (auth required)
              ipLimited := fun limit limited reached =>
                absurd reached (ip limit limited)
              apiLimited := fun limit limited reached =>
                absurd reached (api limit limited) }
          refine ⟨tracked.arrive rfl sound, ?_, trivial⟩
          rw [Justified, ← tracked.blocks]
          exact blockedKey_none passed
        · rename_i status denied
          cases stepped
          by_cases forbidden : status = 403
          · rw [if_pos forbidden]
            rw [forbidden] at denied
            refine ⟨tracked.keepOut ⟨rfl, fun _ _ => rfl, by simp⟩, ?_,
              trivial⟩
            rw [Justified, ← tracked.blocks]
            exact blockedKey_denied denied
          · rw [if_neg forbidden]
            exact ⟨tracked.keepOut (inert_answered _ _), trivial, trivial⟩
  | authenticate index service authRefresh =>
      simp only [Gateway.step] at stepped
      split at stepped
      · cases stepped
      · rename_i request found
        split at stepped
        · rename_i stage
          have bearing : ∀ token ∈ request.authorization.bind bearer,
              ∀ uid exp, tokens.decode (gateway.wall tokens) token =
                .payload uid exp →
                  ∃ access ∈ gateway.tokens, access.token = token := by
            intro token presented uid exp decoded
            have made := signed request found token presented
            unfold Gateway.Made at made
            rw [decoded] at made
            exact made
          have entered := tracked.authenticate lawful found bearing service
            (fun _ => authRefresh)
          rw [Option.some.inj stepped] at entered
          exact entered
        · cases stepped
  | executeIpLimiter index =>
      simp only [Gateway.step] at stepped
      split at stepped
      · cases stepped
      · rename_i request found
        split at stepped
        · rename_i limit _ _
          cases stepped
          exact ⟨tracked.runIpLimiter request limit false, trivial, trivial⟩
        · cases stepped
  | ipLimit index transport =>
      simp only [Gateway.step] at stepped
      split at stepped
      · cases stepped
      · rename_i request found
        split at stepped
        · rename_i limit stage limited
          split at stepped
          · cases stepped
            exact tracked.ipLimit found stage limited
          · have lost := (tracked.abandon request).proceed found
              request.endpoint.afterIpLimiter
              (ipLimiter (transport.carry none))
              (fun passed => absurd (ipLimiter_none passed) carry_none)
            rw [Option.some.inj stepped] at lost
            exact lost
        · cases stepped
  | executeApiLimiter index =>
      simp only [Gateway.step] at stepped
      split at stepped
      · cases stepped
      · rename_i request found
        split at stepped
        · rename_i limit _ _
          cases stepped
          exact ⟨tracked.runApiLimiter request limit false, trivial,
            trivial⟩
        · cases stepped
  | apiLimit index transport =>
      simp only [Gateway.step] at stepped
      split at stepped
      · cases stepped
      · rename_i request found
        split at stepped
        · rename_i limit stage limited
          split at stepped
          · cases stepped
            exact tracked.apiLimit found limit stage
          · have lost := (tracked.abandon request).proceed found .handling
              (apiLimiter (transport.carry none))
              (fun passed => absurd (apiLimiter_none passed) carry_none)
            rw [Option.some.inj stepped] at lost
            exact lost
        · cases stepped
  | executeAbandoned index =>
      simp only [Gateway.step] at stepped
      split at stepped
      · cases stepped
      · rename_i request left
        split at stepped
        · rename_i own _ _
          cases stepped
          exact ⟨tracked.runIpLimiter request own false, trivial, trivial⟩
        · rename_i own _ _
          cases stepped
          exact ⟨tracked.runApiLimiter request own false, trivial, trivial⟩
        · cases stepped
  | handle index =>
      simp only [Gateway.step] at stepped
      split at stepped
      · cases stepped
      · rename_i request found
        split at stepped
        · rename_i stage
          cases stepped
          have sound := tracked.requests request
            (List.mem_of_getElem? found)
          refine ⟨tracked.handle found, ⟨?_, sound.passed,
            request.endpoint, sound.known, rfl, ?_, ?_, ?_⟩, trivial⟩
          · intro other address user time handled
            exact (tracked.handled _ _ _ _ _ handled).2 request
              (List.mem_of_getElem? found) rfl
          · intro required
            apply sound.authenticated required
            rw [stage]
            decide
          · intro limit limited
            apply sound.ipLimited limit limited
            rw [stage]
            decide
          · intro limit limited
            apply sound.apiLimited limit limited
            rw [stage]
            decide
        · cases stepped

end Tracked

/-- If tokens cannot be forged, then every event of a run is justified by the
events before it. -/
theorem requests_justified {libraries : Libraries} {tokens : TokenLibraries}
    {trace : List GatewayEvent} {gateway : Gateway} (lawful : tokens.Lawful)
    (run : Run (Gateway.step libraries tokens) (Gateway.Signed tokens) {}
      trace gateway) :
    EachEvent (Justified libraries) [] trace := by
  have both : Tracked libraries tokens trace gateway ∧
      EachEvent (Justified libraries) [] trace := by
    induction run with
    | refl => exact ⟨.empty, trivial⟩
    | snoc _ signed stepped induction =>
        obtain ⟨tracked, justified⟩ := induction
        obtain ⟨kept, later⟩ := tracked.step lawful signed stepped
        exact ⟨kept, (eachEvent_append _ _ _).mpr ⟨justified, later⟩⟩
  exact both.2

/-- A token that counts from ten days on. -/
def sampleTokens : TokenLibraries where
  encode uid exp := String.ofList (List.replicate uid 'a' ++
    List.replicate (exp - expirationDelta).toNat 'b' ++
    List.replicate (expirationDelta - exp).toNat 'c')
  decode wall token :=
    let marks := token.toList
    let exp := expirationDelta + marks.count 'b' - marks.count 'c'
    if wall < exp * second then .payload (some (marks.count 'a')) (some exp)
    else .invalidToken
  epoch := 0
  md5 address := address

theorem sampleTokens_lawful : sampleTokens.Lawful := by
  intro wall uid exp
  have same : expirationDelta + max (exp - expirationDelta) 0 -
      max (expirationDelta - exp) 0 = exp := by
    omega
  simp [sampleTokens, List.count_replicate, same]

/-- A user who has confirmed the account logs in and queries another one. -/
def sampleRequests : List GatewayAction :=
  (sampleActions ++ sampleConfirmation).map .account ++
    [.authLogin "a@b" "two" .answered true,
      .arrive "here" 3 (some "Bearer a") none .answered,
      .authenticate 0 (some .answered) .failed, .ipLimit 0 .answered,
      .apiLimit 0 .answered, .handle 0]

theorem requests_justified_sample :
    ∃ trace, .handled 0 "query_user" "here" (some 1) 0 ∈ trace ∧
      EachEvent (Justified sampleLibraries) [] trace := by
  obtain ⟨trace, _, run, handled⟩ :
      ∃ (trace : List GatewayEvent) (gateway : Gateway),
        Run (Gateway.step sampleLibraries sampleTokens)
          (Gateway.Signed sampleTokens) {} trace gateway ∧
        .handled 0 "query_user" "here" (some 1) 0 ∈ trace := by
    apply Run.exists_both_of_exec sampleRequests
    decide +kernel
  exact ⟨trace, handled, requests_justified sampleTokens_lawful run⟩

end HttpGateway

end TinyChat
