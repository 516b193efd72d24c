import TinyChat.Auth.Refresh
import TinyChat.Auth.Routes
import TinyChat.Auth.Token
import TinyChat.Redis.TokenBucket

/-!
# Requests to the HTTP gateway

A request passes the filter of its address, the check of its access token and
two rate limiters before its handler runs.  The requests interleave, and a
call of a service or of Redis may be lost on its way.
-/

namespace TinyChat

namespace HttpGateway

open Transition Auth Redis User

/-- What a handler is wrapped into; the name of the handler is the tag of its
token bucket. -/
structure Endpoint where
  handler : String
  authenticated : Bool := false
  ipLimit : Option IpLimit := none
  apiLimit : Option TokenLimit := none

/-- The routes of `create_worker`. -/
def endpoints : List Endpoint :=
  [{ handler := "login"
     ipLimit := some { traceCycle := 60, traceThreshold := 5 }
     apiLimit := some { capacity := 1024, rate := 512 } },
   { handler := "register"
     ipLimit := some
       { traceCycle := 60, traceThreshold := 5, blockedTime := 86400 }
     apiLimit := some { capacity := 1024, rate := 256 } },
   { handler := "confirm" },
   { handler := "query_user"
     authenticated := true
     ipLimit := some
       { traceCycle := 60, traceThreshold := 15, blockedTime := 300 }
     apiLimit := some { capacity := 1024, rate := 512 } },
   { handler := "friend_request"
     authenticated := true
     ipLimit := some
       { slidingWindow := 5, traceCycle := 60, traceThreshold := 10
         blockedTime := 3600 }
     apiLimit := some { capacity := 1024, rate := 256 } },
   { handler := "friend_confirm"
     authenticated := true
     ipLimit := some
       { slidingWindow := 5, traceCycle := 60, traceThreshold := 10
         blockedTime := 3600 }
     apiLimit := some { capacity := 1024, rate := 256 } },
   { handler := "get_friends", authenticated := true },
   { handler := "pull_inbox", authenticated := true },
   { handler := "pull_sessions", authenticated := true }]

/-! ## The layers -/

/-- `AllowOrDenyMiddleware`: the status of its response, if it does not call
the handler. -/
def allowOrDeny : CallResult Data → Option Nat
  | .success (.text "") => none
  | .success _ => some 403
  | .timeout => some 504
  | .failed => some 502

/-- What `authenticate_token` returns or raises. -/
inductive Authentication where
  | uid (uid : Nat)
  | refreshed (uid : Nat) (accessToken refreshToken : String)
  | error (status : Nat) (info : String)
  | raised
  deriving DecidableEq

/-- The token of a field that starts with `Bearer `. -/
def bearer (field : String) : Option String :=
  if "Bearer ".toList.isPrefixOf field.toList then
    some (String.ofList (field.toList.drop 7))
  else none

/-- The end of `authenticate_token` for an expired token. -/
def refreshToken (uid : Nat) (refreshToken : Option String)
    (authRefresh : String → CallResult (AuthReply (String × String))) :
    Authentication :=
  match refreshToken with
  | none => .error 400 "missing refresh_token"
  | some presented =>
      match authRefresh presented with
      | .success (.success tokens) => .refreshed uid tokens.1 tokens.2
      | .success .timeout => .error 504 "user service timeout"
      | .success (.failed _) | .success (.expired _) =>
          .error 401 "invalid token"
      | .timeout => .error 504 "auth service is busy"
      | .failed => .error 400 "invalid request"

/-- `authenticate_token`; the service may be missing. -/
def authenticateToken (authToken : Option (String → CallResult AuthTokenReply))
    (authRefresh : String → CallResult (AuthReply (String × String)))
    (authorization refresh : Option String) : Authentication :=
  match authorization with
  | none => .error 400 "missing access_token"
  | some field =>
      match bearer field with
      | none => .error 400 "invalid Authorization"
      | some token =>
          match authToken with
          | none => .raised
          | some authToken =>
              match authToken token with
              | .success reply =>
                  match reply.status with
                  | .success => .uid reply.uid
                  | .expired => refreshToken reply.uid refresh authRefresh
                  | .timeout => .error 504 "user service timeout"
                  | .failed => .error 401 "invalid token"
              | .timeout => .error 504 "auth service is busy"
              | .failed => .error 400 "invalid request"

/-- `ip_limiter`: the status of its response, if it does not call the
handler. -/
def ipLimiter : CallResult RatelimiterStatus → Option Nat
  | .success .allowed => none
  | .success .rejected => some 429
  | .success .blocked => some 403
  | .timeout => some 504
  | .failed => some 502

/-- `api_limiter`. -/
def apiLimiter : CallResult RatelimiterStatus → Option Nat
  | .success .allowed => none
  | .success _ => some 403
  | .timeout => some 504
  | .failed => some 502

/-! ## The system -/

/-- The token library with the wall clock at the start, and the hash of an
address. -/
structure TokenLibraries where
  encode : Nat → Int → String
  decode : Int → String → Decoded
  epoch : Int
  md5 : String → String

/-- The library reads its own tokens until they expire. -/
def TokenLibraries.Lawful (tokens : TokenLibraries) : Prop :=
  ∀ wall uid exp, tokens.decode wall (tokens.encode uid exp) =
    if wall < exp * second then .payload (some uid) (some exp)
    else .invalidToken

/-- `EXPIRATION_DELTA` and `LEEWAY`, in seconds. -/
def expirationDelta : Int := 864000

def leeway : Int := 60 * 3

/-- An access token and what it is for. -/
structure AccessToken where
  token : String
  uid : Nat
  exp : Int
  deriving DecidableEq

/-- The layer that a request has reached. -/
inductive Stage where
  | authenticating
  | ipLimiting
  | apiLimiting
  | handling
  deriving DecidableEq

namespace Endpoint

def afterIpLimiter (endpoint : Endpoint) : Stage :=
  if endpoint.apiLimit.isSome then .apiLimiting else .handling

def afterAuthentication (endpoint : Endpoint) : Stage :=
  if endpoint.ipLimit.isSome then .ipLimiting else endpoint.afterIpLimiter

def afterAdmission (endpoint : Endpoint) : Stage :=
  if endpoint.authenticated then .authenticating
  else endpoint.afterAuthentication

end Endpoint

/-- A request with the layer that it has reached, and the time at which it
has, which a limiter gives to its script. -/
structure Request where
  number : Nat
  key : String
  endpoint : Endpoint
  authorization : Option String
  refresh : Option String
  uid : Option Nat := none
  stage : Stage
  entered : Int

/-- The accounts with the clock, the access tokens, the keys of addresses and
handlers in Redis, the requests, and those that a limiter has not waited
for. -/
structure Gateway where
  registration : Registration := {}
  tokens : List AccessToken := []
  keys : String → IpKeys := fun _ => {}
  buckets : String → Option Bucket := fun _ => none
  requests : List Request := []
  abandoned : List Request := []
  next : Nat := 0

/-- A script may be executed without being answered, also repeatedly, and
also when its request has left. -/
inductive GatewayAction where
  | account (action : RegistrationAction)
  | authLogin (email password : String) (ended : StatementEnd)
      (stored : Bool)
  | arrive (address : String) (place : Nat)
      (authorization refresh : Option String) (transport : Transport)
  | authenticate (index : Nat) (service : Option Transport)
      (authRefresh : CallResult (AuthReply (String × String)))
  | executeIpLimiter (index : Nat)
  | ipLimit (index : Nat) (transport : Transport)
  | executeApiLimiter (index : Nat)
  | apiLimit (index : Nat) (transport : Transport)
  | executeAbandoned (index : Nat)
  | handle (index : Nat)

/-- A request is let through or kept out by the filter of its address, it is
authenticated, a script is executed for it and perhaps answered, and the
request is handled or answered with the status of a layer. -/
inductive GatewayEvent where
  | account (event : AccountEvent)
  | loggedIn (uid : Nat) (email password token : String) (time : Int)
  | passed (number : Nat) (key : String) (time : Int)
  | denied (number : Nat) (key : String) (time : Int)
  | authenticated (number uid : Nat) (token : String) (time : Int)
  | ipLimited (number : Nat) (answered : Bool) (key : String)
      (blockedTime time : Int) (status : RatelimiterStatus)
  | apiLimited (number : Nat) (answered : Bool) (handler : String)
      (call : TokenCall)
  | answered (number status : Nat)
  | handled (number : Nat) (handler key : String) (uid : Option Nat)
      (time : Int)
  deriving DecidableEq

namespace Gateway

def now (gateway : Gateway) : Int := gateway.registration.now

/-- What Redis has under the key that blocks an address. -/
def blockedKey (gateway : Gateway) (key : String) : Data :=
  match (gateway.keys key).blockedUntil with
  | none => .text ""
  | some last =>
      if last < gateway.now then .text "" else .bytes "1".toUTF8

/-- The request leaves with a response. -/
def respond (gateway : Gateway) (index : Nat) : Gateway :=
  { gateway with requests := gateway.requests.eraseIdx index }

def setRequest (gateway : Gateway) (index : Nat) (request : Request) :
    Gateway :=
  { gateway with requests := gateway.requests.set index request }

/-- The limiter of a request gives up its call. -/
def abandon (gateway : Gateway) (request : Request) : Gateway :=
  { gateway with abandoned := gateway.abandoned ++ [request] }

/-- The script `IP_RATELIMITER` is executed for a request.  Its time is taken
to be that of the execution. -/
def runIpLimiter (gateway : Gateway) (request : Request)
    (limit : IpLimit) : Gateway × RatelimiterStatus :=
  let answer := ipRatelimiter limit gateway.now
    ((gateway.keys request.key).purge gateway.now)
  ({ gateway with
      keys := Function.update gateway.keys request.key
        { answer.1 with now := some gateway.now } },
    answer.2)

/-- The script `TOKEN_RATELIMITER` is executed for a request, with the time
at which it has come to the limiter. -/
def runApiLimiter (gateway : Gateway) (request : Request)
    (limit : TokenLimit) : Gateway × RatelimiterStatus :=
  let answer := tokenRatelimiter limit request.entered 1
    (gateway.buckets request.endpoint.handler)
  ({ gateway with
      buckets := Function.update gateway.buckets request.endpoint.handler
        (some answer.1) },
    answer.2)

variable (libraries : Libraries) (tokens : TokenLibraries)

def wall (gateway : Gateway) : Int := tokens.epoch + gateway.now

/-- `AuthToken`. -/
def authToken (gateway : Gateway) (token : String) : AuthTokenReply :=
  Auth.authToken (tokens.decode (gateway.wall tokens))
    (gateway.wall tokens / second) leeway token

/-- `generate_access_token`. -/
def generateAccessToken (gateway : Gateway) (uid : Nat) : AccessToken :=
  let exp := gateway.wall tokens / second + expirationDelta
  { uid, exp, token := tokens.encode uid exp }

/-- `AuthLogin` with the refresh token, which plays no role here, stored or
not. -/
def authLogin (gateway : Gateway) (email password : String)
    (stored : Bool) : UserReply → Gateway × List GatewayEvent
  | .success user =>
      if stored then
        let access := gateway.generateAccessToken tokens user.seq
        ({ gateway with tokens := gateway.tokens ++ [access] },
          [.loggedIn user.seq email password access.token gateway.now])
      else (gateway, [])
  | .failure _ => (gateway, [])

/-- `auth_token` around the rest of the layers. -/
def authenticated (gateway : Gateway) (index : Nat) (request : Request)
    (token : Option String) : Authentication → Gateway × List GatewayEvent
  | .uid uid | .refreshed uid _ _ =>
      (gateway.setRequest index { request with
          uid := some uid
          stage := request.endpoint.afterAuthentication
          entered := gateway.now },
        [.authenticated request.number uid (token.getD "") gateway.now])
  | .error status _ =>
      (gateway.respond index, [.answered request.number status])
  | .raised => (gateway.respond index, [.answered request.number 500])

/-- A layer answers, or the request goes on to the next one. -/
def proceed (gateway : Gateway) (index : Nat) (request : Request)
    (next : Stage) : Option Nat → Gateway × List GatewayEvent
  | none =>
      (gateway.setRequest index { request with
          stage := next
          entered := gateway.now }, [])
  | some status =>
      (gateway.respond index, [.answered request.number status])

def ipLimited (gateway : Gateway) (request : Request) (limit : IpLimit)
    (answered : Bool) (status : RatelimiterStatus) : GatewayEvent :=
  .ipLimited request.number answered request.key limit.blockedTime
    gateway.now status

def apiLimited (request : Request) (answered : Bool)
    (status : RatelimiterStatus) : GatewayEvent :=
  .apiLimited request.number answered request.endpoint.handler
    ⟨request.entered, 1, status⟩

/-- A call of a limiter that is not answered is one without an execution so
far. -/
def step : Transition.Step Gateway GatewayAction GatewayEvent
  | gateway, .account action =>
      (Registration.step libraries gateway.registration action).map
        (fun result => ({ gateway with registration := result.1 },
          result.2.map .account))
  | gateway, .authLogin email password ended stored =>
      let reply := UserServicer.userLogin libraries.checkPasswordHash email
        password ended gateway.registration.accounts
      let login := gateway.authLogin tokens email password stored reply
      some (login.1, .account (.answered email password reply) :: login.2)
  | gateway, .arrive address place authorization refresh transport =>
      match endpoints[place]? with
      | none => none
      | some endpoint =>
          let key := tokens.md5 address
          match allowOrDeny
              (transport.carry (some (gateway.blockedKey key))) with
          | none =>
              let request : Request :=
                { number := gateway.next
                  key, endpoint, authorization, refresh
                  stage := endpoint.afterAdmission
                  entered := gateway.now }
              some ({ gateway with
                  requests := gateway.requests ++ [request]
                  next := gateway.next + 1 },
                [.passed gateway.next key gateway.now])
          | some status =>
              some ({ gateway with next := gateway.next + 1 },
                [if status = 403 then .denied gateway.next key gateway.now
                  else .answered gateway.next status])
  | gateway, .authenticate index service authRefresh =>
      match gateway.requests[index]? with
      | none => none
      | some request =>
          if request.stage = .authenticating then
            let authToken := service.map (fun transport token =>
              transport.carry (some (gateway.authToken tokens token)))
            some (gateway.authenticated index request
              (request.authorization.bind bearer)
              (authenticateToken authToken (fun _ => authRefresh)
                request.authorization request.refresh))
          else none
  | gateway, .executeIpLimiter index =>
      match gateway.requests[index]? with
      | none => none
      | some request =>
          match request.stage, request.endpoint.ipLimit with
          | .ipLimiting, some limit =>
              let ran := gateway.runIpLimiter request limit
              some (ran.1, [gateway.ipLimited request limit false ran.2])
          | _, _ => none
  | gateway, .ipLimit index transport =>
      match gateway.requests[index]? with
      | none => none
      | some request =>
          match request.stage, request.endpoint.ipLimit with
          | .ipLimiting, some limit =>
              if transport = .answered then
                let ran := gateway.runIpLimiter request limit
                let proceeded := ran.1.proceed index request
                  request.endpoint.afterIpLimiter
                  (ipLimiter (.success ran.2))
                some (proceeded.1,
                  gateway.ipLimited request limit true ran.2 ::
                    proceeded.2)
              else
                some ((gateway.abandon request).proceed index request
                  request.endpoint.afterIpLimiter
                  (ipLimiter (transport.carry none)))
          | _, _ => none
  | gateway, .executeApiLimiter index =>
      match gateway.requests[index]? with
      | none => none
      | some request =>
          match request.stage, request.endpoint.apiLimit with
          | .apiLimiting, some limit =>
              let ran := gateway.runApiLimiter request limit
              some (ran.1, [apiLimited request false ran.2])
          | _, _ => none
  | gateway, .apiLimit index transport =>
      match gateway.requests[index]? with
      | none => none
      | some request =>
          match request.stage, request.endpoint.apiLimit with
          | .apiLimiting, some limit =>
              if transport = .answered then
                let ran := gateway.runApiLimiter request limit
                let proceeded := ran.1.proceed index request .handling
                  (apiLimiter (.success ran.2))
                some (proceeded.1,
                  apiLimited request true ran.2 :: proceeded.2)
              else
                some ((gateway.abandon request).proceed index request
                  .handling (apiLimiter (transport.carry none)))
          | _, _ => none
  | gateway, .executeAbandoned index =>
      match gateway.abandoned[index]? with
      | none => none
      | some request =>
          match request.stage, request.endpoint.ipLimit,
              request.endpoint.apiLimit with
          | .ipLimiting, some limit, _ =>
              let ran := gateway.runIpLimiter request limit
              some (ran.1, [gateway.ipLimited request limit false ran.2])
          | .apiLimiting, _, some limit =>
              let ran := gateway.runApiLimiter request limit
              some (ran.1, [apiLimited request false ran.2])
          | _, _, _ => none
  | gateway, .handle index =>
      match gateway.requests[index]? with
      | none => none
      | some request =>
          if request.stage = .handling then
            some (gateway.respond index,
              [.handled request.number request.endpoint.handler request.key
                request.uid gateway.now])
          else none

/-- A token that the library reads was returned by a login. -/
def Made (gateway : Gateway) (token : String) : Prop :=
  match tokens.decode (gateway.wall tokens) token with
  | .payload _ _ => ∃ access ∈ gateway.tokens, access.token = token
  | _ => True

/-- A bearer cannot make a token. -/
def Signed (gateway : Gateway) : GatewayAction → Prop
  | .authenticate index _ _ =>
      ∀ request ∈ gateway.requests[index]?,
        ∀ token ∈ request.authorization.bind bearer,
          gateway.Made tokens token
  | _ => True

instance (gateway : Gateway) (token : String) :
    Decidable (gateway.Made tokens token) := by
  unfold Made
  split
  · infer_instance
  · infer_instance

instance (gateway : Gateway) (action : GatewayAction) :
    Decidable (gateway.Signed tokens action) := by
  unfold Signed
  split
  · infer_instance
  · infer_instance

end Gateway

/-! ## What happened before -/

/-- The events of the accounts. -/
def accountEvents (trace : List GatewayEvent) : List AccountEvent :=
  trace.filterMap (fun event =>
    match event with
    | .account event => some event
    | _ => none)

/-- The end of the block of an address after an event; a block that stands is
not extended. -/
def blockedAfter (key : String) (standing : Option Int) :
    GatewayEvent → Option Int
  | .ipLimited _ _ other blockedTime time .blocked =>
      if other = key ∧ ∀ last ∈ standing, last < time then
        some (time + blockedTime * 1000)
      else standing
  | _ => standing

/-- The end of the last block of an address. -/
def blockedUntil (trace : List GatewayEvent) (key : String) : Option Int :=
  trace.foldl (blockedAfter key) none

/-- Why an event may happen.  A login succeeds for the account with the last
registration of the email, if it was confirmed and has the password.  A
request is let through if and only if no block of its address stands.  It is
authenticated by a token that such a login returned, at most ten days before.
It is handled once, after all of its layers have let it through. -/
def Justified (libraries : Libraries) (before : List GatewayEvent) :
    GatewayEvent → Prop
  | .loggedIn uid email password _ _ =>
      ∃ user, expectedLogin libraries (accountEvents before) email
        password = .success user ∧ user.seq = uid
  | .passed _ key time => ∀ last ∈ blockedUntil before key, last < time
  | .denied _ key time => ∃ last ∈ blockedUntil before key, time ≤ last
  | .authenticated _ uid token time =>
      ∃ email password start,
        .loggedIn uid email password token start ∈ before ∧
        start ≤ time ∧ time < start + expirationDelta * second
  | .handled number handler key uid _ =>
      (∀ other address user time,
        .handled number other address user time ∉ before) ∧
      (∃ time, .passed number key time ∈ before) ∧
      ∃ endpoint ∈ endpoints, endpoint.handler = handler ∧
        (endpoint.authenticated = true → ∃ user token time,
          uid = some user ∧
            .authenticated number user token time ∈ before) ∧
        (∀ limit ∈ endpoint.ipLimit, ∃ time,
          .ipLimited number true key limit.blockedTime time .allowed ∈
            before) ∧
        ∀ limit ∈ endpoint.apiLimit, ∃ time,
          .apiLimited number true handler ⟨time, 1, .allowed⟩ ∈ before
  | _ => True

end HttpGateway

end TinyChat
