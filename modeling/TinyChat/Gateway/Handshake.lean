import Mathlib.Data.List.Basic
import TinyChat.Auth.Token
import TinyChat.Lib.Fallible

/-!
# The handshake of a websocket

`websocket_endpoint` checks the headers of a connection, takes the login lock
and lets `AuthService` check the access token before it registers a session.
The websocket library and the answers of the services are parameters.
-/

namespace TinyChat

namespace Gateway

open Auth

inductive UserDeviceType where
  | terminal
  | web
  | pc
  | android
  | ios
  deriving DecidableEq

def UserDeviceType.number : UserDeviceType → Int
  | .terminal => 0
  | .web => 1
  | .pc => 2
  | .android => 3
  | .ios => 4

def deviceMapping (name : String) : Option UserDeviceType :=
  if name = "TERMINAL" then some .terminal
  else if name = "WEB" then some .web
  else if name = "PC" then some .pc
  else if name = "ANDROID" then some .android
  else if name = "IOS" then some .ios
  else none

def deviceKindsNum : Int := 5

def sessionKey (uid : Int) (device : UserDeviceType) : Int :=
  uid * deviceKindsNum + device.number

/-! ## Reading the headers -/

/-- The characters that `str.strip` removes, as far as a header can have
them. -/
def isSpace (char : Char) : Bool :=
  char.toNat ∈ [9, 10, 11, 12, 13, 28, 29, 30, 31, 32, 133, 160]

def strip (text : List Char) : List Char :=
  ((text.dropWhile isSpace).reverse.dropWhile isSpace).reverse

/-- Decimal digits with single underscores between them. -/
def digits : Bool → List Char → Option (List Nat)
  | true, [] => some []
  | false, [] => none
  | true, '_' :: rest => digits false rest
  | _, char :: rest =>
      if char.isDigit then
        (digits true rest).map (fun values => (char.toNat - 48) :: values)
      else none

def maxStrDigits : Nat := 4300

def natural (text : List Char) : Option Nat :=
  match digits false text with
  | some values =>
      if values.length ≤ maxStrDigits then
        some (values.foldl (fun value digit => 10 * value + digit) 0)
      else none
  | none => none

/-- The call `int(text)` on the text of a header. -/
def parseInt (text : String) : Option Int :=
  match strip text.toList with
  | '-' :: rest => (natural rest).map (fun value => -(value : Int))
  | '+' :: rest => (natural rest).map (fun value => (value : Int))
  | rest => (natural rest).map (fun value => (value : Int))

/-- The upper case of a character of a header, which is a Latin-1 text. -/
def upperChar (char : Char) : List Char :=
  let code := char.toNat
  if code = 181 then [Char.ofNat 924]
  else if code = 223 then ['S', 'S']
  else if code = 255 then [Char.ofNat 376]
  else if 224 ≤ code ∧ code ≠ 247 ∧ code ≤ 254 then [Char.ofNat (code - 32)]
  else [char.toUpper]

def upper (text : String) : String :=
  String.ofList (text.toList.flatMap upperChar)

def startsWith (text start : String) : Bool :=
  start.toList.isPrefixOf text.toList

/-- The headers of a connection; their names are in lower case. -/
abbrev Headers := String → Option String

structure HeaderFields where
  uid : Int
  userDevice : String
  authField : String
  appid : String

/-- The fields that `before_handshake` reads, or a `KeyError` or
`ValueError`. -/
def readHeaders (headers : Headers) : Option HeaderFields :=
  match headers "seq", headers "platform", headers "authorization",
      headers "appid" with
  | some seq, some platform, some authField, some appid =>
      match parseInt seq with
      | some uid =>
          some
            { uid := uid
              userDevice := upper platform
              authField := authField
              appid := appid }
      | none => none
  | _, _, _, _ => none

/-! ## The websocket library -/

inductive SocketError where
  | connectionClosed
  | other

/-- The operations of the library; each may raise. -/
structure WebSocketLib (Socket : Type) where
  accept : Socket → Except SocketError Socket
  close : Socket → Nat → String → Except SocketError Socket

/-- After a close has been sent, the library sends nothing any more. -/
def WebSocketLib.RefusesAfterClose {Socket : Type}
    (lib : WebSocketLib Socket) : Prop :=
  ∀ socket code reason closed, lib.close socket code reason = .ok closed →
    ∃ error, lib.accept closed = .error error

variable {Socket : Type}

namespace WebSocketLib

/-- `before_handshake`; a wrong `appid` closes the websocket, but there is no
`return` after it. -/
def beforeHandshake (lib : WebSocketLib Socket) (socket : Socket)
    (headers : Headers) (appidPrefix : String) :
    Except SocketError
      (Socket × Option (HeaderFields × UserDeviceType)) :=
  match readHeaders headers with
  | none => do
      let socket ← lib.close socket 400 "Invalid Headers"
      return (socket, none)
  | some fields =>
      match deviceMapping fields.userDevice with
      | none => do
          let socket ← lib.close socket 400
            ("Invalid Platform: " ++ fields.userDevice)
          return (socket, none)
      | some device =>
          if !startsWith fields.authField "Bearer " then do
            let socket ← lib.close socket 400
              "Invalid `Authorization` in headers"
            return (socket, none)
          else if !startsWith fields.appid appidPrefix then do
            let socket ← lib.close socket 400 "Invalid `appid` in headers"
            return (socket, some (fields, device))
          else return (socket, some (fields, device))

end WebSocketLib

/-- How the call of `AuthToken` ends. -/
inductive AuthCall where
  | raised
  | success (reply : AuthTokenReply)
  | timeout
  | failed

namespace WebSocketLib

def websocketUpgrade (lib : WebSocketLib Socket) (socket : Socket) :
    AuthCall → Except SocketError (Socket × Bool)
  | .raised => .error .other
  | .success reply =>
      match reply.status with
      | .success => do
          let socket ← lib.accept socket
          return (socket, true)
      | .expired => do
          let socket ← lib.accept socket
          let socket ← lib.close socket 4001 "your token needs refresh"
          return (socket, false)
      | .timeout => do
          let socket ← lib.accept socket
          let socket ← lib.close socket 1013
            "user service is busy, maybe try later"
          return (socket, false)
      | .failed => do
          let socket ← lib.close socket 403 "invalid user authenticate"
          return (socket, false)
  | .timeout => do
      let socket ← lib.accept socket
      let socket ← lib.close socket 1013 "busy now, maybe try later"
      return (socket, false)
  | .failed => do
      let socket ← lib.close socket 403 "Unknown Error"
      return (socket, false)

end WebSocketLib

/-- `auth_field[7:]`. -/
def accessToken (authField : String) : String :=
  String.ofList (authField.toList.drop 7)

/-- What the endpoint meets besides the headers: whether the server shuts
down when it looks, the result of the login lock, the answers of
`AuthService` and the sessions that are registered. -/
structure Environment where
  appidPrefix : String
  shutdown : Bool
  locked : Option Bool
  shutdownLocked : Bool
  authToken : String → AuthCall
  registered : Int → Bool

inductive Outcome where
  | ended
  | raised
  | createSession (sessionKey : Int) (device : UserDeviceType)
      (appid : String)
  | negotiateKickOff (sessionKey : Int)
  deriving DecidableEq

def outcomeOf {α : Type} : Except SocketError α → Outcome
  | .ok _ => .ended
  | .error _ => .raised

/-- `websocket_endpoint` up to the point where it creates a session or
negotiates with the one that has the same key. -/
def websocketEndpoint (lib : WebSocketLib Socket) (socket : Socket)
    (headers : Headers) (env : Environment) : Outcome :=
  if env.shutdown then .ended
  else
    match lib.beforeHandshake socket headers env.appidPrefix with
    | .error _ => .raised
    | .ok (_, none) => .ended
    | .ok (socket, some (fields, device)) =>
        let key := sessionKey fields.uid device
        match env.locked with
        | some true =>
            if env.shutdownLocked then .ended
            else
              match lib.websocketUpgrade socket
                  (env.authToken (accessToken fields.authField)) with
              | .error .connectionClosed => .ended
              | .error .other => outcomeOf (lib.close socket 1011 "")
              | .ok (_, false) => .ended
              | .ok (_, true) =>
                  if env.registered key then .negotiateKickOff key
                  else .createSession key device fields.appid
        | some false => outcomeOf do
            let socket ← lib.accept socket
            lib.close socket 4008 "Another device is attempting to login."
        | none => outcomeOf do
            let socket ← lib.accept socket
            lib.close socket 1013 "RedisClient May be Busy!"

/-! ## Who is registered -/

def Outcome.Registers (key : Int) : Outcome → Prop
  | .createSession sessionKey _ _ => sessionKey = key
  | .negotiateKickOff sessionKey => sessionKey = key
  | .ended => False
  | .raised => False

/-- All checks of `before_handshake`. -/
structure HeadersValid (headers : Headers) (appidPrefix : String)
    (fields : HeaderFields) (device : UserDeviceType) : Prop where
  read : readHeaders headers = some fields
  known : deviceMapping fields.userDevice = some device
  bearer : startsWith fields.authField "Bearer " = true
  appid : startsWith fields.appid appidPrefix = true

/-- The headers were checked and the token of the header was found to be
valid. -/
structure Checked (headers : Headers) (env : Environment)
    (fields : HeaderFields) (device : UserDeviceType)
    (reply : AuthTokenReply) : Prop where
  valid : HeadersValid headers env.appidPrefix fields device
  answered : env.authToken (accessToken fields.authField) = .success reply
  success : reply.status = .success

/-- What a connection needs to be let in. -/
structure Admitted (lib : WebSocketLib Socket) (socket : Socket)
    (headers : Headers) (env : Environment) (fields : HeaderFields)
    (device : UserDeviceType) (reply : AuthTokenReply) : Prop where
  checked : Checked headers env fields device reply
  running : env.shutdown = false
  locked : env.locked = some true
  stillRunning : env.shutdownLocked = false
  accepted : ∃ accepted, lib.accept socket = .ok accepted

/-- A session is registered only for the user for whom the token of the
header was issued. -/
def BindsTokenUser (lib : WebSocketLib Socket) (socket : Socket)
    (headers : Headers) (env : Environment) : Prop :=
  ∀ key, (websocketEndpoint lib socket headers env).Registers key →
    ∃ fields device reply, Checked headers env fields device reply ∧
      key = sessionKey fields.uid device ∧ (reply.uid : Int) = fields.uid

section

variable {lib : WebSocketLib Socket} {socket after : Socket}
  {headers : Headers} {env : Environment} {appidPrefix : String}
  {fields : HeaderFields} {device : UserDeviceType}
  {reply : AuthTokenReply}

theorem beforeHandshake_goesOn
    (passed : lib.beforeHandshake socket headers appidPrefix =
      .ok (after, some (fields, device))) :
    (HeadersValid headers appidPrefix fields device ∧ after = socket) ∨
      ∃ reason, lib.close socket 400 reason = .ok after := by
  unfold WebSocketLib.beforeHandshake at passed
  split at passed
  · obtain ⟨closed, _, impossible⟩ := Fallible.bind_ok.mp passed
    cases impossible
  · rename_i read readFields
    split at passed
    · obtain ⟨closed, _, impossible⟩ := Fallible.bind_ok.mp passed
      cases impossible
    · rename_i found known
      split at passed
      · obtain ⟨closed, _, impossible⟩ := Fallible.bind_ok.mp passed
        cases impossible
      · rename_i bearer
        split at passed
        · obtain ⟨closed, closes, same⟩ := Fallible.bind_ok.mp passed
          cases same
          exact Or.inr ⟨_, closes⟩
        · rename_i appid
          cases passed
          left
          refine ⟨⟨readFields, known, ?_, ?_⟩, rfl⟩
          · simpa using bearer
          · simpa using appid

theorem beforeHandshake_valid (lib : WebSocketLib Socket) (socket : Socket)
    (valid : HeadersValid headers appidPrefix fields device) :
    lib.beforeHandshake socket headers appidPrefix =
      .ok (socket, some (fields, device)) := by
  simp only [WebSocketLib.beforeHandshake, valid.read, valid.known,
    valid.bearer, valid.appid]
  rfl

/-- Only a successful reply upgrades the connection. -/
theorem websocketUpgrade_true {call : AuthCall}
    (upgraded : lib.websocketUpgrade socket call = .ok (after, true)) :
    ∃ reply, call = .success reply ∧ reply.status = .success ∧
      lib.accept socket = .ok after := by
  cases call with
  | raised => cases upgraded
  | success reply =>
      simp only [WebSocketLib.websocketUpgrade] at upgraded
      split at upgraded
      · rename_i success
        obtain ⟨accepted, accepts, same⟩ := Fallible.bind_ok.mp upgraded
        cases same
        exact ⟨reply, rfl, success, accepts⟩
      · obtain ⟨_, _, rest⟩ := Fallible.bind_ok.mp upgraded
        obtain ⟨_, _, impossible⟩ := Fallible.bind_ok.mp rest
        cases impossible
      · obtain ⟨_, _, rest⟩ := Fallible.bind_ok.mp upgraded
        obtain ⟨_, _, impossible⟩ := Fallible.bind_ok.mp rest
        cases impossible
      · obtain ⟨_, _, impossible⟩ := Fallible.bind_ok.mp upgraded
        cases impossible
  | timeout =>
      obtain ⟨_, _, rest⟩ := Fallible.bind_ok.mp upgraded
      obtain ⟨_, _, impossible⟩ := Fallible.bind_ok.mp rest
      cases impossible
  | failed =>
      obtain ⟨_, _, impossible⟩ := Fallible.bind_ok.mp upgraded
      cases impossible

theorem websocketUpgrade_success (success : reply.status = .success)
    (accepted : lib.accept socket = .ok after) :
    lib.websocketUpgrade socket (.success reply) = .ok (after, true) := by
  simp only [WebSocketLib.websocketUpgrade, success, accepted]
  rfl

theorem outcomeOf_registers_none {α : Type} {result : Except SocketError α}
    {key : Int} : ¬ (outcomeOf result).Registers key := by
  cases result with
  | ok value => exact not_false
  | error error => exact not_false

/-- A session is registered only for an admitted connection. -/
theorem admitted_of_registers (refuses : lib.RefusesAfterClose) {key : Int}
    (registers : (websocketEndpoint lib socket headers env).Registers key) :
    ∃ fields device reply,
      Admitted lib socket headers env fields device reply ∧
      key = sessionKey fields.uid device := by
  simp only [websocketEndpoint] at registers
  split at registers
  · cases registers
  · rename_i running
    split at registers
    · cases registers
    · cases registers
    · rename_i passed fields device goesOn
      split at registers
      · rename_i locked
        split at registers
        · cases registers
        · rename_i stillRunning
          split at registers
          · cases registers
          · exact absurd registers outcomeOf_registers_none
          · cases registers
          · rename_i upgraded success
            obtain ⟨reply, answered, status, accepts⟩ :=
              websocketUpgrade_true success
            rcases beforeHandshake_goesOn goesOn with
              ⟨valid, rfl⟩ | ⟨reason, closes⟩
            · refine ⟨fields, device, reply,
                ⟨⟨valid, answered, status⟩, by simpa using running, locked,
                  by simpa using stillRunning, _, accepts⟩, ?_⟩
              split at registers
              · exact registers.symm
              · exact registers.symm
            · obtain ⟨error, refused⟩ := refuses _ _ _ _ closes
              rw [refused] at accepts
              cases accepts
      · exact absurd registers outcomeOf_registers_none
      · exact absurd registers outcomeOf_registers_none

theorem registers_of_admitted
    (admitted : Admitted lib socket headers env fields device reply) :
    (websocketEndpoint lib socket headers env).Registers
      (sessionKey fields.uid device) := by
  obtain ⟨accepted, accepts⟩ := admitted.accepted
  have passed := beforeHandshake_valid lib socket admitted.checked.valid
  have upgraded :=
    websocketUpgrade_success admitted.checked.success accepts
  simp only [websocketEndpoint, admitted.running, passed, admitted.locked,
    admitted.stillRunning, admitted.checked.answered, upgraded]
  simp only [Bool.false_eq_true, if_false]
  split
  · rfl
  · rfl

end

/-- The checks of the headers and of the token are always made, so that a
session belongs to the user of its token exactly if every admitted connection
names in `seq` the user for whom its token was issued. -/
theorem bindsTokenUser_iff (lib : WebSocketLib Socket)
    (refuses : lib.RefusesAfterClose) (socket : Socket) (headers : Headers)
    (env : Environment) :
    BindsTokenUser lib socket headers env ↔
      ∀ fields device reply,
        Admitted lib socket headers env fields device reply →
        (reply.uid : Int) = fields.uid := by
  constructor
  · intro binds fields device reply admitted
    obtain ⟨others, otherDevice, otherReply, checked, _, same⟩ :=
      binds _ (registers_of_admitted admitted)
    have sameFields : others = fields := by
      have read := checked.valid.read.symm.trans admitted.checked.valid.read
      exact Option.some.inj read
    subst sameFields
    have sameReply : otherReply = reply := by
      have answers :=
        checked.answered.symm.trans admitted.checked.answered
      exact AuthCall.success.inj answers
    rw [← sameReply]
    exact same
  · intro named key registers
    obtain ⟨fields, device, reply, admitted, same⟩ :=
      admitted_of_registers refuses registers
    exact ⟨fields, device, reply, admitted.checked, same,
      named fields device reply admitted⟩

/-- The states of a websocket of the library that the gateway uses: a second
`accept` and everything after a `close` raise. -/
inductive SocketState where
  | connecting
  | connected
  | disconnected

def stateLib : WebSocketLib SocketState :=
  { accept := fun
      | .connecting => .ok .connected
      | _ => .error .other
    close := fun socket _ _ =>
      match socket with
      | .disconnected => .error .other
      | _ => .ok .disconnected }

theorem stateLib_refuses : stateLib.RefusesAfterClose := by
  intro socket code reason closed closes
  cases socket with
  | connecting =>
      cases closes
      exact ⟨_, rfl⟩
  | connected =>
      cases closes
      exact ⟨_, rfl⟩
  | disconnected => cases closes

/-- A connection of a browser that claims to be the user `seq`. -/
def browserHeaders (seq : String) : Headers
  | "seq" => some seq
  | "platform" => some "web"
  | "authorization" => some "Bearer t"
  | "appid" => some "chatp-1"
  | _ => none

/-- A server at the time `1000` whose tokens were all issued for the user
`2` and expire at `2000`. -/
def tokenServer : Environment :=
  { appidPrefix := "chatp"
    shutdown := false
    locked := some true
    shutdownLocked := false
    authToken := fun token =>
      .success (Auth.authToken (fun _ => .payload (some 2) (some 2000))
        1000 180 token)
    registered := fun _ => false }

/-- The user `2` connects with a token of the user `2`. -/
theorem bindsTokenUser_own_token :
    websocketEndpoint stateLib .connecting (browserHeaders "2") tokenServer =
      .createSession 11 .web "chatp-1" ∧
    BindsTokenUser stateLib .connecting (browserHeaders "2") tokenServer := by
  refine ⟨by decide, ?_⟩
  apply (bindsTokenUser_iff stateLib stateLib_refuses .connecting
    (browserHeaders "2") tokenServer).mpr
  intro fields device reply admitted
  have read : readHeaders (browserHeaders "2") =
      some ⟨2, "WEB", "Bearer t", "chatp-1"⟩ := by
    rfl
  cases read.symm.trans admitted.checked.valid.read
  cases admitted.checked.answered
  rfl

/-- Somebody connects as the user `1` with a token of the user `2` and is
registered under a key of the user `1`. -/
theorem foreign_token_registers :
    websocketEndpoint stateLib .connecting (browserHeaders "1") tokenServer =
      .createSession 6 .web "chatp-1" ∧
    ¬ BindsTokenUser stateLib .connecting (browserHeaders "1")
      tokenServer := by
  have registered : websocketEndpoint stateLib .connecting
      (browserHeaders "1") tokenServer = .createSession 6 .web "chatp-1" := by
    decide
  refine ⟨registered, ?_⟩
  intro binds
  obtain ⟨fields, device, reply, checked, _, same⟩ := binds 6
    (by rw [registered]; rfl)
  have read : readHeaders (browserHeaders "1") =
      some ⟨1, "WEB", "Bearer t", "chatp-1"⟩ := by
    rfl
  cases read.symm.trans checked.valid.read
  cases checked.answered
  cases same

end Gateway

end TinyChat
