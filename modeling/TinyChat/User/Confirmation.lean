import TinyChat.User.FriendSymmetry

/-!
# Friend requests and their confirmation

The gateway puts an event for a request or for its confirmation into a queue.
The friend worker passes each event to `FriendServicer`, which changes the
tables, and keeps the event until it is told that this succeeded.
-/

namespace TinyChat

namespace User

namespace Database

/-- `old <> new` is not true for a missing text. -/
def differs : Option String → Option String → Bool
  | some old, some new => old ≠ new
  | _, _ => false

/-- What `create_friend_request.sql` sets on a conflict. -/
def reopened (requestMsg : Option String) (old : RequestRow) : RequestRow :=
  let closed : Bool := old.status ∈
    [RequestStatus.rejected, .ignored, .revoked]
  if closed ∨ differs old.requestMsg requestMsg then
    { old with
      status := if closed then .pending else old.status
      requestMsg :=
        if differs old.requestMsg requestMsg then requestMsg
        else old.requestMsg }
  else old

def createFriendRequest (requestId addressId : Int)
    (requestMsg : Option String) (database : Database) :
    Except SqlError Database :=
  match Rows.find RequestRow.key database.friendRequests
      (requestId, addressId) with
  | none =>
      database.checkReferences requestId addressId >>= fun checked =>
        .ok { checked with
          friendRequests := checked.friendRequests ++
            [{ requestId, addressId, requestMsg }] }
  | some _ =>
      .ok { database with
        friendRequests := Rows.update RequestRow.key database.friendRequests
          (requestId, addressId) (reopened requestMsg) }

/-- `respond_friend_request.sql` skips a row that has the status. -/
def withStatus (status : RequestStatus) (row : RequestRow) : RequestRow :=
  if row.status ≠ status then { row with status } else row

def setStatus (requests : List RequestRow) (status : RequestStatus)
    (key : Int × Int) : List RequestRow :=
  Rows.update RequestRow.key requests key (withStatus status)

def respondFriendRequest (status : RequestStatus) (requestId addressId : Int)
    (database : Database) : Database :=
  { database with
    friendRequests :=
      setStatus database.friendRequests status (requestId, addressId) }

end Database

inductive ExecutionStatus where
  | success
  | failed
  | panicIoError
  | infoDupEntry
  | timeoutHandling
  deriving DecidableEq

/-- `AsyncMyConnection.create` on an error of the statement. -/
def ExecutionStatus.ofError : SqlError → ExecutionStatus
  | .uniqueViolation => .infoDupEntry
  | .cardinalityViolation | .foreignKeyViolation | .outOfRange
  | .invalidText => .failed

/-- Why a statement fails that the tables do not refuse. -/
inductive Trouble where
  | timedOut
  | disconnected
  | other
  deriving DecidableEq

def Trouble.status : Trouble → ExecutionStatus
  | .timedOut => .timeoutHandling
  | .disconnected => .panicIoError
  | .other => .failed

/-- How a call of the executor goes: there is no connection or too little
time, one of the statements fails for another reason than the tables, or the
statements are executed. -/
inductive Attempt where
  | unavailable
  | createLost (trouble : Trouble)
  | updateLost (trouble : Trouble)
  | executed
  deriving DecidableEq

/-- The outcome of `FriendExecutor.create_friend`: it returns, also if it has
done nothing, or raises `TransactionFailed`. -/
inductive TransactionEnd where
  | returned
  | raised (status : ExecutionStatus)

/-- The message `FriendConfirm`. -/
structure FriendConfirm where
  requestId : Int
  addressId : Int
  action : Int
  sessionId : Int
  deriving DecidableEq

inductive FriendOpStatus where
  | success
  | failed
  | timeout
  deriving DecidableEq

namespace FriendServicer

/-- The transaction of `FriendExecutor.create_friend`; if the second statement
fails, the status that is raised is still that of the first one. -/
def createFriend (confirm : FriendConfirm) (attempt : Attempt)
    (database : Database) : TransactionEnd × Database :=
  match attempt with
  | .unavailable => (.returned, database)
  | .createLost trouble => (.raised trouble.status, database)
  | .updateLost _ =>
      match database.createFriend confirm.requestId confirm.addressId
          confirm.sessionId with
      | .ok _ => (.raised .success, database)
      | .error failure => (.raised (.ofError failure), database)
  | .executed =>
      match database.createFriend confirm.requestId confirm.addressId
          confirm.sessionId with
      | .ok (_, next) =>
          (.returned, next.respondFriendRequest .accepted confirm.requestId
            confirm.addressId)
      | .error failure => (.raised (.ofError failure), database)

/-- The loop of `ConfirmFriend` for an accepted request, with the attempt that
ended it; it has no reply if the call is cancelled. -/
def accept (confirm : FriendConfirm) :
    List Attempt → Database → Option (FriendOpStatus × Attempt) × Database
  | [], database => (none, database)
  | attempt :: attempts, database =>
      match createFriend confirm attempt database with
      | (.returned, next) => (some (.success, attempt), next)
      | (.raised .infoDupEntry, next) => accept confirm attempts next
      | (.raised .timeoutHandling, next) => (some (.timeout, attempt), next)
      | (.raised _, next) => (some (.failed, attempt), next)

/-- The reply to a statement that failed. -/
def failure : Trouble → FriendOpStatus
  | .timedOut => .timeout
  | .disconnected | .other => .failed

/-- `reject_friend_request` and `ignore_friend_request`; without a connection
the call raises. -/
def respond (confirm : FriendConfirm) (status : RequestStatus) :
    List Attempt → Database → Option (FriendOpStatus × Attempt) × Database
  | [], database | .unavailable :: _, database => (none, database)
  | .createLost trouble :: _, database
  | .updateLost trouble :: _, database =>
      (some (failure trouble, .updateLost trouble), database)
  | .executed :: _, database =>
      (some (.success, .executed),
        database.respondFriendRequest status confirm.requestId
          confirm.addressId)

def confirmFriend (confirm : FriendConfirm) (attempts : List Attempt)
    (cancelled : Bool) (database : Database) :
    Option (FriendOpStatus × Attempt) × Database :=
  let result :=
    if confirm.action = 0 then accept confirm attempts database
    else if confirm.action = 1 then
      respond confirm .rejected attempts database
    else if confirm.action = 2 then
      respond confirm .ignored attempts database
    else (none, database)
  (if cancelled then none else result.1, result.2)

/-- `AddFriend`; an empty text is none. -/
def addFriend (requestId addressId : Int) (requestMsg : Option String)
    (attempt : Attempt) (database : Database) :
    Option FriendOpStatus × Database :=
  match attempt with
  | .unavailable => (some .failed, database)
  | .createLost trouble | .updateLost trouble =>
      (some (failure trouble), database)
  | .executed =>
      match database.createFriendRequest requestId addressId
          (requestMsg.filter (· ≠ "")) with
      | .ok next => (some .success, next)
      | .error _ => (some .failed, database)

end FriendServicer

/-- The result of `flickClock`, if the service is known at all. -/
inductive FlickResult where
  | unavailable
  | success (snowflakeId : Int)
  | timeout
  | failed

inductive Response where
  | status (code : Nat)
  | sessionId (value : Int)
  deriving DecidableEq

namespace Gateway

/-- The route `friend_confirm`: the response, and the event that is put into
the queue. -/
def friendConfirm (validAppid : Bool) (uid addressId action : Int)
    (flicked : FlickResult) : Response × Option FriendConfirm :=
  if validAppid = false then (.status 400, none)
  else if action = 0 then
    match flicked with
    | .unavailable => (.status 500, none)
    | .success snowflakeId =>
        (.sessionId snowflakeId, some ⟨uid, addressId, action, snowflakeId⟩)
    | .timeout => (.status 504, none)
    | .failed => (.status 400, none)
  else (.sessionId 0, some ⟨uid, addressId, action, 0⟩)

end Gateway

/-- The events in the queue of the friend worker. -/
inductive FriendEvent where
  | request (requestId addressId : Int) (requestMsg : Option String)
  | confirm (content : FriendConfirm)
  deriving DecidableEq

structure FriendSystem where
  database : Database
  queue : List FriendEvent := []
  deriving DecidableEq

/-- An authenticated user calls one of the routes, the worker processes an
event, or a status is changed by `respond_friend.sql`.  An event may be lost
before it is in the queue, and may stay there after it was processed. -/
inductive FriendAction where
  | friendRequest (uid addressId : Int) (requestMsg : Option String)
      (published : Bool)
  | friendConfirm (validAppid : Bool) (uid addressId action : Int)
      (flicked : FlickResult) (published : Bool)
  | addFriend (index : Nat) (attempt : Attempt) (acked : Bool)
  | confirmFriend (index : Nat) (attempts : List Attempt)
      (cancelled acked : Bool)
  | respondFriend (action : String) (ownerId friendId : Int)

/-- What is seen of the system: the response to a confirmation with the event
that it causes, and an event that was processed successfully, with the attempt
that ended it and the tables before and after. -/
inductive ConfirmReport where
  | answered (uid addressId : Int) (response : Response)
      (confirm : FriendConfirm)
  | processed (confirm : FriendConfirm) (ended : Attempt)
      (before after : Database)
  deriving DecidableEq

namespace FriendSystem

def publish (system : FriendSystem) (published : Bool) (event : FriendEvent) :
    FriendSystem :=
  if published then { system with queue := system.queue ++ [event] }
  else system

/-- The event is removed from the queue if it was acknowledged after a
success. -/
def settle (system : FriendSystem) (index : Nat) (succeeded acked : Bool)
    (database : Database) : FriendSystem where
  database := database
  queue := if succeeded ∧ acked then system.queue.eraseIdx index
    else system.queue

def step : Transition.Step FriendSystem FriendAction ConfirmReport
  | system, .friendRequest uid addressId requestMsg published =>
      some (system.publish published (.request uid addressId requestMsg), [])
  | system, .friendConfirm validAppid uid addressId action flicked
      published =>
      match Gateway.friendConfirm validAppid uid addressId action
          flicked with
      | (_, none) => some (system, [])
      | (response, some confirm) =>
          some (system.publish published (.confirm confirm),
            [.answered uid addressId response confirm])
  | system, .addFriend index attempt acked =>
      match system.queue[index]? with
      | some (.request requestId addressId requestMsg) =>
          let result := FriendServicer.addFriend requestId addressId
            requestMsg attempt system.database
          some (system.settle index (result.1 = some .success) acked
            result.2, [])
      | _ => none
  | system, .confirmFriend index attempts cancelled acked =>
      match system.queue[index]? with
      | some (.confirm confirm) =>
          match FriendServicer.confirmFriend confirm attempts cancelled
              system.database with
          | (some (.success, ended), next) =>
              some (system.settle index true acked next,
                [.processed confirm ended system.database next])
          | (_, next) => some (system.settle index false acked next, [])
      | _ => none
  | system, .respondFriend action ownerId friendId =>
      match system.database.respondFriend action ownerId friendId with
      | .ok (_, next) => some ({ system with database := next }, [])
      | .error _ => some (system, [])

def start (seqs : List Int) : FriendSystem where
  database := .empty seqs

end FriendSystem

end User

end TinyChat
