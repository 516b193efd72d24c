import Mathlib.Data.Int.Order.Basic
import TinyChat.Lib.Rows
import TinyChat.Lib.Transition

/-!
# The tables of friends

The statements of the user service on the tables `friends`, `sessions`,
`friend_requests` and `users`, with the triggers on `friends`.  A statement
that fails leaves the tables as they were.
-/

namespace TinyChat

namespace User

inductive RelationStatus where
  | active
  | deleted
  | blocked
  deriving DecidableEq

/-- The value of the enumeration that a text stands for. -/
def RelationStatus.ofText : String → Option RelationStatus
  | "Active" => some .active
  | "Deleted" => some .deleted
  | "Blocked" => some .blocked
  | _ => none

inductive RequestStatus where
  | pending
  | accepted
  | rejected
  | ignored
  | revoked
  deriving DecidableEq

structure UserRow where
  seq : Int
  friendCount : Int := 0
  deriving DecidableEq

structure FriendRow where
  ownerId : Int
  friendId : Int
  sessionId : Int
  status : RelationStatus := .active
  deriving DecidableEq

structure SessionRow where
  sessionId : Int
  lowerId : Int
  higherId : Int
  deriving DecidableEq

structure RequestRow where
  requestId : Int
  addressId : Int
  requestMsg : Option String := none
  status : RequestStatus := .pending
  deriving DecidableEq

/-- `friends_unique_index`. -/
def FriendRow.key (row : FriendRow) : Int × Int := (row.ownerId, row.friendId)

/-- `friend_requests_unique_index`. -/
def RequestRow.key (row : RequestRow) : Int × Int :=
  (row.requestId, row.addressId)

structure Database where
  users : List UserRow
  friends : List FriendRow := []
  sessions : List SessionRow := []
  friendRequests : List RequestRow := []
  deriving DecidableEq

inductive SqlError where
  | uniqueViolation
  | cardinalityViolation
  | foreignKeyViolation
  | outOfRange
  | invalidText
  deriving DecidableEq

/-- What a statement did to a row of `friends`; the triggers fire on it when
the statement is over. -/
inductive RowEvent where
  | inserted (new : FriendRow)
  | updated (old new : FriendRow)
  deriving DecidableEq

/-- The range of `smallint`. -/
def SmallInt (value : Int) : Prop := -32768 ≤ value ∧ value ≤ 32767

instance (value : Int) : Decidable (SmallInt value) :=
  inferInstanceAs (Decidable (_ ∧ _))

namespace Database

/-- Both columns of a new row refer to users. -/
def checkReferences (first second : Int) (database : Database) :
    Except SqlError Database :=
  if database.users.any (fun user => user.seq = first) ∧
      database.users.any (fun user => user.seq = second) then
    .ok database
  else .error .foreignKeyViolation

def insertSession (new : SessionRow) (database : Database) :
    Except SqlError Database :=
  if database.sessions.any (fun row => row.sessionId = new.sessionId ∨
      (row.lowerId = new.lowerId ∧ row.higherId = new.higherId)) then
    .error .uniqueViolation
  else .ok { database with sessions := database.sessions ++ [new] }

/-- The trigger `create_session_id`. -/
def createSessionId (new : FriendRow) (database : Database) :
    Except SqlError Database :=
  if new.ownerId < new.friendId then
    database.insertSession ⟨new.sessionId, new.ownerId, new.friendId⟩
  else .ok database

/-- `SET friend_count = friend_count + amount` for one user. -/
def addFriendCount (seq amount : Int) (database : Database) :
    Except SqlError Database :=
  if ∀ user ∈ database.users, user.seq = seq →
      SmallInt (user.friendCount + amount) then
    .ok { database with
      users := Rows.update UserRow.seq database.users seq (fun user =>
        { user with friendCount := user.friendCount + amount }) }
  else .error .outOfRange

/-- The trigger `incr_friend_count_when_insert`. -/
def incrFriendCountWhenInsert (new : FriendRow) :
    Database → Except SqlError Database :=
  addFriendCount new.ownerId 1

/-- The trigger `modify_friend_count_when_update`, which fires if the status
has changed. -/
def modifyFriendCountWhenUpdate (old new : FriendRow) (database : Database) :
    Except SqlError Database :=
  if old.status = new.status then .ok database
  else if old.status ≠ .deleted ∧ new.status = .deleted then
    database.addFriendCount new.ownerId (-1)
  else if old.status = .deleted ∧ new.status = .active then
    database.addFriendCount new.ownerId 1
  else .ok database

/-- The triggers on one row, in the order of their names. -/
def fire : RowEvent → Database → Except SqlError Database
  | .inserted new, database =>
      database.checkReferences new.ownerId new.friendId >>=
        createSessionId new >>= incrFriendCountWhenInsert new
  | .updated old new, database => modifyFriendCountWhenUpdate old new database

def fireAll (events : List RowEvent) (database : Database) :
    Except SqlError Database :=
  events.foldlM (fun database event => fire event database) database

end Database

/-- The progress of an `INSERT … ON CONFLICT` into `friends`: the table, the
keys of the rows that the statement has inserted or changed, what the triggers
will see, and what `RETURNING` yields. -/
structure Insertion where
  friends : List FriendRow
  touched : List (Int × Int) := []
  events : List RowEvent := []
  returning : List Int := []

/-- The status that `create_friend.sql` sets on a conflict. -/
def reactivated (row : FriendRow) : FriendRow :=
  { row with
    status := if row.status ≠ .active then .active else row.status }

/-- Insert one of the proposed rows.  A row that the statement has inserted
or changed must not be in conflict with another proposed row. -/
def Insertion.insertFriend (insertion : Insertion) (new : FriendRow) :
    Except SqlError Insertion :=
  match Rows.find FriendRow.key insertion.friends new.key with
  | none =>
      .ok
        { friends := insertion.friends ++ [new]
          touched := new.key :: insertion.touched
          events := insertion.events ++ [.inserted new]
          returning := insertion.returning ++ [new.sessionId] }
  | some old =>
      if new.key ∈ insertion.touched then .error .cardinalityViolation
      else if old.status ≠ .active then
        .ok
          { friends := Rows.update FriendRow.key insertion.friends new.key
              reactivated
            touched := new.key :: insertion.touched
            events := insertion.events ++ [.updated old (reactivated old)]
            returning := insertion.returning ++ [old.sessionId] }
      else .ok insertion

namespace Database

/-- `create_friend.sql`; the sessions are read as they were before. -/
def createFriend (requestId addressId sessionId : Int)
    (database : Database) : Except SqlError (Option Int × Database) := do
  let lower := min requestId addressId
  let higher := max requestId addressId
  let first ← Insertion.insertFriend { friends := database.friends }
    ⟨lower, higher, sessionId, .active⟩
  let insertion ← first.insertFriend ⟨higher, lower, sessionId, .active⟩
  let next ← fireAll insertion.events
    { database with friends := insertion.friends }
  let known := database.sessions.filter (fun row =>
    row.lowerId = lower ∧ row.higherId = higher)
  return ((insertion.returning ++ known.map SessionRow.sessionId).head?, next)

/-- `respond_friend.sql`, with the row that it changed. -/
def respondFriend (action : String) (ownerId friendId : Int)
    (database : Database) :
    Except SqlError (Option FriendRow × Database) :=
  match RelationStatus.ofText action with
  | none => .error .invalidText
  | some status =>
      match Rows.find FriendRow.key database.friends (ownerId, friendId) with
      | none => .ok (none, database)
      | some old =>
          if old.status = status then .ok (none, database)
          else
            (fireAll [.updated old { old with status }]
              { database with
                friends := Rows.update FriendRow.key database.friends
                  (ownerId, friendId) (fun row => { row with status }) }).map
              (fun next => (some old, next))

end Database

/-- The statements on friends. -/
inductive FriendStatement where
  | createFriend (requestId addressId sessionId : Int)
  | respondFriend (action : String) (ownerId friendId : Int)

/-- What a statement reports: the session id that it returns, or the old and
the new status of the row that it changed. -/
inductive FriendReport where
  | created (requestId addressId : Int) (sessionId : Option Int)
  | responded (ownerId friendId : Int) (old new : RelationStatus)
  deriving DecidableEq

/-- The report of `respond_friend.sql`. -/
def responded (action : String) :
    Option FriendRow → List FriendReport
  | none => []
  | some old =>
      (RelationStatus.ofText action).toList.map (fun status =>
        .responded old.ownerId old.friendId old.status status)

namespace Database

/-- A statement is executed, or fails and is rolled back. -/
def step : Transition.Step Database FriendStatement FriendReport
  | database, .createFriend requestId addressId sessionId =>
      match database.createFriend requestId addressId sessionId with
      | .ok (returned, next) =>
          some (next, [.created requestId addressId returned])
      | .error _ => some (database, [])
  | database, .respondFriend action ownerId friendId =>
      match database.respondFriend action ownerId friendId with
      | .ok (changed, next) => some (next, responded action changed)
      | .error _ => some (database, [])

/-- Users without friends. -/
def empty (seqs : List Int) : Database where
  users := seqs.map (fun seq => { seq := seq })

end Database

end User

end TinyChat
