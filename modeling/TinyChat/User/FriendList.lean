import TinyChat.Auth.Routes
import TinyChat.User.Announcement
import TinyChat.User.FriendCount

/-!
# The list of friends

The query for the friends of a user joins the rows that the user owns with
the accounts of the others; it does not look at the status of a row.  The
route `get_friends` returns what it finds.
-/

namespace TinyChat

namespace User

open Auth

/-- A row of `get_friends.sql`; nothing sets the column `remarks`. -/
structure FriendDetailedInfo where
  sessionId : Int
  seq : Nat
  uid : Nat
  username : String
  email : String
  remark : Option String := none
  deriving DecidableEq

def friendDetailedInfo (sessionId : Int) (account : AccountRow) :
    FriendDetailedInfo where
  sessionId := sessionId
  seq := account.seq
  uid := account.uid
  username := account.username
  email := account.email

namespace Database

/-- `get_friends.sql`. -/
def getFriends (ownerId : Int) (accounts : Accounts)
    (database : Database) : List FriendDetailedInfo :=
  (database.friends.filter (fun row => row.ownerId = ownerId)).flatMap
    (fun row =>
      (accounts.users.filter (fun account =>
        (account.seq : Int) = row.friendId)).map
        (friendDetailedInfo row.sessionId))

/-- The table of users is that of the accounts; a new account has no
friends. -/
def withUsers (accounts : Accounts) (database : Database) : Database :=
  { database with
    users := accounts.users.map (fun account =>
      (Rows.find UserRow.seq database.users account.seq).getD
        { seq := account.seq }) }

end Database

inductive FriendListReply where
  | success (friends : List FriendDetailedInfo)
  | timeout
  | failed
  deriving DecidableEq

/-- `GetFriendList`. -/
def FriendServicer.getFriendList (seq : Int) (ended : StatementEnd)
    (accounts : Accounts) (database : Database) : FriendListReply :=
  match ended with
  | .unavailable => .failed
  | .lost .timedOut _ => .timeout
  | .lost _ _ => .failed
  | .answered => .success (database.getFriends seq accounts)

/-- What the route puts into its response. -/
structure ListedFriend where
  sessionId : Int
  seq : Nat
  uid : Nat
  username : String
  email : String
  remark : String
  deriving DecidableEq

def FriendDetailedInfo.listed (info : FriendDetailedInfo) :
    ListedFriend where
  sessionId := info.sessionId
  seq := info.seq
  uid := info.uid
  username := info.username
  email := info.email
  remark := info.remark.getD ""

inductive FriendListResponse where
  | data (friends : List ListedFriend)
  | status (code : Nat)
  | text (code : Nat) (content : String)
  deriving DecidableEq

/-- The route `get_friends`; the service may be missing. -/
def Gateway.getFriends (service : Option (CallResult FriendListReply)) :
    FriendListResponse :=
  match service with
  | none => .status 500
  | some (.success (.success friends)) =>
      .data (friends.map FriendDetailedInfo.listed)
  | some (.success .timeout) => .text 504 "Sorry, timeout, try later"
  | some (.success .failed) =>
      .text 504 "Sorry, timeout, please try it again"
  | some .timeout => .status 504
  | some .failed => .status 400

/-- How the call of the route and the query end. -/
structure ListCalls where
  service : Option Transport
  ended : StatementEnd

/-- The response to a request of an authenticated user. -/
def ListCalls.response (calls : ListCalls) (uid : Int)
    (accounts : Accounts) (database : Database) : FriendListResponse :=
  Gateway.getFriends (calls.service.map (fun transport =>
    transport.carry (some (FriendServicer.getFriendList uid calls.ended
      accounts database))))

/-! ## What is listed -/

theorem ListCalls.response_data {calls : ListCalls} {uid : Int}
    {accounts : Accounts} {database : Database}
    {friends : List ListedFriend}
    (answered : calls.response uid accounts database = .data friends) :
    friends = (database.getFriends uid accounts).map
      FriendDetailedInfo.listed := by
  obtain ⟨service, ended⟩ := calls
  cases service with
  | none => cases answered
  | some transport =>
      cases transport with
      | timedOut => cases answered
      | failed => cases answered
      | answered =>
          cases ended with
          | unavailable => cases answered
          | lost trouble executed =>
              cases trouble with
              | timedOut => cases answered
              | disconnected => cases answered
              | other => cases answered
          | answered =>
              cases answered
              rfl

variable {accounts : Accounts} {database next : Database}
  {ownerId friendId sessionId : Int}

theorem mem_getFriends {info : FriendDetailedInfo} :
    info ∈ database.getFriends ownerId accounts ↔
      ∃ account ∈ accounts.users,
        database.Linked ownerId account.seq info.sessionId ∧
        info = friendDetailedInfo info.sessionId account := by
  constructor
  · intro listed
    obtain ⟨row, owned, found⟩ := List.mem_flatMap.mp listed
    obtain ⟨member, owner⟩ := List.mem_filter.mp owned
    obtain ⟨account, joined, rfl⟩ := List.mem_map.mp found
    obtain ⟨known, friend⟩ := List.mem_filter.mp joined
    exact ⟨account, known, ⟨row, member, of_decide_eq_true owner,
      (of_decide_eq_true friend).symm, rfl⟩, rfl⟩
  · rintro ⟨account, known, ⟨row, member, owner, friend, session⟩, same⟩
    rw [same, ← session]
    refine List.mem_flatMap.mpr ⟨row, ?_, List.mem_map_of_mem ?_⟩
    · exact List.mem_filter.mpr ⟨member, decide_eq_true owner⟩
    · exact List.mem_filter.mpr ⟨known, decide_eq_true friend.symm⟩

theorem getFriends_nodup (wellFormed : accounts.WellFormed)
    (paired : Paired database.links database.sessions) (ownerId : Int) :
    ((database.getFriends ownerId accounts).map
      FriendDetailedInfo.seq).Nodup := by
  have owned : (database.friends.filter
      (fun row => row.ownerId = ownerId)).Pairwise
        (fun first second => first.friendId ≠ second.friendId) := by
    have apart : database.friends.Pairwise
        (fun first second => first.key ≠ second.key) := by
      have unique := paired.unique
      rw [Database.links, List.map_map] at unique
      exact List.pairwise_map.mp unique
    apply (List.Pairwise.and_mem.mp (apart.filter _)).imp
    rintro first second ⟨one, two, different⟩ same
    have mine := of_decide_eq_true (List.mem_filter.mp one).2
    have others := of_decide_eq_true (List.mem_filter.mp two).2
    exact different (Prod.ext (mine.trans others.symm) same)
  rw [Database.getFriends, List.map_flatMap, List.nodup_flatMap]
  constructor
  · intro row _
    rw [List.map_map]
    exact (wellFormed.numbers.sublist (List.filter_sublist.map _))
  · apply owned.imp
    intro first second different seq one two
    simp only [List.map_map, List.mem_map, List.mem_filter,
      decide_eq_true_eq] at one two
    obtain ⟨account, ⟨-, joined⟩, rfl⟩ := one
    obtain ⟨other, ⟨-, matched⟩, same⟩ := two
    apply different
    rw [← joined, ← matched]
    exact congrArg Int.ofNat same.symm

/-! ## What the statements do to the friends of a user -/

namespace Database

def seqs (database : Database) : List Int := database.users.map UserRow.seq

/-- Whoever has a friend is a user. -/
def Owned (database : Database) : Prop :=
  ∀ ownerId friendId sessionId,
    (ownerId, friendId, sessionId) ∈ database.links →
      ownerId ∈ database.seqs

/-- No two pairs share the id of their session. -/
def Numbered (database : Database) : Prop :=
  (database.sessions.map SessionRow.sessionId).Nodup

/-- The users and their links stay, and new links have a reason. -/
structure Grows (reason : Int → Int → Int → Prop)
    (before after : Database) : Prop where
  seqs : after.seqs = before.seqs
  numbered : before.Numbered → after.Numbered
  kept : ∀ link ∈ before.links, link ∈ after.links
  new : ∀ ownerId friendId sessionId,
    (ownerId, friendId, sessionId) ∈ after.links →
      (ownerId, friendId, sessionId) ∈ before.links ∨
        ownerId ∈ before.seqs ∧ reason ownerId friendId sessionId

variable {reason : Int → Int → Int → Prop}

theorem Grows.of_same {before after : Database}
    (seqs : after.seqs = before.seqs) (links : after.links = before.links)
    (sessions : after.sessions = before.sessions) :
    Grows reason before after where
  seqs := seqs
  numbered := by
    unfold Numbered
    rw [sessions]
    exact id
  kept := fun link member => links ▸ member
  new := fun _ _ _ member => .inl (links ▸ member)

theorem Grows.refl (database : Database) : Grows reason database database :=
  .of_same rfl rfl rfl

theorem Grows.owned {before after : Database}
    (grows : Grows reason before after) (owned : before.Owned) :
    after.Owned := by
  intro ownerId friendId sessionId member
  rw [grows.seqs]
  rcases grows.new _ _ _ member with old | ⟨user, -⟩
  · exact owned _ _ _ old
  · exact user

theorem seqs_fireAll {events : List RowEvent} {friends : List FriendRow}
    (fired : fireAll events { database with friends } = .ok next) :
    next.seqs = database.seqs := by
  rw [fireAll_ok fired]
  simp only [seqs, settled, addAmounts, List.map_map]
  rfl

theorem owner_of_created {requestId addressId : Int} {selected : Option Int}
    (paired : Paired database.links database.sessions)
    (owned : database.Owned)
    (created : database.createFriend requestId addressId sessionId =
      .ok (selected, next)) :
    next.seqs = database.seqs ∧
      ∀ owner friend session, (owner, friend, session) ∈ next.links →
        owner ∈ database.seqs := by
  obtain ⟨first, insertion, one, two, fired, -⟩ := createFriend_ok created
  have unique : Rows.Unique FriendRow.key database.friends := by
    have keys := paired.unique
    rw [Database.links, List.map_map] at keys
    exact keys
  have balanced := ((Insertion.balanced_start unique).insertFriend rfl
    one).insertFriend rfl two
  refine ⟨seqs_fireAll fired, ?_⟩
  intro owner friend session member
  rw [(fireAll_links fired).1] at member
  obtain ⟨row, listed, same⟩ := List.mem_map.mp member
  cases same
  rcases balanced.owners row listed with ⟨old, known, owner⟩ |
    ⟨new, inserted, owner⟩
  · rw [← owner]
    exact owned _ old.friendId old.sessionId (List.mem_map_of_mem known)
  · obtain ⟨user, present, number⟩ := owner_of_inserted fired inserted
    rw [← owner, ← number]
    exact List.mem_map_of_mem present

end Database

/-- The two users of a confirmation, in one of the two orders. -/
def FriendConfirm.Between (confirm : FriendConfirm) (first second : Int) :
    Prop :=
  (confirm.requestId = first ∧ confirm.addressId = second) ∨
    (confirm.addressId = first ∧ confirm.requestId = second)

/-- An accepting confirmation makes the two users friends in a session. -/
def FriendConfirm.Accepts (confirm : FriendConfirm)
    (ownerId friendId sessionId : Int) : Prop :=
  confirm.action = 0 ∧ confirm.sessionId = sessionId ∧
    confirm.Between ownerId friendId

namespace FriendServicer

variable {confirm : FriendConfirm} {reply : Option (FriendOpStatus × Attempt)}

theorem Accepted.grows (paired : Paired database.links database.sessions)
    (owned : database.Owned) (accepting : confirm.action = 0)
    (accepted : Accepted confirm database reply next) :
    database.Grows confirm.Accepts next := by
  cases accepted with
  | nothing => exact .refl _
  | executed created =>
      rename_i reached
      obtain ⟨seqs, owners⟩ := Database.owner_of_created paired owned created
      obtain ⟨-, pair, -⟩ := Database.createFriend_cases paired created
      cases pair with
      | known _ links sessions => exact .of_same seqs links sessions
      | fresh _ unused _ links sessions =>
          have grown : ∀ {ownerId friendId session},
              (ownerId, friendId, session) ∈ reached.links →
              (ownerId, friendId, session) ∈ database.links ∨
                ownerId ∈ database.seqs ∧
                  confirm.Accepts ownerId friendId session := by
            intro ownerId friendId session member
            have user := owners _ _ _ member
            rw [links] at member
            refine (List.mem_append.mp member).imp_right (fun new => ?_)
            refine ⟨user, accepting, ?_⟩
            simp only [List.mem_cons, Prod.mk.injEq, List.not_mem_nil,
              or_false] at new
            unfold FriendConfirm.Between
            omega
          constructor
          case seqs => exact seqs
          case numbered =>
            intro numbered
            change (reached.sessions.map SessionRow.sessionId).Nodup
            rw [sessions, List.map_append, List.nodup_append]
            refine ⟨numbered, List.nodup_singleton _, ?_⟩
            intro old member new last same
            obtain ⟨row, listed, rfl⟩ := List.mem_map.mp member
            rw [List.mem_singleton.mp last] at same
            exact unused row listed same
          case kept =>
            intro link member
            change link ∈ reached.links
            rw [links]
            exact List.mem_append_left _ member
          case new => exact fun _ _ _ => grown

theorem confirmFriend_grows (paired : Paired database.links database.sessions)
    (owned : database.Owned) (attempts : List Attempt) (cancelled : Bool) :
    database.Grows confirm.Accepts
      (confirmFriend confirm attempts cancelled database).2 := by
  have same : ∀ status, database.Grows confirm.Accepts
      (respond confirm status attempts database).2 := by
    intro status
    cases attempts with
    | nil => exact .refl _
    | cons attempt attempts =>
        cases attempt with
        | unavailable => exact .refl _
        | createLost => exact .refl _
        | updateLost => exact .refl _
        | executed => exact .of_same rfl rfl rfl
  simp only [confirmFriend]
  split
  · rename_i accepting
    exact (accept_accepted confirm attempts database).grows paired owned
      accepting
  · split
    · exact same .rejected
    · split
      · exact same .ignored
      · exact .refl _

end FriendServicer

namespace FriendSystem

variable {system after : FriendSystem} {events : List ConfirmReport}

/-- The reason for a new link is a confirmation in the queue. -/
def Queued (system : FriendSystem) (ownerId friendId sessionId : Int) :
    Prop :=
  ∃ confirm, .confirm confirm ∈ system.queue ∧
    confirm.Accepts ownerId friendId sessionId

theorem addFriend_seqs (requestId addressId : Int)
    (requestMsg : Option String) (attempt : Attempt) (database : Database) :
    (FriendServicer.addFriend requestId addressId requestMsg attempt
      database).2.seqs = database.seqs := by
  cases attempt with
  | unavailable | createLost | updateLost => rfl
  | executed =>
      simp only [FriendServicer.addFriend]
      split
      · rename_i created
        unfold Database.createFriendRequest at created
        split at created
        · obtain ⟨checked, references, inserted⟩ :=
            Fallible.bind_ok.mp created
          obtain ⟨rfl, -⟩ := Database.checkReferences_ok references
          cases inserted
          rfl
        · cases created
          rfl
      · rfl

theorem publish_database (published : Bool) (event : FriendEvent)
    (system : FriendSystem) :
    (system.publish published event).database = system.database := by
  cases published with
  | false => rfl
  | true => rfl

/-- A step changes the links of users only for a confirmation in the
queue. -/
theorem step_grows {action : FriendAction}
    (paired : Paired system.database.links system.database.sessions)
    (owned : system.database.Owned)
    (stepped : FriendSystem.step system action = some (after, events)) :
    system.database.Grows system.Queued after.database := by
  cases action with
  | friendRequest uid addressId requestMsg published =>
      cases stepped
      rw [publish_database]
      exact .refl _
  | friendConfirm validAppid uid addressId action flicked published =>
      simp only [FriendSystem.step] at stepped
      split at stepped
      · cases stepped
        exact .refl _
      · cases stepped
        rw [publish_database]
        exact .refl _
  | addFriend index attempt acked =>
      simp only [FriendSystem.step] at stepped
      split at stepped
      · cases stepped
        obtain ⟨links, sessions⟩ := addFriend_tables _ _ _ _ _
        exact .of_same (addFriend_seqs _ _ _ _ _) links sessions
      · cases stepped
  | confirmFriend index attempts cancelled acked =>
      simp only [FriendSystem.step] at stepped
      split at stepped
      · rename_i confirm found
        have grown : system.database.Grows confirm.Accepts
            (FriendServicer.confirmFriend confirm attempts cancelled
              system.database).2 :=
          FriendServicer.confirmFriend_grows paired owned attempts cancelled
        have queued : system.database.Grows system.Queued
            (FriendServicer.confirmFriend confirm attempts cancelled
              system.database).2 :=
          ⟨grown.seqs, grown.numbered, grown.kept,
            fun ownerId friendId sessionId member =>
            (grown.new ownerId friendId sessionId member).imp_right
              (And.imp_right (fun accepts =>
                ⟨confirm, List.mem_of_getElem? found, accepts⟩))⟩
        split at stepped
        · rename_i replied
          cases stepped
          rw [replied] at queued
          exact queued
        · rename_i replied
          cases stepped
          rw [replied] at queued
          exact queued
      · cases stepped
  | respondFriend action ownerId friendId =>
      simp only [FriendSystem.step] at stepped
      split at stepped
      · rename_i responded
        cases stepped
        obtain ⟨links, sessions⟩ := Database.respondFriend_links responded
        refine .of_same ?_ links sessions
        rcases Database.respondFriend_ok responded with ⟨-, same⟩ |
          ⟨status, old, -, -, -, -, fired⟩
        · rw [same]
        · exact Database.seqs_fireAll fired
      · cases stepped
        exact .refl _

end FriendSystem

end User

end TinyChat
