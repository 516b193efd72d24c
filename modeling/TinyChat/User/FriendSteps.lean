import Mathlib.Algebra.Ring.Int.Defs
import TinyChat.Lib.Fallible
import TinyChat.User.Friends

/-!
# What the statements on friends do

The triggers leave `friends` alone; they add the sessions of new rows and
change the counters of users.  A statement that succeeds either adds both rows
of a pair and its session, or only changes statuses.
-/

namespace TinyChat

namespace User

/-- The sessions that the triggers add for a row. -/
def RowEvent.sessions : RowEvent → List SessionRow
  | .inserted new =>
      if new.ownerId < new.friendId then
        [⟨new.sessionId, new.ownerId, new.friendId⟩]
      else []
  | .updated _ _ => []

def RowEvent.ownerId : RowEvent → Int
  | .inserted new => new.ownerId
  | .updated _ new => new.ownerId

/-- What the triggers add to the counter of the owner of a row. -/
def RowEvent.change : RowEvent → Int
  | .inserted _ => 1
  | .updated old new =>
      if old.status = new.status then 0
      else if old.status ≠ .deleted ∧ new.status = .deleted then -1
      else if old.status = .deleted ∧ new.status = .active then 1
      else 0

def RowEvent.amount (event : RowEvent) (seq : Int) : Int :=
  if seq = event.ownerId then event.change else 0

/-- Every user's counter is changed by an amount. -/
def addAmounts (amount : Int → Int) (users : List UserRow) : List UserRow :=
  users.map (fun user =>
    { user with friendCount := user.friendCount + amount user.seq })

theorem addAmounts_zero (users : List UserRow) :
    addAmounts (fun _ => 0) users = users := by
  refine (List.map_congr_left ?_).trans (List.map_id users)
  intro user _
  simp

theorem addAmounts_add (first second : Int → Int) (users : List UserRow) :
    addAmounts second (addAmounts first users) =
      addAmounts (fun seq => first seq + second seq) users := by
  rw [addAmounts, addAmounts, List.map_map]
  apply List.map_congr_left
  intro user _
  simp [Int.add_assoc]

namespace Database

variable {database next : Database}

theorem checkReferences_ok {first second : Int}
    (checked : database.checkReferences first second = .ok next) :
    next = database ∧ (∃ user ∈ database.users, user.seq = first) ∧
      ∃ user ∈ database.users, user.seq = second := by
  unfold checkReferences at checked
  split at checked
  · rename_i known
    cases checked
    simp only [List.any_eq_true, decide_eq_true_eq] at known
    exact ⟨rfl, known⟩
  · cases checked

theorem insertSession_ok {new : SessionRow}
    (inserted : database.insertSession new = .ok next) :
    next = { database with sessions := database.sessions ++ [new] } ∧
      ∀ row ∈ database.sessions, row.sessionId ≠ new.sessionId ∧
        ¬ (row.lowerId = new.lowerId ∧ row.higherId = new.higherId) := by
  unfold insertSession at inserted
  split at inserted
  · cases inserted
  · rename_i free
    cases inserted
    refine ⟨rfl, ?_⟩
    intro row member
    simp only [List.any_eq_true, decide_eq_true_eq, not_exists,
      not_and, not_or] at free
    obtain ⟨id, pair⟩ := free row member
    exact ⟨id, fun same => pair same.1 same.2⟩

theorem addFriendCount_ok {seq amount : Int}
    (added : database.addFriendCount seq amount = .ok next) :
    next = { database with
      users := addAmounts (fun other => if other = seq then amount else 0)
        database.users } := by
  unfold addFriendCount at added
  split at added
  · cases added
    refine congrArg (fun users => { database with users := users }) ?_
    apply List.map_congr_left
    intro user _
    by_cases same : user.seq = seq
    · simp [same]
    · simp [same]
  · cases added

/-- The database with the effects of the triggers. -/
def settled (sessions : List SessionRow) (amount : Int → Int)
    (database : Database) : Database :=
  { database with
    sessions := database.sessions ++ sessions
    users := addAmounts amount database.users }

theorem settled_count (amount : Int) (event : RowEvent)
    (changes : event.change = amount) :
    { database with
      users := addAmounts
        (fun seq => if seq = event.ownerId then amount else 0)
        database.users } = database.settled [] event.amount := by
  subst changes
  simp only [settled, List.append_nil]
  rfl

theorem settled_nothing {event : RowEvent} (changes : event.change = 0) :
    database = database.settled [] event.amount := by
  rw [← settled_count 0 event changes]
  simp only [ite_self, addAmounts_zero]

theorem fire_ok {event : RowEvent} (fired : fire event database = .ok next) :
    next = database.settled event.sessions event.amount := by
  cases event with
  | inserted new =>
      obtain ⟨created, others, counted⟩ := Fallible.bind_ok.mp fired
      obtain ⟨checked, references, session⟩ := Fallible.bind_ok.mp others
      obtain ⟨rfl, -⟩ := checkReferences_ok references
      rw [addFriendCount_ok counted]
      unfold createSessionId at session
      split at session
      · rename_i lower
        obtain ⟨rfl, -⟩ := insertSession_ok session
        rw [RowEvent.sessions, if_pos lower]
        rfl
      · rename_i higher
        cases session
        rw [RowEvent.sessions, if_neg higher]
        exact settled_count 1 (.inserted new) rfl
  | updated old new =>
      change modifyFriendCountWhenUpdate old new database = .ok next at fired
      unfold modifyFriendCountWhenUpdate at fired
      split at fired
      · rename_i same
        cases fired
        exact settled_nothing (if_pos same)
      · rename_i different
        split at fired
        · rename_i removed
          rw [addFriendCount_ok fired]
          apply settled_count (-1) (.updated old new)
          rw [RowEvent.change, if_neg different, if_pos removed]
        · rename_i kept
          split at fired
          · rename_i revived
            rw [addFriendCount_ok fired]
            apply settled_count 1 (.updated old new)
            rw [RowEvent.change, if_neg different, if_neg kept,
              if_pos revived]
          · rename_i other
            cases fired
            apply settled_nothing
            rw [RowEvent.change, if_neg different, if_neg kept, if_neg other]

theorem settled_settled (first second : List SessionRow)
    (one two : Int → Int) :
    (database.settled first one).settled second two =
      database.settled (first ++ second) (fun seq => one seq + two seq) := by
  simp only [settled, addAmounts_add, List.append_assoc]

theorem fireAll_ok {events : List RowEvent}
    (fired : fireAll events database = .ok next) :
    next = database.settled (events.flatMap RowEvent.sessions)
      (fun seq => (events.map (fun event => event.amount seq)).sum) := by
  induction events generalizing database with
  | nil =>
      cases fired
      simp [settled, addAmounts_zero]
  | cons event events induction =>
      obtain ⟨middle, first, rest⟩ := Fallible.bind_ok.mp fired
      rw [induction rest, fire_ok first, settled_settled]
      simp only [List.flatMap_cons, List.map_cons, List.sum_cons]

/-- `respond_friend.sql` changes nothing, or the status of one row. -/
theorem respondFriend_ok {action : String} {ownerId friendId : Int}
    {changed : Option FriendRow}
    (responded : database.respondFriend action ownerId friendId =
      .ok (changed, next)) :
    (changed = none ∧ next = database) ∨
      ∃ status old, RelationStatus.ofText action = some status ∧
        Rows.find FriendRow.key database.friends (ownerId, friendId) =
          some old ∧
        old.status ≠ status ∧ changed = some old ∧
        fireAll [.updated old { old with status }]
          { database with
            friends := Rows.update FriendRow.key database.friends
              (ownerId, friendId) (fun row => { row with status }) } =
          .ok next := by
  unfold respondFriend at responded
  split at responded
  · cases responded
  · rename_i status named
    split at responded
    · cases responded
      exact Or.inl ⟨rfl, rfl⟩
    · rename_i old found
      split at responded
      · cases responded
        exact Or.inl ⟨rfl, rfl⟩
      · rename_i different
        refine Or.inr ⟨status, old, named, found, different, ?_⟩
        cases fired : fireAll [.updated old { old with status }]
            { database with
              friends := Rows.update FriendRow.key database.friends
                (ownerId, friendId) (fun row => { row with status }) } with
        | error failure =>
            rw [fired] at responded
            cases responded
        | ok reached =>
            rw [fired] at responded
            cases responded
            exact ⟨rfl, rfl⟩

/-- What a statement can do: change and report nothing, create the rows of a
pair, or set the status of one row. -/
inductive Stepped (database : Database) :
    FriendStatement → Database → List FriendReport → Prop where
  | kept {statement : FriendStatement} :
      Stepped database statement database []
  | created {requestId addressId sessionId : Int} {selected : Option Int}
      {next : Database} :
      database.createFriend requestId addressId sessionId =
        .ok (selected, next) →
      Stepped database (.createFriend requestId addressId sessionId) next
        [.created requestId addressId selected]
  | responded {action : String} {ownerId friendId : Int}
      {status : RelationStatus} {old : FriendRow} {next : Database} :
      Rows.find FriendRow.key database.friends (ownerId, friendId) =
        some old →
      fireAll [.updated old { old with status }]
        { database with
          friends := Rows.update FriendRow.key database.friends
            (ownerId, friendId) (fun row => { row with status }) } =
        .ok next →
      Stepped database (.respondFriend action ownerId friendId) next
        [.responded old.ownerId old.friendId old.status status]

theorem step_cases {statement : FriendStatement}
    {events : List FriendReport}
    (stepped : step database statement = some (next, events)) :
    Stepped database statement next events := by
  cases statement with
  | createFriend requestId addressId sessionId =>
      simp only [step] at stepped
      split at stepped
      · rename_i selected reached created
        cases stepped
        exact .created created
      · cases stepped
        exact .kept
  | respondFriend action ownerId friendId =>
      simp only [step] at stepped
      split at stepped
      · rename_i changed reached result
        cases stepped
        rcases respondFriend_ok result with ⟨rfl, rfl⟩ |
          ⟨status, old, named, found, -, rfl, fired⟩
        · exact .kept
        · rw [User.responded, named]
          exact .responded found fired
      · cases stepped
        exact .kept

end Database

end User

end TinyChat
