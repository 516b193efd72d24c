import Mathlib.Order.MinMax
import TinyChat.User.FriendSteps

/-!
# Friendships are symmetric

Statuses apart, a pair of users has no row or two rows with one session id,
for which the pair has its only session.
-/

namespace TinyChat

namespace User

/-- A row without its status. -/
def FriendRow.link (row : FriendRow) : Int × Int × Int :=
  (row.ownerId, row.friendId, row.sessionId)

namespace Database

def links (database : Database) : List (Int × Int × Int) :=
  database.friends.map FriendRow.link

/-- The user has the other one as a friend, with a session id. -/
def Linked (database : Database) (ownerId friendId sessionId : Int) : Prop :=
  ∃ row ∈ database.friends, row.ownerId = ownerId ∧
    row.friendId = friendId ∧ row.sessionId = sessionId

/-- The sessions of a pair. -/
def sessionsOf (database : Database) (first second : Int) : List SessionRow :=
  database.sessions.filter (fun row =>
    row.lowerId = min first second ∧ row.higherId = max first second)

end Database

theorem linked_iff {database : Database} {ownerId friendId sessionId : Int} :
    database.Linked ownerId friendId sessionId ↔
      (ownerId, friendId, sessionId) ∈ database.links := by
  simp [Database.Linked, Database.links, FriendRow.link, List.mem_map]

/-- The links and the sessions of well-formed tables. -/
structure Paired (links : List (Int × Int × Int))
    (sessions : List SessionRow) : Prop where
  unique : (links.map (fun link => (link.1, link.2.1))).Nodup
  distinct : ∀ ownerId friendId sessionId,
    (ownerId, friendId, sessionId) ∈ links → ownerId ≠ friendId
  mirrored : ∀ ownerId friendId sessionId,
    (ownerId, friendId, sessionId) ∈ links →
      (friendId, ownerId, sessionId) ∈ links
  held : ∀ ownerId friendId sessionId,
    (ownerId, friendId, sessionId) ∈ links →
      sessions.filter (fun row => row.lowerId = min ownerId friendId ∧
        row.higherId = max ownerId friendId) =
          [⟨sessionId, min ownerId friendId, max ownerId friendId⟩]

namespace Insertion

variable {insertion next : Insertion} {new : FriendRow}

/-- A proposed row is added, or meets a row that the statement has not
touched yet and at most changes its status. -/
theorem insertFriend_ok (inserted : insertion.insertFriend new = .ok next) :
    (Rows.find FriendRow.key insertion.friends new.key = none ∧
      next =
        { friends := insertion.friends ++ [new]
          touched := new.key :: insertion.touched
          events := insertion.events ++ [.inserted new]
          returning := insertion.returning ++ [new.sessionId] }) ∨
    ∃ old, Rows.find FriendRow.key insertion.friends new.key = some old ∧
      new.key ∉ insertion.touched ∧
      (old.status ≠ .active ∧
        next =
          { friends := Rows.update FriendRow.key insertion.friends new.key
              reactivated
            touched := new.key :: insertion.touched
            events := insertion.events ++ [.updated old (reactivated old)]
            returning := insertion.returning ++ [old.sessionId] } ∨
      old.status = .active ∧ next = insertion) := by
  unfold insertFriend at inserted
  split at inserted
  · rename_i absent
    cases inserted
    exact Or.inl ⟨absent, rfl⟩
  · rename_i old found
    split at inserted
    · cases inserted
    · rename_i untouched
      refine Or.inr ⟨old, found, untouched, ?_⟩
      split at inserted
      · rename_i inactive
        cases inserted
        exact Or.inl ⟨inactive, rfl⟩
      · rename_i active
        cases inserted
        exact Or.inr ⟨not_not.mp active, rfl⟩

theorem map_link_reactivated (friends : List FriendRow) (key : Int × Int) :
    (Rows.update FriendRow.key friends key reactivated).map FriendRow.link =
      friends.map FriendRow.link :=
  Rows.map_update (fun _ => rfl)

theorem insertFriend_known {old : FriendRow}
    (found : Rows.find FriendRow.key insertion.friends new.key = some old)
    (inserted : insertion.insertFriend new = .ok next) :
    next.friends.map FriendRow.link =
        insertion.friends.map FriendRow.link ∧
      next.events.flatMap RowEvent.sessions =
        insertion.events.flatMap RowEvent.sessions ∧
      ∀ id ∈ next.returning,
        id ∈ insertion.returning ∨ id = old.sessionId := by
  rcases insertFriend_ok inserted with ⟨absent, -⟩ |
    ⟨other, same, -, ⟨-, rfl⟩ | ⟨-, rfl⟩⟩
  · rw [found] at absent
    cases absent
  · rw [found] at same
    cases same
    refine ⟨map_link_reactivated _ _, ?_, ?_⟩
    · simp [RowEvent.sessions]
    · intro id member
      exact (List.mem_append.mp member).imp_right List.mem_singleton.mp
  · exact ⟨rfl, rfl, fun id member => Or.inl member⟩

end Insertion

namespace Database

variable {database next : Database} {requestId addressId sessionId : Int}
  {selected : Option Int}

theorem createFriend_ok
    (created : database.createFriend requestId addressId sessionId =
      .ok (selected, next)) :
    ∃ first insertion,
      Insertion.insertFriend { friends := database.friends }
        ⟨min requestId addressId, max requestId addressId, sessionId,
          .active⟩ = .ok first ∧
      first.insertFriend ⟨max requestId addressId,
        min requestId addressId, sessionId, .active⟩ = .ok insertion ∧
      fireAll insertion.events
        { database with friends := insertion.friends } = .ok next ∧
      selected = (insertion.returning ++
        (database.sessionsOf requestId addressId).map
          SessionRow.sessionId).head? := by
  obtain ⟨first, one, rest⟩ := Fallible.bind_ok.mp created
  obtain ⟨insertion, two, rest⟩ := Fallible.bind_ok.mp rest
  obtain ⟨reached, fired, result⟩ := Fallible.bind_ok.mp rest
  cases result
  exact ⟨first, insertion, one, two, fired, rfl⟩

theorem fire_inserted_free {new : FriendRow}
    (fired : fire (.inserted new) database = .ok next)
    (lower : new.ownerId < new.friendId) :
    ∀ row ∈ database.sessions, row.sessionId ≠ new.sessionId ∧
      ¬ (row.lowerId = new.ownerId ∧ row.higherId = new.friendId) := by
  obtain ⟨created, others, -⟩ := Fallible.bind_ok.mp fired
  obtain ⟨checked, references, session⟩ := Fallible.bind_ok.mp others
  obtain ⟨rfl, -⟩ := checkReferences_ok references
  rw [createSessionId, if_pos lower] at session
  exact (insertSession_ok session).2

/-- The tables of friends and sessions after `create_friend.sql`: it adds a
new pair, or leaves the links and the sessions as they are. -/
inductive Created (requestId addressId sessionId : Int)
    (database next : Database) : Option Int → Prop where
  | fresh :
      (∀ known, ¬ database.Linked requestId addressId known) →
      (∀ row ∈ database.sessions, row.sessionId ≠ sessionId) →
      database.sessionsOf requestId addressId = [] →
      next.links = database.links ++
        [(min requestId addressId, max requestId addressId, sessionId),
          (max requestId addressId, min requestId addressId, sessionId)] →
      next.sessions = database.sessions ++
        [⟨sessionId, min requestId addressId, max requestId addressId⟩] →
      Created requestId addressId sessionId database next (some sessionId)
  | known {stored : Int} :
      database.Linked requestId addressId stored →
      next.links = database.links → next.sessions = database.sessions →
      Created requestId addressId sessionId database next (some stored)

theorem fireAll_links {events : List RowEvent} {friends : List FriendRow}
    (fired : fireAll events { database with friends } = .ok next) :
    next.links = friends.map FriendRow.link ∧
      next.sessions =
        database.sessions ++ events.flatMap RowEvent.sessions ∧
      next.friendRequests = database.friendRequests := by
  rw [fireAll_ok fired]
  exact ⟨rfl, rfl, rfl⟩

theorem sessionsOf_min_max (first second : Int) :
    database.sessionsOf (min first second) (max first second) =
      database.sessionsOf first second := by
  have ordered : min first second ≤ max first second := min_le_max
  simp only [sessionsOf, min_eq_left ordered, max_eq_right ordered]

/-- Whether a pair is linked does not depend on the order. -/
theorem linked_ordered (paired : Paired database.links database.sessions)
    {first second stored : Int} :
    database.Linked (min first second) (max first second) stored ↔
      database.Linked first second stored := by
  have swap : ∀ {one two : Int}, database.Linked one two stored →
      database.Linked two one stored := by
    intro one two linked
    rw [linked_iff] at linked ⊢
    exact paired.mirrored _ _ _ linked
  rcases le_total first second with ordered | ordered
  · rw [min_eq_left ordered, max_eq_right ordered]
  · rw [min_eq_right ordered, max_eq_left ordered]
    exact ⟨swap, swap⟩

theorem find_eq_none_of {ownerId friendId : Int}
    (absent : Rows.find FriendRow.key database.friends (ownerId, friendId) =
      none) (stored : Int) : ¬ database.Linked ownerId friendId stored := by
  rintro ⟨row, member, rfl, rfl, -⟩
  exact Rows.find_eq_none_iff.mp absent row member rfl

theorem linked_of_find {ownerId friendId : Int} {row : FriendRow}
    (found : Rows.find FriendRow.key database.friends (ownerId, friendId) =
      some row) : database.Linked ownerId friendId row.sessionId := by
  obtain ⟨member, key⟩ := Rows.mem_of_find found
  have parts := Prod.mk.inj key
  exact ⟨row, member, parts.1, parts.2, rfl⟩

theorem Linked.unique (paired : Paired database.links database.sessions)
    {ownerId friendId first second : Int}
    (one : database.Linked ownerId friendId first)
    (two : database.Linked ownerId friendId second) : first = second := by
  have same := List.inj_on_of_nodup_map paired.unique (linked_iff.mp one)
    (linked_iff.mp two) rfl
  simpa using same

theorem head_of_forall {ids : List Int} {stored : Int}
    (all : ∀ id ∈ ids, id = stored) :
    (ids ++ [stored]).head? = some stored := by
  cases ids with
  | nil => rfl
  | cons id ids => exact congrArg some (all id List.mem_cons_self)

theorem createFriend_cases
    (paired : Paired database.links database.sessions)
    (created : database.createFriend requestId addressId sessionId =
      .ok (selected, next)) :
    requestId ≠ addressId ∧
      Created requestId addressId sessionId database next selected ∧
      next.friendRequests = database.friendRequests := by
  obtain ⟨first, insertion, one, two, fired, rfl⟩ := createFriend_ok created
  obtain ⟨links, sessions, requests⟩ := fireAll_links fired
  generalize lowerName : min requestId addressId = lower at *
  generalize higherName : max requestId addressId = higher at *
  have ordered : lower ≤ higher := by
    rw [← lowerName, ← higherName]
    exact min_le_max
  have different : lower ≠ higher → requestId ≠ addressId := by
    rintro apart rfl
    apply apart
    rw [← lowerName, ← higherName, min_self, max_self]
  have reordered : ∀ stored, database.Linked lower higher stored ↔
      database.Linked requestId addressId stored := by
    intro stored
    rw [← lowerName, ← higherName]
    exact linked_ordered paired
  rcases Insertion.insertFriend_ok one with ⟨absent, rfl⟩ |
    ⟨old, found, -⟩
  · have unlinked := find_eq_none_of absent
    rcases Insertion.insertFriend_ok two with ⟨missing, rfl⟩ |
      ⟨old, found, untouched, -⟩
    · have apart : lower ≠ higher := by
        rintro rfl
        exact Rows.find_eq_none_iff.mp missing _
          (List.mem_append_right _ List.mem_cons_self) rfl
      have lt : lower < higher := lt_of_le_of_ne ordered apart
      obtain ⟨middle, firing, -⟩ := Fallible.bind_ok.mp fired
      have free := fire_inserted_free firing lt
      refine ⟨different apart, .fresh ?_ ?_ ?_ ?_ ?_, requests⟩
      · intro known linked
        exact unlinked known ((reordered known).mpr linked)
      · intro row member
        exact (free row member).1
      · apply List.filter_eq_nil_iff.mpr
        intro row member
        rw [decide_eq_true_iff, lowerName, higherName]
        exact (free row member).2
      · rw [links, lowerName, higherName]
        simp [Database.links, FriendRow.link]
      · rw [sessions, lowerName, higherName]
        simp [RowEvent.sessions, lt, ordered.not_gt]
    · obtain ⟨member, key⟩ := Rows.mem_of_find found
      rcases List.mem_append.mp member with earlier | new
      · have parts := Prod.mk.inj key
        have linked : database.Linked higher lower old.sessionId :=
          ⟨old, earlier, parts.1, parts.2, rfl⟩
        rw [linked_iff] at linked
        exact absurd (linked_iff.mpr (paired.mirrored _ _ _ linked))
          (unlinked _)
      · rw [List.mem_singleton.mp new] at key
        exact absurd (key ▸ List.mem_cons_self) untouched
  · have linked := linked_of_find found
    have apart := paired.distinct _ _ _ (linked_iff.mp linked)
    obtain ⟨same, silent, returned⟩ :=
      Insertion.insertFriend_known found one
    have twin := linked_iff.mpr
      (paired.mirrored _ _ _ (linked_iff.mp linked))
    have linkedFirst : ∀ row ∈ first.friends,
        database.Linked row.ownerId row.friendId row.sessionId := by
      intro row member
      rw [linked_iff, Database.links, ← same]
      exact List.mem_map_of_mem member
    rcases Insertion.insertFriend_ok two with ⟨missing, -⟩ |
      ⟨other, matching, -⟩
    · rw [linked_iff, Database.links, ← same] at twin
      obtain ⟨row, member, link⟩ := List.mem_map.mp twin
      have parts := Prod.mk.inj link
      have rest := Prod.mk.inj parts.2
      refine absurd ?_ (Rows.find_eq_none_iff.mp missing row member)
      exact Prod.ext parts.1 rest.1
    · obtain ⟨member, key⟩ := Rows.mem_of_find matching
      have parts := Prod.mk.inj key
      have paralleled := linkedFirst other member
      rw [parts.1, parts.2] at paralleled
      have equal : other.sessionId = old.sessionId :=
        Linked.unique paired paralleled twin
      obtain ⟨alike, quiet, yielded⟩ :=
        Insertion.insertFriend_known matching two
      have held := paired.held _ _ _ (linked_iff.mp linked)
      have selected : (insertion.returning ++ (database.sessionsOf requestId
          addressId).map SessionRow.sessionId).head? =
            some old.sessionId := by
        have known : database.sessionsOf requestId addressId =
            [⟨old.sessionId, lower, higher⟩] := by
          rw [← sessionsOf_min_max, lowerName, higherName]
          rw [min_eq_left ordered, max_eq_right ordered] at held
          rw [← held, sessionsOf, min_eq_left ordered, max_eq_right ordered]
        rw [known]
        apply head_of_forall
        intro id member
        rcases yielded id member with earlier | later
        · rcases returned id earlier with never | first
          · cases never
          · exact first
        · rw [later, equal]
      rw [selected]
      refine ⟨different apart, .known ?_ ?_ ?_, requests⟩
      · exact (reordered _).mp linked
      · rw [links, alike, same]
        rfl
      · rw [sessions, quiet, silent]
        exact List.append_nil _

theorem pair_of_bounds {first second other another : Int}
    (lower : min first second = min other another)
    (higher : max first second = max other another) :
    (first = other ∧ second = another) ∨
      (first = another ∧ second = other) := by
  omega

theorem Created.paired {result : Option Int}
    (paired : Paired database.links database.sessions)
    (distinct : requestId ≠ addressId)
    (created : Created requestId addressId sessionId database next result) :
    Paired next.links next.sessions := by
  cases created with
  | known _ links sessions =>
      rw [links, sessions]
      exact paired
  | fresh unlinked _ unused links sessions =>
      have ordered : min requestId addressId < max requestId addressId := by
        omega
      have outside : ∀ {first second known : Int},
          (first, second, known) ∈ database.links →
          ¬ (min first second = min requestId addressId ∧
            max first second = max requestId addressId) := by
        rintro first second known member ⟨lower, higher⟩
        rcases pair_of_bounds lower higher with ⟨rfl, rfl⟩ | ⟨rfl, rfl⟩
        · exact unlinked known (linked_iff.mpr member)
        · exact unlinked known
            (linked_iff.mpr (paired.mirrored _ _ _ member))
      rw [links, sessions]
      constructor
      case unique =>
        rw [List.map_append, List.nodup_append]
        refine ⟨paired.unique, ?_, ?_⟩
        · simp [ordered.ne]
        · rintro old member new last rfl
          obtain ⟨⟨first, second, known⟩, listed, rfl⟩ :=
            List.mem_map.mp member
          simp only [List.map_cons, List.map_nil, List.mem_cons,
            Prod.mk.injEq, List.not_mem_nil, or_false] at last
          apply outside listed
          omega
      case distinct =>
        intro ownerId friendId known member
        rcases List.mem_append.mp member with old | new
        · exact paired.distinct _ _ _ old
        · simp only [List.mem_cons, Prod.mk.injEq, List.not_mem_nil,
            or_false] at new
          omega
      case mirrored =>
        intro ownerId friendId known member
        rcases List.mem_append.mp member with old | new
        · exact List.mem_append_left _ (paired.mirrored _ _ _ old)
        · apply List.mem_append_right
          simp only [List.mem_cons, Prod.mk.injEq, List.not_mem_nil,
            or_false] at new ⊢
          omega
      case held =>
        intro ownerId friendId known member
        rw [List.filter_append]
        rcases List.mem_append.mp member with old | new
        · rw [paired.held _ _ _ old, List.filter_eq_nil_iff.mpr,
            List.append_nil]
          intro row new
          rw [List.mem_singleton.mp new, decide_eq_true_iff]
          rintro ⟨lower, higher⟩
          exact outside old ⟨lower.symm, higher.symm⟩
        · simp only [List.mem_cons, Prod.mk.injEq, List.not_mem_nil,
            or_false] at new
          have bounds : min ownerId friendId = min requestId addressId ∧
              max ownerId friendId = max requestId addressId ∧
              known = sessionId := by
            omega
          obtain ⟨lower, higher, rfl⟩ := bounds
          rw [lower, higher]
          change database.sessionsOf requestId addressId ++ _ = _
          rw [unused]
          simp

/-- `respond_friend.sql` changes a status only. -/
theorem statusSet_links {key : Int × Int} {status : RelationStatus}
    {old : FriendRow}
    (fired : fireAll [.updated old { old with status }]
      { database with
        friends := Rows.update FriendRow.key database.friends key
          (fun row => { row with status }) } = .ok next) :
    next.links = database.links ∧ next.sessions = database.sessions := by
  obtain ⟨links, sessions, -⟩ := fireAll_links fired
  constructor
  · rw [links]
    exact Rows.map_update (fun _ => rfl)
  · rw [sessions]
    exact List.append_nil _

theorem respondFriend_links {action : String} {ownerId friendId : Int}
    {changed : Option FriendRow}
    (responded : database.respondFriend action ownerId friendId =
      .ok (changed, next)) :
    next.links = database.links ∧ next.sessions = database.sessions := by
  rcases respondFriend_ok responded with ⟨-, rfl⟩ |
    ⟨status, old, -, -, -, -, fired⟩
  · exact ⟨rfl, rfl⟩
  · exact statusSet_links fired

theorem paired_step {statement : FriendStatement}
    {events : List FriendReport}
    (paired : Paired database.links database.sessions)
    (stepped : step database statement = some (next, events)) :
    Paired next.links next.sessions := by
  cases step_cases stepped with
  | kept => exact paired
  | created created =>
      obtain ⟨distinct, pair, -⟩ := createFriend_cases paired created
      exact pair.paired paired distinct
  | responded _ fired =>
      obtain ⟨links, sessions⟩ := statusSet_links fired
      rw [links, sessions]
      exact paired

theorem paired_empty (seqs : List Int) :
    Paired (empty seqs).links (empty seqs).sessions := by
  constructor
  · exact List.nodup_nil
  · intro ownerId friendId known member
    cases member
  · intro ownerId friendId known member
    cases member
  · intro ownerId friendId known member
    cases member

section

variable {seqs : List Int} {trace : List FriendReport}

theorem paired_of_run
    (run : Transition.AnyRun step (empty seqs) trace database) :
    Paired database.links database.sessions := by
  apply @Transition.Run.state_invariant _ _ _ _ _ _ _ _
    (fun database => Paired database.links database.sessions) run
  · exact paired_empty seqs
  · intro events state next action paired _ stepped
    exact paired_step paired stepped

theorem Created.stored {result : Option Int}
    (created : Created requestId addressId sessionId database next result) :
    ∃ stored, result = some stored ∧
      next.Linked requestId addressId stored := by
  cases created with
  | fresh _ _ _ links _ =>
      refine ⟨sessionId, rfl, ?_⟩
      rw [linked_iff, links]
      apply List.mem_append_right
      rcases le_total requestId addressId with ordered | ordered
      · simp [ordered]
      · simp [ordered]
  | known linked links _ =>
      refine ⟨_, rfl, ?_⟩
      rw [linked_iff, links, ← linked_iff]
      exact linked

/-- After any sequence of statements, a user has a friend with a session id if
and only if the friend has the user with the same one, the pair has this
session and no other one, and `create_friend.sql` returns what it stores. -/
theorem run_symmetric
    (run : Transition.AnyRun step (empty seqs) trace database) :
    (∀ first second stored, database.Linked first second stored ↔
        database.Linked second first stored) ∧
      (∀ first second stored, database.Linked first second stored →
        database.sessionsOf first second =
          [⟨stored, min first second, max first second⟩]) ∧
      ∀ requestId addressId sessionId selected next,
        database.createFriend requestId addressId sessionId =
          .ok (selected, next) →
        ∃ stored, selected = some stored ∧
          next.Linked requestId addressId stored ∧
          next.Linked addressId requestId stored ∧
          next.sessionsOf requestId addressId =
            [⟨stored, min requestId addressId, max requestId addressId⟩] := by
  have paired := paired_of_run run
  refine ⟨?_, ?_, ?_⟩
  · intro first second stored
    rw [linked_iff, linked_iff]
    exact ⟨paired.mirrored _ _ _, paired.mirrored _ _ _⟩
  · intro first second stored linked
    exact paired.held _ _ _ (linked_iff.mp linked)
  · intro requestId addressId sessionId selected next created
    obtain ⟨distinct, pair, -⟩ := createFriend_cases paired created
    have after := pair.paired paired distinct
    obtain ⟨stored, rfl, linked⟩ := pair.stored
    rw [linked_iff] at linked
    exact ⟨stored, rfl, linked_iff.mpr linked,
      linked_iff.mpr (after.mirrored _ _ _ linked), after.held _ _ _ linked⟩

/-- Two users who are friends, of whom one has blocked the other. -/
theorem run_symmetric_blocked :
    ∃ database : Database,
      (database.Linked 2 1 7 ↔ database.Linked 1 2 7) ∧
      database.friends.length = 2 := by
  have reached : ∃ (trace : List FriendReport) (database : Database),
      Transition.AnyRun step (empty [1, 2]) trace database ∧
      database.friends.length = 2 := by
    apply Transition.Run.exists_state_of_exec
      [.createFriend 2 1 7, .respondFriend "Blocked" 1 2]
    decide +kernel
  obtain ⟨trace, database, run, rows⟩ := reached
  exact ⟨database, (run_symmetric run).1 2 1 7, rows⟩

end

end Database

end User

end TinyChat
