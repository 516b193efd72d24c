import TinyChat.Gateway.Session

/-!
# The tables of the session manager

A session object is under one key in one of the two tables, and no key is in
both.  The operations of the manager keep that, and they change the bindings
of one object and no write queue.
-/

namespace TinyChat

namespace Gateway

namespace SessionManager

variable {manager : SessionManager} {sessionKey : Int} {name : Nat}

/-- The entries of both tables. -/
def entries (manager : SessionManager) : List (Int × Nat) :=
  manager.sessions ++ manager.idleSessions

structure Placed (manager : SessionManager) : Prop where
  single : ∀ first second name, (first, name) ∈ manager.entries →
    (second, name) ∈ manager.entries → first = second
  separate : ∀ sessionKey registered idle,
    (sessionKey, registered) ∈ manager.sessions →
    (sessionKey, idle) ∉ manager.idleSessions
  allocated : ∀ entry ∈ manager.entries, entry.2 < manager.objects.length

theorem mem_entries_of_session
    (member : (sessionKey, name) ∈ manager.sessions) :
    (sessionKey, name) ∈ manager.entries :=
  List.mem_append_left _ member

theorem mem_entries_of_idle
    (member : (sessionKey, name) ∈ manager.idleSessions) :
    (sessionKey, name) ∈ manager.entries :=
  List.mem_append_right _ member

/-! ## Objects -/

theorem object_update (manager : SessionManager) (name other : Nat)
    (change : WebsocketSession → WebsocketSession) :
    (manager.update name change).object other = manager.object other ∨
      other = name ∧
        (manager.update name change).object other =
          change (manager.object other) := by
  simp only [object, update, List.getD_eq_getElem?_getD,
    List.getElem?_modify]
  cases manager.objects[other]? with
  | none => exact Or.inl rfl
  | some session =>
      by_cases same : name = other
      · right
        simp [same]
      · left
        simp [same]

theorem object_update_of_lt (change : WebsocketSession → WebsocketSession)
    (bound : name < manager.objects.length) :
    (manager.update name change).object name =
      change (manager.object name) := by
  simp [object, update, bound]

theorem object_update_of_ne {other : Nat}
    (change : WebsocketSession → WebsocketSession) (different : other ≠ name) :
    (manager.update name change).object other = manager.object other := by
  rcases manager.object_update name other change with same | ⟨equal, _⟩
  · exact same
  · exact absurd equal different

theorem field_update {α : Type} (field : WebsocketSession → α)
    (manager : SessionManager) (name other : Nat)
    {change : WebsocketSession → WebsocketSession}
    (keeps : ∀ session, field (change session) = field session) :
    field ((manager.update name change).object other) =
      field (manager.object other) := by
  rcases manager.object_update name other change with same | ⟨_, changed⟩
  · rw [same]
  · rw [changed, keeps]

@[simp] theorem length_objects_update (manager : SessionManager)
    (name : Nat) (change : WebsocketSession → WebsocketSession) :
    (manager.update name change).objects.length = manager.objects.length := by
  simp [update]

theorem Placed.update (placed : Placed manager) (name : Nat)
    (change : WebsocketSession → WebsocketSession) :
    Placed (manager.update name change) := by
  refine ⟨placed.single, placed.separate, ?_⟩
  intro entry member
  rw [length_objects_update]
  exact placed.allocated entry member

theorem Placed.shrink (placed : Placed manager) {next : SessionManager}
    (entries : ∀ entry ∈ next.entries, entry ∈ manager.entries)
    (separate : ∀ sessionKey registered idle,
      (sessionKey, registered) ∈ next.sessions →
      (sessionKey, idle) ∉ next.idleSessions)
    (objects : next.objects.length = manager.objects.length) :
    Placed next := by
  refine ⟨?_, separate, ?_⟩
  · intro first second name firstMember secondMember
    exact placed.single first second name (entries _ firstMember)
      (entries _ secondMember)
  · intro entry member
    rw [objects]
    exact placed.allocated entry (entries entry member)

theorem Placed.unregistered_idle (placed : Placed manager)
    (registered : (sessionKey, name) ∈ manager.sessions) :
    manager.idleSessions.lookup sessionKey = none :=
  Table.lookup_eq_none
    (fun idle => placed.separate sessionKey name idle registered)

theorem Placed.idle_unregistered (placed : Placed manager)
    (idle : (sessionKey, name) ∈ manager.idleSessions) :
    manager.sessions.lookup sessionKey = none :=
  Table.lookup_eq_none
    (fun registered member =>
      placed.separate sessionKey registered name member idle)

/-! ## Giving a session back -/

/-- What `recycle_session` and `retrieve_session` have in common: the key
leaves the registered sessions and its object may become idle. -/
structure GivesBack (manager next : SessionManager) (sessionKey : Int) :
    Prop where
  sessions : next.sessions = manager.sessions.pop sessionKey
  idle : ∀ entry ∈ next.idleSessions, entry ∈ manager.idleSessions ∨
    entry.1 = sessionKey ∧ entry ∈ manager.sessions
  objects : next.objects.length = manager.objects.length
  queues : ∀ other, (next.object other).writeQueue =
    (manager.object other).writeQueue
  websockets : ∀ other, (sessionKey, other) ∉ manager.sessions →
    (next.object other).websocket = (manager.object other).websocket

/-- Nothing new is listed. -/
theorem GivesBack.entries {next : SessionManager}
    (gives : GivesBack manager next sessionKey) :
    ∀ entry ∈ next.entries, entry ∈ manager.entries := by
  intro entry member
  rcases List.mem_append.mp member with registered | idle
  · rw [gives.sessions] at registered
    exact List.mem_append_left _ (Table.mem_pop.mp registered).1
  · rcases gives.idle entry idle with before | ⟨_, given⟩
    · exact List.mem_append_right _ before
    · exact List.mem_append_left _ given

theorem Placed.givesBack (placed : Placed manager) {next : SessionManager}
    (gives : GivesBack manager next sessionKey) : Placed next := by
  apply placed.shrink gives.entries _ gives.objects
  intro key registered idle member other
  rw [gives.sessions] at member
  obtain ⟨before, different⟩ := Table.mem_pop.mp member
  rcases gives.idle _ other with earlier | ⟨same, _⟩
  · exact placed.separate key registered idle before earlier
  · exact different same

theorem recycleSession_givesBack (placed : Placed manager)
    (sessionKey : Int) :
    GivesBack manager (manager.recycleSession sessionKey) sessionKey := by
  unfold recycleSession
  split
  · rename_i missing
    refine ⟨?_, fun _ member => Or.inl member, rfl, fun _ => rfl,
      fun _ _ => rfl⟩
    symm
    apply List.filter_eq_self.mpr
    intro entry member
    apply decide_eq_true
    intro same
    obtain ⟨key, name⟩ := entry
    simp only at same
    rw [same] at member
    exact Table.notMem_of_lookup missing member
  · rename_i name found
    have registered := Table.mem_of_lookup found
    refine ⟨rfl, ?_, ?_, ?_, ?_⟩
    · intro entry member
      simp only at member
      split at member
      · rcases (Table.mem_assign (placed.unregistered_idle registered)).mp
          member with before | rfl
        · exact Or.inl before
        · exact Or.inr ⟨rfl, registered⟩
      · exact Or.inl member
    · exact length_objects_update manager name _
    · intro other
      exact field_update WebsocketSession.writeQueue manager name other
        (fun _ => rfl)
    · intro other absent
      have different : other ≠ name := by
        intro same
        rw [same] at absent
        exact absent registered
      exact congrArg WebsocketSession.websocket
        (object_update_of_ne _ different)

theorem retrieveSession_givesBack (placed : Placed manager)
    (registered : (sessionKey, name) ∈ manager.sessions) :
    GivesBack manager (manager.retrieveSession sessionKey) sessionKey := by
  unfold retrieveSession
  split
  · rename_i missing
    exact absurd registered (Table.notMem_of_lookup missing)
  · rename_i given found
    have member := Table.mem_of_lookup found
    refine ⟨rfl, ?_, rfl, fun _ => rfl, fun _ _ => rfl⟩
    intro entry listed
    rcases (Table.mem_assign (placed.unregistered_idle member)).mp listed with
      before | rfl
    · exact Or.inl before
    · exact Or.inr ⟨rfl, member⟩

/-! ## Taking a session -/

/-- What `create_session` and `reuse_session` have in common: an object that
was not registered is registered under a free key. -/
structure Takes (manager next : SessionManager) (sessionKey : Int)
    (name : Nat) : Prop where
  sessions : next.sessions = manager.sessions ++ [(sessionKey, name)]
  free : ∀ other, (sessionKey, other) ∉ manager.sessions
  unregistered : ∀ other, (other, name) ∉ manager.sessions
  queues : ∀ other, (next.object other).writeQueue =
    (manager.object other).writeQueue
  websockets : ∀ other, other ≠ name →
    (next.object other).websocket = (manager.object other).websocket

theorem Placed.unregistered (placed : Placed manager)
    (idle : (sessionKey, name) ∈ manager.idleSessions) (other : Int) :
    (other, name) ∉ manager.sessions := by
  intro registered
  have same := placed.single other sessionKey name
    (mem_entries_of_session registered) (mem_entries_of_idle idle)
  rw [same] at registered
  exact placed.separate sessionKey name name registered idle

theorem Placed.take (placed : Placed manager) {formerKey : Int}
    (idle : (formerKey, name) ∈ manager.idleSessions)
    (free : manager.sessions.lookup sessionKey = none)
    (absent : ∀ other, (sessionKey, other) ∈ manager.idleSessions →
      formerKey = sessionKey)
    {next : SessionManager}
    (sessions : next.sessions = manager.sessions.assign sessionKey name)
    (idleSessions : next.idleSessions = manager.idleSessions.pop formerKey)
    (objects : next.objects.length = manager.objects.length) :
    Placed next := by
  have entries : ∀ entry ∈ next.entries,
      entry = (sessionKey, name) ∨
        entry ∈ manager.entries ∧ entry.2 ≠ name := by
    intro entry member
    obtain ⟨key, other⟩ := entry
    rcases List.mem_append.mp member with registered | waiting
    · rw [sessions] at registered
      rcases (Table.mem_assign free).mp registered with before | new
      · right
        refine ⟨List.mem_append_left _ before, ?_⟩
        intro same
        simp only at same
        rw [same] at before
        exact placed.unregistered idle key before
      · exact Or.inl new
    · rw [idleSessions] at waiting
      obtain ⟨before, different⟩ := Table.mem_pop.mp waiting
      right
      refine ⟨List.mem_append_right _ before, ?_⟩
      intro same
      simp only at same different
      rw [same] at before
      exact different (placed.single key formerKey name
        (mem_entries_of_idle before) (mem_entries_of_idle idle))
  refine ⟨?_, ?_, ?_⟩
  · intro first second other firstMember secondMember
    rcases entries _ firstMember with firstNew | ⟨firstOld, firstOther⟩
    · rcases entries _ secondMember with secondNew | ⟨_, secondOther⟩
      · simp only [Prod.mk.injEq] at firstNew secondNew
        rw [firstNew.1, secondNew.1]
      · simp only [Prod.mk.injEq] at firstNew
        exact absurd firstNew.2 secondOther
    · rcases entries _ secondMember with secondNew | ⟨secondOld, _⟩
      · simp only [Prod.mk.injEq] at secondNew
        exact absurd secondNew.2 firstOther
      · exact placed.single first second other firstOld secondOld
  · intro key registered waiting member other
    rw [sessions] at member
    rw [idleSessions] at other
    obtain ⟨before, different⟩ := Table.mem_pop.mp other
    rcases (Table.mem_assign free).mp member with earlier | new
    · exact placed.separate key registered waiting earlier before
    · simp only [Prod.mk.injEq] at new
      rw [new.1] at before different
      exact different (absent waiting before).symm
  · intro entry member
    rw [objects]
    rcases entries entry member with new | ⟨before, _⟩
    · rw [new]
      exact placed.allocated (formerKey, name) (mem_entries_of_idle idle)
    · exact placed.allocated entry before

theorem reuseSession_takes (placed : Placed manager)
    {next : SessionManager}
    (reused : manager.reuseSession sessionKey = some (name, next)) :
    Takes manager next sessionKey name ∧ Placed next := by
  unfold reuseSession at reused
  split at reused
  · cases reused
  · rename_i found lookup
    simp only [Option.some.injEq, Prod.mk.injEq] at reused
    obtain ⟨rfl, rfl⟩ := reused
    have idle := Table.mem_of_lookup lookup
    have free := placed.idle_unregistered idle
    refine ⟨⟨Table.assign_of_lookup _ free,
      fun _ => Table.notMem_of_lookup free, placed.unregistered idle,
      fun _ => rfl, fun _ _ => rfl⟩, ?_⟩
    exact placed.take idle free (fun _ _ => rfl) rfl rfl rfl

theorem idleFor_spec {formerKey : Int}
    (found : manager.idleFor sessionKey = some (formerKey, name)) :
    (formerKey, name) ∈ manager.idleSessions ∧
      ∀ other, (sessionKey, other) ∈ manager.idleSessions →
        formerKey = sessionKey := by
  unfold idleFor at found
  split at found
  · rename_i same lookup
    simp only [Option.some.injEq, Prod.mk.injEq] at found
    obtain ⟨rfl, rfl⟩ := found
    exact ⟨Table.mem_of_lookup lookup, fun _ _ => rfl⟩
  · rename_i missing
    refine ⟨List.mem_of_mem_head? found, ?_⟩
    intro other member
    exact absurd member (Table.notMem_of_lookup missing)

theorem Placed.append (placed : Placed manager)
    (session : WebsocketSession)
    (free : manager.sessions.lookup sessionKey = none)
    (absent : manager.idleSessions = []) :
    Placed { manager with
      objects := manager.objects ++ [session]
      sessions := manager.sessions.assign sessionKey
        manager.objects.length } := by
  have entries : ∀ entry ∈ manager.sessions.assign sessionKey
        manager.objects.length ++ manager.idleSessions,
      entry = (sessionKey, manager.objects.length) ∨
        entry ∈ manager.entries := by
    intro entry member
    rcases List.mem_append.mp member with registered | idle
    · rcases (Table.mem_assign free).mp registered with before | new
      · exact Or.inr (List.mem_append_left _ before)
      · exact Or.inl new
    · exact Or.inr (List.mem_append_right _ idle)
  have older : ∀ entry ∈ manager.entries,
      entry.2 ≠ manager.objects.length := by
    intro entry member
    exact Nat.ne_of_lt (placed.allocated entry member)
  refine ⟨?_, ?_, ?_⟩
  · intro first second name firstMember secondMember
    rcases entries _ firstMember with firstNew | firstOld
    · rcases entries _ secondMember with secondNew | secondOld
      · simp only [Prod.mk.injEq] at firstNew secondNew
        rw [firstNew.1, secondNew.1]
      · simp only [Prod.mk.injEq] at firstNew
        exact absurd firstNew.2 (older _ secondOld)
    · rcases entries _ secondMember with secondNew | secondOld
      · simp only [Prod.mk.injEq] at secondNew
        exact absurd secondNew.2 (older _ firstOld)
      · exact placed.single first second name firstOld secondOld
  · intro key registered idle _ member
    simp only [absent] at member
    cases member
  · intro entry member
    simp only [List.length_append, List.length_singleton]
    rcases entries entry member with new | before
    · rw [new]
      exact Nat.lt_succ_self _
    · exact Nat.lt_succ_of_lt (placed.allocated entry before)

theorem object_append (manager : SessionManager)
    (session : WebsocketSession) (sessions : Table Int Nat) {other : Nat}
    (different : other ≠ manager.objects.length) :
    ({ manager with
       objects := manager.objects ++ [session]
       sessions := sessions } : SessionManager).object other =
      manager.object other := by
  simp only [object, List.getD_eq_getElem?_getD]
  rcases Nat.lt_or_gt_of_ne different with below | above
  · rw [List.getElem?_append_left below]
  · rw [List.getElem?_eq_none (by simp; omega),
      List.getElem?_eq_none (by omega)]

theorem createSession_takes (placed : Placed manager) (websocket : Nat)
    (free : manager.sessions.lookup sessionKey = none) :
    Takes manager (manager.createSession websocket sessionKey).2 sessionKey
        (manager.createSession websocket sessionKey).1 ∧
      Placed (manager.createSession websocket sessionKey).2 ∧
      ((manager.createSession websocket sessionKey).2.object
        (manager.createSession websocket sessionKey).1).websocket =
        some websocket := by
  unfold createSession
  split
  · rename_i formerKey name found
    obtain ⟨idle, absent⟩ := idleFor_spec found
    have bound := placed.allocated _ (mem_entries_of_idle idle)
    refine ⟨⟨Table.assign_of_lookup _ free,
      fun _ => Table.notMem_of_lookup free, placed.unregistered idle,
      ?_, ?_⟩, ?_, ?_⟩
    · intro other
      exact field_update WebsocketSession.writeQueue manager name other
        (fun _ => rfl)
    · intro other different
      exact congrArg WebsocketSession.websocket
        (object_update_of_ne _ different)
    · exact placed.take idle free absent rfl rfl
        (length_objects_update manager name _)
    · exact congrArg WebsocketSession.websocket
        (object_update_of_lt _ bound)
  · rename_i missing
    have empty : manager.idleSessions = [] := by
      unfold idleFor at missing
      split at missing
      · cases missing
      · exact List.head?_eq_none_iff.mp missing
    refine ⟨⟨Table.assign_of_lookup _ free,
      fun _ => Table.notMem_of_lookup free, ?_, ?_, ?_⟩, ?_, ?_⟩
    · intro other member
      exact Nat.lt_irrefl _
        (placed.allocated _ (mem_entries_of_session member))
    · intro other
      by_cases different : other = manager.objects.length
      · rw [different]
        simp [object]
      · exact congrArg WebsocketSession.writeQueue
          (object_append manager _ _ different)
    · intro other different
      exact congrArg WebsocketSession.websocket
        (object_append manager _ _ different)
    · exact placed.append _ free empty
    · simp [object]

end SessionManager

end Gateway

end TinyChat
