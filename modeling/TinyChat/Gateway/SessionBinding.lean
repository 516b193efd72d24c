import TinyChat.Gateway.SessionSteps

/-!
# The bindings of registered and idle sessions

Four operations move session objects between the two tables of the session
manager, under the same key or, when the oldest idle session is taken for
another user, under a new one.  A session stays bound to the key under which
it is found, or it is bound to no key at all.
-/

namespace TinyChat

namespace Gateway

open Transition

/-- The session belongs to the key, or to no key. -/
def WebsocketSession.BoundTo (session : WebsocketSession)
    (sessionKey : Int) : Prop :=
  session.sessionKey = none ∨ session.sessionKey = some sessionKey

instance boundTo_decidable (session : WebsocketSession) (sessionKey : Int) :
    Decidable (session.BoundTo sessionKey) :=
  inferInstanceAs (Decidable (_ ∨ _))

namespace SessionManager

/-- Both tables have unique keys, they are well placed, and the objects are
bound to the keys under which they are found. -/
structure Tabled (manager : SessionManager) : Prop where
  placed : manager.Placed
  registeredKeys : (manager.sessions.map Prod.fst).Nodup
  idleKeys : (manager.idleSessions.map Prod.fst).Nodup
  bound : ∀ sessionKey name, (sessionKey, name) ∈ manager.entries →
    (manager.object name).BoundTo sessionKey

variable {manager next : SessionManager} {sessionKey : Int} {name : Nat}

theorem tabled_initial : Tabled {} := by
  refine ⟨attached_initial.placed, List.nodup_nil, List.nodup_nil, ?_⟩
  intro sessionKey name member
  cases member

theorem Tabled.update (tabled : Tabled manager) (name : Nat)
    {change : WebsocketSession → WebsocketSession}
    (keeps : ∀ session, (change session).sessionKey = session.sessionKey) :
    Tabled (manager.update name change) := by
  refine ⟨tabled.placed.update name change, tabled.registeredKeys,
    tabled.idleKeys, ?_⟩
  intro key other member
  have same := field_update WebsocketSession.sessionKey manager name other
    keeps
  have bound := tabled.bound key other member
  unfold WebsocketSession.BoundTo at bound ⊢
  rw [same]
  exact bound

theorem Tabled.rebind (tabled : Tabled manager)
    (listed : (sessionKey, name) ∈ manager.entries) (websocket : Nat) :
    Tabled (manager.update name (·.rebind websocket sessionKey)) := by
  refine ⟨tabled.placed.update name _, tabled.registeredKeys,
    tabled.idleKeys, ?_⟩
  intro key other member
  rcases object_update manager name other
    (·.rebind websocket sessionKey) with same | ⟨isName, rebound⟩
  · rw [same]
    exact tabled.bound key other member
  · subst isName
    rw [rebound]
    have sameKey := tabled.placed.single sessionKey key other listed member
    exact Or.inr (congrArg some sameKey)

/-! ## Giving a session back -/

theorem Tabled.recycleSession (tabled : Tabled manager) (sessionKey : Int) :
    Tabled (manager.recycleSession sessionKey) := by
  have gives := recycleSession_givesBack tabled.placed sessionKey
  have entries := gives.entries
  refine ⟨tabled.placed.givesBack gives, ?_, ?_, ?_⟩
  · rw [gives.sessions]
    exact Table.nodup_pop tabled.registeredKeys
  · unfold SessionManager.recycleSession
    split
    · exact tabled.idleKeys
    · dsimp only
      split
      · exact Table.nodup_assign tabled.idleKeys
      · exact tabled.idleKeys
  · intro key other member
    have bound := tabled.bound key other (entries _ member)
    unfold SessionManager.recycleSession
    split
    · exact bound
    · rename_i name found
      show ((manager.update name .clear).object other).BoundTo key
      rcases object_update manager name other .clear with
        same | ⟨_, cleared⟩
      · rw [same]
        exact bound
      · rw [cleared]
        exact Or.inl rfl

theorem Tabled.retrieveSession (tabled : Tabled manager)
    (sessionKey : Int) : Tabled (manager.retrieveSession sessionKey) := by
  cases found : manager.sessions.lookup sessionKey with
  | none =>
      have same : manager.retrieveSession sessionKey = manager := by
        simp only [SessionManager.retrieveSession, found]
      rw [same]
      exact tabled
  | some name =>
      have gives := retrieveSession_givesBack tabled.placed
        (Table.mem_of_lookup found)
      have entries := gives.entries
      have moved : manager.retrieveSession sessionKey =
          { manager with
            sessions := manager.sessions.pop sessionKey
            idleSessions :=
              manager.idleSessions.assign sessionKey name } := by
        simp only [SessionManager.retrieveSession, found]
      rw [moved] at gives entries ⊢
      refine ⟨tabled.placed.givesBack gives,
        Table.nodup_pop tabled.registeredKeys,
        Table.nodup_assign tabled.idleKeys, ?_⟩
      intro key other member
      exact tabled.bound key other (entries _ member)

/-! ## Taking a session -/

theorem Tabled.reuseSession (tabled : Tabled manager)
    (reused : manager.reuseSession sessionKey = some (name, next)) :
    Tabled next := by
  obtain ⟨takes, placed⟩ := reuseSession_takes tabled.placed reused
  unfold SessionManager.reuseSession at reused
  split at reused
  · cases reused
  · rename_i found lookup
    simp only [Option.some.injEq, Prod.mk.injEq] at reused
    obtain ⟨rfl, rfl⟩ := reused
    refine ⟨placed, Table.nodup_assign tabled.registeredKeys,
      Table.nodup_pop tabled.idleKeys, ?_⟩
    intro key other member
    apply tabled.bound key other
    rcases List.mem_append.mp member with registered | idle
    · rcases Table.mem_of_mem_assign registered with before | new
      · exact List.mem_append_left _ before
      · rw [new]
        exact mem_entries_of_idle (Table.mem_of_lookup lookup)
    · exact List.mem_append_right _ (Table.mem_pop.mp idle).1

/-- The object that `create_session` returns is bound to its key; the others
and the idle sessions that remain are left alone. -/
theorem createSession_objects (placed : manager.Placed) (websocket : Nat)
    (sessionKey : Int) :
    ((manager.createSession websocket sessionKey).2.object
        (manager.createSession websocket sessionKey).1).sessionKey =
      some sessionKey ∧
    (∀ other, other ≠ (manager.createSession websocket sessionKey).1 →
      (manager.createSession websocket sessionKey).2.object other =
        manager.object other) ∧
    (manager.createSession websocket sessionKey).2.idleSessions.Sublist
      manager.idleSessions := by
  unfold createSession
  split
  · rename_i formerKey name found
    have allocated := placed.allocated _
      (mem_entries_of_idle (idleFor_spec found).1)
    refine ⟨?_, ?_, List.filter_sublist⟩
    · exact congrArg WebsocketSession.sessionKey
        (object_update_of_lt _ allocated)
    · intro other different
      exact object_update_of_ne _ different
  · refine ⟨by simp [object], ?_, List.Sublist.refl _⟩
    intro other different
    exact object_append manager _ _ different

theorem Tabled.createSession (tabled : Tabled manager) (websocket : Nat)
    (free : manager.sessions.lookup sessionKey = none) :
    Tabled (manager.createSession websocket sessionKey).2 := by
  obtain ⟨takes, placed, _⟩ :=
    createSession_takes tabled.placed websocket free
  obtain ⟨own, others, idle⟩ :=
    createSession_objects tabled.placed websocket sessionKey
  generalize (manager.createSession websocket sessionKey).1 = name at *
  generalize (manager.createSession websocket sessionKey).2 = created at *
  refine ⟨placed, ?_, tabled.idleKeys.sublist (idle.map Prod.fst), ?_⟩
  · rw [takes.sessions, ← Table.assign_of_lookup name free]
    exact Table.nodup_assign tabled.registeredKeys
  · intro key other member
    by_cases isName : other = name
    · subst isName
      have registered : (sessionKey, other) ∈ created.sessions := by
        rw [takes.sessions]
        exact List.mem_append_right _ (List.mem_singleton_self _)
      rw [placed.single key sessionKey other member
        (mem_entries_of_session registered)]
      exact Or.inr own
    · rw [others other isName]
      apply tabled.bound key other
      rcases List.mem_append.mp member with registered | waiting
      · rw [takes.sessions] at registered
        rcases List.mem_append.mp registered with before | new
        · exact List.mem_append_left _ before
        · cases List.mem_singleton.mp new
          exact absurd rfl isName
      · exact List.mem_append_right _ (idle.mem waiting)

/-! ## Sequences of calls -/

/-- A call of the session manager. -/
inductive Call where
  | createSession (websocket : Nat) (sessionKey : Int)
  | recycleSession (sessionKey : Int)
  | reuseSession (sessionKey : Int)
  | retrieveSession (sessionKey : Int)

/-- A call, with the session that it returns if it returns one. -/
def call : Step SessionManager Call (Option Nat)
  | manager, .createSession websocket sessionKey =>
      let created := manager.createSession websocket sessionKey
      some (created.2, [some created.1])
  | manager, .recycleSession sessionKey =>
      some (manager.recycleSession sessionKey, [none])
  | manager, .reuseSession sessionKey =>
      match manager.reuseSession sessionKey with
      | some (name, next) => some (next, [some name])
      | none => some (manager, [none])
  | manager, .retrieveSession sessionKey =>
      some (manager.retrieveSession sessionKey, [none])

/-- A session is created only for a key that is not registered. -/
def CreatesUnregistered (manager : SessionManager) : Call → Prop
  | .createSession _ sessionKey => manager.sessions.lookup sessionKey = none
  | _ => True

instance createsUnregistered_decidable (manager : SessionManager) :
    ∀ call, Decidable (CreatesUnregistered manager call)
  | .createSession _ _ => inferInstanceAs (Decidable (_ = _))
  | .recycleSession _ => .isTrue trivial
  | .reuseSession _ => .isTrue trivial
  | .retrieveSession _ => .isTrue trivial

theorem Tabled.call {action : Call} {events : List (Option Nat)}
    (tabled : Tabled manager) (creates : CreatesUnregistered manager action)
    (called : manager.call action = some (next, events)) :
    Tabled next := by
  cases action with
  | createSession websocket sessionKey =>
      simp only [SessionManager.call, Option.some.injEq, Prod.mk.injEq]
        at called
      rw [← called.1]
      exact tabled.createSession websocket creates
  | recycleSession sessionKey =>
      simp only [SessionManager.call, Option.some.injEq, Prod.mk.injEq]
        at called
      rw [← called.1]
      exact tabled.recycleSession sessionKey
  | reuseSession sessionKey =>
      simp only [SessionManager.call] at called
      split at called
      · rename_i name reused found
        simp only [Option.some.injEq, Prod.mk.injEq] at called
        rw [← called.1]
        exact tabled.reuseSession found
      · simp only [Option.some.injEq, Prod.mk.injEq] at called
        rw [← called.1]
        exact tabled
  | retrieveSession sessionKey =>
      simp only [SessionManager.call, Option.some.injEq, Prod.mk.injEq]
        at called
      rw [← called.1]
      exact tabled.retrieveSession sessionKey

theorem Tabled.disjoint (tabled : Tabled manager) (sessionKey : Int) :
    manager.sessions.lookup sessionKey = none ∨
      manager.idleSessions.lookup sessionKey = none := by
  cases found : manager.sessions.lookup sessionKey with
  | none => exact Or.inl rfl
  | some name =>
      right
      exact tabled.placed.unregistered_idle (Table.mem_of_lookup found)

theorem Tabled.objects_nodup (tabled : Tabled manager) :
    (manager.entries.map Prod.snd).Nodup := by
  have entries : manager.entries.Nodup := by
    apply List.Nodup.append (List.Nodup.of_map Prod.fst tabled.registeredKeys)
      (List.Nodup.of_map Prod.fst tabled.idleKeys)
    intro entry registered idle
    exact tabled.placed.separate entry.1 entry.2 entry.2 registered idle
  apply List.Nodup.map_on _ entries
  intro first firstListed second secondListed same
  obtain ⟨firstKey, name⟩ := first
  obtain ⟨secondKey, other⟩ := second
  simp only at same
  subst same
  rw [tabled.placed.single firstKey secondKey name firstListed secondListed]

/-- After every sequence of calls no key is in both tables, no object is
listed twice, and a registered session is bound to its key or to none. -/
theorem run_tabled {trace : List (Option Nat)}
    (run : Run call CreatesUnregistered {} trace manager) :
    (∀ sessionKey, manager.sessions.lookup sessionKey = none ∨
      manager.idleSessions.lookup sessionKey = none) ∧
    (manager.entries.map Prod.snd).Nodup ∧
    ∀ sessionKey name, manager.sessions.lookup sessionKey = some name →
      (manager.object name).BoundTo sessionKey := by
  have tabled : Tabled manager := by
    apply run.state_invariant tabled_initial
    intro events manager next action tabled creates called
    exact tabled.call creates called
  refine ⟨tabled.disjoint, tabled.objects_nodup, ?_⟩
  intro sessionKey name found
  exact tabled.bound sessionKey name
    (mem_entries_of_session (Table.mem_of_lookup found))

/-- The session of key 7 is recycled and created again for key 9, that of key
12 is taken back and reused. -/
theorem run_tabled_reused :
    ∃ (trace : List (Option Nat)) (manager : SessionManager),
      Run call CreatesUnregistered {} trace manager ∧
      manager.sessions = [(9, 0), (12, 1)] ∧
      (∀ sessionKey, manager.sessions.lookup sessionKey = none ∨
        manager.idleSessions.lookup sessionKey = none) ∧
      (manager.entries.map Prod.snd).Nodup ∧
      ∀ sessionKey name, manager.sessions.lookup sessionKey = some name →
        (manager.object name).BoundTo sessionKey := by
  have executed : (exec call CreatesUnregistered {}
      [.createSession 0 7, .createSession 1 12, .recycleSession 7,
        .createSession 2 9, .retrieveSession 12, .reuseSession 12]).map
        (fun result => (result.2, result.1.sessions)) =
      some ([some 0, some 1, none, some 0, none, some 1],
        [(9, 0), (12, 1)]) := by
    decide
  obtain ⟨⟨manager, trace⟩, result, same⟩ :=
    Option.map_eq_some_iff.mp executed
  simp only [Prod.mk.injEq] at same
  obtain ⟨rfl, registered⟩ := same
  have run := Run.of_exec result
  exact ⟨_, manager, run, registered, run_tabled run⟩

end SessionManager

/-! ## The gateway -/

section

variable {server next : Server} {action : ServerAction}
  {trace events : List ServerEvent}

/-- Endpoints that reuse a session rebind it to the key under which it is
registered. -/
theorem tabled_stepped
    (attached : Attached trace server.manager server.endpoints)
    (tabled : server.manager.Tabled)
    (stepped : server.Stepped action next events) :
    next.manager.Tabled := by
  cases stepped with
  | push => exact tabled
  | put => exact tabled.update _ (fun _ => rfl)
  | receive | deliver | unacknowledged | unanswered | deliverRaises
  | survivorDelivers | survivorRaises => exact tabled
  | acknowledge | survivorAcknowledges =>
      exact tabled.update _ (fun _ => rfl)
  | createSession free => exact tabled.createSession _ free
  | reuseSession reused => exact tabled.reuseSession reused
  | rebind present reused =>
      have listed := attached.listed _ (List.mem_of_getElem? present)
      exact tabled.rebind (SessionManager.mem_entries_of_session listed) _
  | recycles => exact tabled.recycleSession _
  | retrieves => exact tabled.retrieveSession _
  | startTasks => exact tabled
  | readerDone => exact tabled.recycleSession _
  | send => exact tabled.update _ (fun _ => rfl)
  | writerDone => exact tabled.update _ (fun _ => rfl)
  | setState => exact tabled.update _ (fun _ => rfl)

/-- The tables of a gateway are in order after every run of its endpoints,
readers, writers and push handlers. -/
theorem Server.run_managerTabled (run : AnyRun Server.step {} trace server) :
    server.manager.Tabled := by
  have both : Attached trace server.manager server.endpoints ∧
      server.manager.Tabled := by
    apply @Run.invariant _ _ _ _ _ _ _ _ (fun trace (server : Server) =>
      Attached trace server.manager server.endpoints ∧
        server.manager.Tabled) run
    · exact ⟨attached_initial, SessionManager.tabled_initial⟩
    · intro trace events server next action holds _ stepped
      obtain ⟨attached, tabled⟩ := holds
      have steps := Server.step_stepped stepped
      exact ⟨attached.stepped steps, tabled_stepped attached tabled steps⟩
  exact both.2

end

end Gateway

end TinyChat
