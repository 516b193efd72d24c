import TinyChat.Manager.Tracking

/-!
# The announced services are those in etcd

When the watches have consumed every change, what was announced is what etcd
holds for the included services of the other platforms, if the manager could
track the history that it met.
-/

namespace TinyChat

namespace Manager

instance decidableAnnounced (trace : List Event) (info : ServiceInfo) :
    Decidable (Announced trace info) :=
  decidable_of_iff _ announced_iff.symm

namespace Discovery

variable {config : DiscoveryConfig} {state next : Discovery}
  {action : Action} {events trace : List Event}

instance decidableConsumed (config : DiscoveryConfig) (state : Discovery) :
    Decidable (state.Consumed config) :=
  decidable_of_iff
    (∀ srvName ∈ config.includeServices,
      (state.cursor srvName).any (fun place =>
        (state.history.drop place).all (fun change =>
          !config.matched srvName change.key)) = true)
    (by
      unfold Consumed
      simp [Option.any_eq_true])

/-- The manager stores what it stored before, and sees what it saw. -/
theorem Tracking.restore (tracking : Tracking config state)
    {cache : Table Text ServiceInfoItem} {writes : List CacheWrite}
    (same : ∀ entry item,
      ({ state with cache, writes } : Discovery).Stored entry item ↔
        state.Stored entry item) :
    Tracking config { state with cache, writes } := by
  refine { tracking with idle := ?_, stored := ?_, announced := ?_ }
  · intro before entry item stored
    exact tracking.idle before entry item ((same entry item).mp stored)
  · intro name also platformId apart address stored
    exact tracking.stored name also platformId apart address
      ((same _ _).mp stored)
  · intro todo found name also platformId apart address saw
    rw [same]
    exact tracking.announced todo found name also platformId apart address
      saw

theorem Tracking.step (tracking : Tracking config state)
    (separate : config.Separate) (sane : Sane config everyEntry state)
    (ledger : Ledger config everyEntry trace state)
    (permitted : state.tracked config action = true)
    (stepped : step config state action = some (next, events)) :
    Tracking config next := by
  cases action with
  | put key value =>
      cases stepped
      exact tracking.change key (some value)
  | delete key =>
      simp only [Discovery.step] at stepped
      split at stepped
      · cases stepped
        exact tracking.change key none
      · cases stepped
  | list name =>
      simp only [Discovery.step] at stepped
      split at stepped
      · rename_i ready
        cases stepped
        exact tracking.list ready.1 ready.2
      · cases stepped
  | crawled =>
      simp only [Discovery.step] at stepped
      split at stepped
      · rename_i ready
        cases stepped
        exact tracking.crawled sane ready.1 (List.all_eq_true.mp ready.2)
      · cases stepped
  | announce =>
      simp only [Discovery.step] at stepped
      split at stepped
      · rename_i name key value rest found
        rw [tracked, found] at permitted
        have after := tracking.announce separate sane ledger found permitted
        rw [Option.some.injEq] at stepped
        rw [stepped] at after
        exact after
      · cases stepped
  | watch name =>
      simp only [Discovery.step] at stepped
      split at stepped
      · rename_i ready
        cases stepped
        exact tracking.watch ready.2.2 permitted
      · cases stepped
  | consume name =>
      simp only [Discovery.step] at stepped
      split at stepped
      · rename_i ready
        have idle := ready.2.1
        rw [Bool.not_eq_true'] at idle
        split at stepped
        · cases stepped
        · rename_i place opened
          split at stepped
          · cases stepped
          · rename_i change found
            rw [tracked, opened, Option.bind_some, found] at permitted
            have after := tracking.consume separate sane ledger idle opened
              found permitted
            rw [Option.some.injEq] at stepped
            rw [stepped] at after
            exact after
      · cases stepped
  | store place =>
      simp only [Discovery.step] at stepped
      split at stepped
      · cases stepped
      · rename_i write pending
        cases stepped
        exact tracking.restore (fun entry =>
          (store_effect sane pending).2 entry trivial)
  | lose name =>
      cases stepped
      exact { tracking with }
  | rebuild => cases permitted

theorem run_tracking (separate : config.Separate)
    (run : Transition.Run (step config)
      (fun state action => state.tracked config action = true) {} trace
      state) :
    Sane config everyEntry state ∧ Ledger config everyEntry trace state ∧
      Tracking config state := by
  apply run.invariant ⟨sane_start, ledger_start, tracking_start⟩
  intro trace events state next action holds permitted stepped
  obtain ⟨sane, ledger, tracking⟩ := holds
  have spares : state.Spares everyEntry action := by
    cases action with
    | rebuild => cases permitted
    | _ => trivial
  obtain ⟨stays, effect⟩ := step_effect separate sane spares stepped
  exact ⟨stays, ledger.effect separate sane effect,
    tracking.step separate sane ledger permitted stepped⟩

theorem run_announced (separate : config.Separate)
    (run : Transition.Run (step config)
      (fun state action => state.tracked config action = true) {} trace
      state)
    (consumed : state.Consumed config) (info : ServiceInfo) :
    Announced trace info ↔
      info.srvName ∈ config.includeServices ∧
        info.platformId ≠ config.platformId ∧
          state.entries.lookup
            (config.serviceKey info.srvName info.platformId) =
              some info.srvAddr := by
  obtain ⟨sane, ledger, tracking⟩ := run_tracking separate run
  rw [ledger.announced_iff separate trivial]
  refine and_congr_right ?_
  intro included
  refine and_congr_right ?_
  intro other
  obtain ⟨place, opened, rest⟩ := consumed info.srvName included
  have settled := (sane.opened info.srvName place opened).2
  have seen : state.seen info.srvName
      (config.serviceKey info.srvName info.platformId) =
        state.entries.lookup
          (config.serviceKey info.srvName info.platformId) := by
    rw [Discovery.seen, opened, tracking.entries]
    apply ChangeLog.latest_rest
    intro change member same
    have unmatched := rest change member
    rw [same, DiscoveryConfig.matched_serviceKey] at unmatched
    cases unmatched
  rw [← seen]
  constructor
  · exact tracking.stored info.srvName included info.platformId other
      info.srvAddr
  · intro saw
    rcases tracking.announced [] settled info.srvName included
      info.platformId other info.srvAddr saw with present | waits
    · exact present
    · cases waits

/-- A manager that includes one service. -/
def userConfig : DiscoveryConfig where
  servicesPrefix := ['/']
  includeServices := [['u', 's', 'e', 'r']]
  platformId := ['a']

theorem run_announced_again : ∃ (trace : List Event) (state : Discovery),
    state.Consumed userConfig ∧
      (Announced trace ⟨['u', 's', 'e', 'r'], ['y'], ['b']⟩ ↔
        ['u', 's', 'e', 'r'] ∈ userConfig.includeServices ∧
          ['b'] ≠ userConfig.platformId ∧
            state.entries.lookup
              (userConfig.serviceKey ['u', 's', 'e', 'r'] ['b']) =
                some ['y']) := by
  have reached : ∃ trace state, Transition.Run (step userConfig)
      (fun state action => state.tracked userConfig action = true) {} trace
      state ∧ state.Consumed userConfig := by
    apply Transition.Run.exists_state_of_exec
      [.put (userConfig.serviceKey ['u', 's', 'e', 'r'] ['b']) ['x'],
        .list ['u', 's', 'e', 'r'], .crawled, .announce,
        .watch ['u', 's', 'e', 'r'],
        .delete (userConfig.serviceKey ['u', 's', 'e', 'r'] ['b']),
        .consume ['u', 's', 'e', 'r'],
        .put (userConfig.serviceKey ['u', 's', 'e', 'r'] ['b']) ['y'],
        .consume ['u', 's', 'e', 'r'], .store 0]
    decide +kernel
  obtain ⟨trace, state, run, consumed⟩ := reached
  exact ⟨trace, state, consumed, run_announced (by decide) run consumed _⟩

/-- An address that changes under its key is not announced again. -/
theorem addressChange_unseen : ∃ trace state,
    Transition.Run (step userConfig) (fun _ action => action ≠ .rebuild) {}
      trace state ∧ state.Consumed userConfig ∧
    ¬(Announced trace ⟨['u', 's', 'e', 'r'], ['x'], ['b']⟩ ↔
      ['u', 's', 'e', 'r'] ∈ userConfig.includeServices ∧
        ['b'] ≠ userConfig.platformId ∧
          state.entries.lookup
            (userConfig.serviceKey ['u', 's', 'e', 'r'] ['b']) =
              some ['x']) := by
  apply Transition.Run.exists_both_of_exec
    [.list ['u', 's', 'e', 'r'], .crawled, .watch ['u', 's', 'e', 'r'],
      .put (userConfig.serviceKey ['u', 's', 'e', 'r'] ['b']) ['x'],
      .consume ['u', 's', 'e', 'r'], .store 0,
      .put (userConfig.serviceKey ['u', 's', 'e', 'r'] ['b']) ['y'],
      .consume ['u', 's', 'e', 'r']]
  decide +kernel

/-- A service that registers between the listing and the watch is never
announced. -/
theorem gap_unseen : ∃ trace state,
    Transition.Run (step userConfig) (fun _ action => action ≠ .rebuild) {}
      trace state ∧ state.Consumed userConfig ∧ trace = [] ∧
    state.entries.lookup
      (userConfig.serviceKey ['u', 's', 'e', 'r'] ['b']) = some ['x'] := by
  apply Transition.Run.exists_both_of_exec
    [.list ['u', 's', 'e', 'r'], .crawled,
      .put (userConfig.serviceKey ['u', 's', 'e', 'r'] ['b']) ['x'],
      .watch ['u', 's', 'e', 'r']]
  decide +kernel

/-- A service with a longer name is announced as one of the included
service, on a platform that there is not. -/
theorem longerName_announced : ∃ trace state,
    Transition.Run (step userConfig) (fun _ action => action ≠ .rebuild) {}
      trace state ∧ state.Consumed userConfig ∧
    Announced trace ⟨['u', 's', 'e', 'r'], ['x'], ['/', 'b']⟩ ∧
    state.entries.lookup
      (userConfig.serviceKey ['u', 's', 'e', 'r'] ['/', 'b']) = none := by
  apply Transition.Run.exists_both_of_exec
    [.put (userConfig.serviceKey ['u', 's', 'e', 'r', 's'] ['b']) ['x'],
      .list ['u', 's', 'e', 'r'], .crawled, .announce,
      .watch ['u', 's', 'e', 'r']]
  decide +kernel

end Discovery

end Manager

end TinyChat
