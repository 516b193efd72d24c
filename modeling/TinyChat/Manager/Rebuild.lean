import TinyChat.Manager.EtcdMirror

/-!
# Services that are gone after a rebuild

A service that was announced should be withdrawn when its key is deleted, also
when the watches were lost in between.  The monitor clears the cache without a
new listing, and no deletion withdraws what the cache has lost.
-/

namespace TinyChat

namespace Manager

namespace Discovery

/-- The monitor does not lose the entry of a service. -/
def keepsEntry (entry : Text) (state : Discovery) : Action → Bool
  | .rebuild => (state.cache.lookup entry).isNone &&
      state.writes.all (fun write => write.key ≠ entry)
  | _ => true

/-- The watch of an announced service has the key in its view; when the key
was deleted, the watch still has to come to a deletion. -/
def Pursued (state : Discovery) (announced : Standing) : Prop :=
  ∃ place, state.cursor announced.info.srvName = some place ∧
    (ChangeLog.latest (state.history.take place) announced.key).isSome =
      true ∧
    (announced.deleted = true →
      ⟨announced.key, none⟩ ∈ state.history.drop place)

/-- What is known of an entry that the monitor does not lose. -/
structure Pursuit (entry : Text) (trace : List Event) (state : Discovery) :
    Prop where
  entries : ∀ key,
    state.entries.lookup key = ChangeLog.latest state.history key
  places : ∀ srvName place, state.cursor srvName = some place →
    place ≤ state.history.length
  settled : 0 < state.rebuilds → state.todo = some []
  pursued : 0 < state.rebuilds → ∀ announced ∈ standing trace,
    announced.entry = entry → state.Pursued announced

section

variable {config : DiscoveryConfig} {entry : Text} {state next : Discovery}
  {action : Action} {events trace : List Event}

theorem keepsEntry_spares (keeps : state.keepsEntry entry action = true) :
    state.Spares (fun other => other = entry) action := by
  cases action with
  | rebuild =>
      rw [keepsEntry, Bool.and_eq_true, List.all_eq_true] at keeps
      obtain ⟨missing, apart⟩ := keeps
      intro other same item stored
      subst same
      rcases stored with cached | ⟨write, member, here, _⟩
      · exact lookup_isNone.mp missing item cached
      · exact of_decide_eq_true (apart write member) here
  | _ => trivial

theorem pursuit_start : Pursuit entry [] {} := by
  constructor
  case entries =>
    intro key
    rfl
  case places =>
    intro srvName place opened
    cases opened
  case settled =>
    intro rebuilt
    cases rebuilt
  case pursued =>
    intro rebuilt
    cases rebuilt

/-- Nothing happens to the watch of a service and to etcd. -/
theorem Pursued.congr {announced : Standing}
    (pursued : state.Pursued announced)
    (cursor : next.cursor announced.info.srvName =
      state.cursor announced.info.srvName)
    (history : next.history = state.history) : next.Pursued announced := by
  rw [Pursued, cursor, history]
  exact pursued

theorem Pursued.change {announced : Standing}
    (pursued : state.Pursued announced)
    (places : ∀ srvName place, state.cursor srvName = some place →
      place ≤ state.history.length) (key : Text) (value : Option Text) :
    (state.change key value).Pursued announced := by
  obtain ⟨place, opened, present, deleted⟩ := pursued
  have bound := places _ place opened
  refine ⟨place, opened, ?_, ?_⟩
  · unfold Discovery.change
    dsimp only
    rw [List.take_append_of_le_length bound]
    exact present
  · intro gone
    unfold Discovery.change
    dsimp only
    rw [List.drop_append_of_le_length bound]
    exact List.mem_append_left _ (deleted gone)

theorem Pursued.mark {announced : Standing}
    (pursued : state.Pursued announced)
    (places : ∀ srvName place, state.cursor srvName = some place →
      place ≤ state.history.length) (key : Text) :
    (state.change key none).Pursued (announced.mark key) := by
  obtain ⟨place, opened, present, deleted⟩ := pursued.change places key none
  rw [Pursued, Standing.mark_info, Standing.mark_key]
  refine ⟨place, opened, present, ?_⟩
  intro marked
  unfold Standing.mark at marked
  split at marked
  · rename_i same
    obtain ⟨before, here, _⟩ := pursued
    have bound := places _ before here
    have equal : before = place := Option.some.inj (here.symm.trans opened)
    unfold Discovery.change
    dsimp only
    rw [← equal, List.drop_append_of_le_length bound, same]
    exact List.mem_append_right _ (List.mem_singleton_self _)
  · exact deleted marked

theorem Pursuit.change (pursuit : Pursuit entry trace state) (key : Text)
    (value : Option Text)
    (pursued : 0 < state.rebuilds → ∀ announced ∈ standing (trace ++ events),
      announced.entry = entry →
        (state.change key value).Pursued announced) :
    Pursuit entry (trace ++ events) (state.change key value) := by
  constructor
  case entries => exact entries_change pursuit.entries key value
  case places => exact places_change pursuit.places key value
  case settled => exact pursuit.settled
  case pursued => exact pursued

/-- An announcement only touches the cache. -/
theorem announce_cache (config : DiscoveryConfig) (state : Discovery)
    (srvName key value : Text) :
    ∃ cache, (state.announce config srvName key value).1 =
      { state with cache } := by
  unfold announce
  dsimp only
  split
  · exact ⟨_, rfl⟩
  · exact ⟨_, rfl⟩

theorem watching_iff : state.watching config = true ↔
    state.todo = some [] ∧ ∀ srvName ∈ config.includeServices,
      (state.cursor srvName).isSome = true := by
  rw [watching, decide_eq_true_eq, List.all_eq_true]

theorem onDelete_withdraws {announced : Standing}
    (valid : announced.Valid config)
    (cached : state.cache.lookup announced.entry = some announced.item) :
    (state.onDelete config announced.info.srvName announced.key).2 =
      [.offline announced.info] := by
  unfold Standing.entry at cached
  unfold onDelete
  dsimp only
  rw [valid.cut, if_pos valid.other, cached]
  rfl

/-- A change announces a service from the key that is put, or withdraws one,
or neither. -/
theorem onConsume_events (config : DiscoveryConfig) (state : Discovery)
    (srvName : Text) (change : ChangeLog.Change Text Text) :
    (state.onConsume config srvName change).2 = [] ∨
      (∃ info, info.srvName = srvName ∧ change.value.isSome = true ∧
        (state.onConsume config srvName change).2 =
          [.online info change.key]) ∨
      ∃ info, (state.onConsume config srvName change).2 =
        [.offline info] := by
  unfold onConsume onPut onDelete
  dsimp only
  split
  · split
    · rename_i value put
      split
      · exact .inr (.inl ⟨_, rfl, Option.isSome_iff_exists.mpr ⟨_, put⟩, rfl⟩)
      · exact .inl rfl
    · split
      · split
        · exact .inl rfl
        · exact .inr (.inr ⟨_, rfl⟩)
      · exact .inl rfl
  · exact .inl rfl

/-- A service that still stands after its watch has come to a change was
announced by it, or its key was not deleted. -/
theorem standing_consumed (separate : config.Separate)
    (sane : Sane config (fun other => other = entry) state)
    (ledger : Ledger config (fun other => other = entry) trace state)
    {srvName : Text} (idle : state.busy srvName = false)
    (change : ChangeLog.Change Text Text) {announced : Standing}
    (member : announced ∈ standing
      (trace ++ (state.onConsume config srvName change).2))
    (here : announced.entry = entry) :
    announced.info.srvName = srvName ∧ announced.key = change.key ∧
        announced.deleted = false ∧ change.value.isSome = true ∨
      announced ∈ standing trace ∧
        (announced.info.srvName = srvName → change.key = announced.key →
          change.value.isSome = true) := by
  have stays : announced ∈ standing trace →
      (∀ info, (state.onConsume config srvName change).2 = [.offline info] →
        announced.info ≠ info) →
      announced.info.srvName = srvName → change.key = announced.key →
        change.value.isSome = true := by
    intro before different name same
    by_contra removed
    rw [Bool.not_eq_true, Option.isSome_eq_false_iff,
      Option.isNone_iff_eq_none] at removed
    have valid := ledger.valid announced before
    have stored := ledger.holds announced before here
    rw [← name] at idle
    have cached := (sane.stored_iff separate valid.included idle here).mp
      stored
    refine different announced.info ?_ rfl
    unfold onConsume
    rw [same, removed, ← name, valid.matched]
    exact onDelete_withdraws valid cached
  rcases onConsume_events config state srvName change with
    quiet | ⟨info, name, put, online⟩ | ⟨info, offline⟩
  · rw [quiet, List.append_nil] at member
    refine .inr ⟨member, stays member ?_⟩
    intro info reported
    rw [quiet] at reported
    cases reported
  · rw [online] at member
    rcases mem_standing_online.mp member with new | before
    · rw [new]
      exact .inl ⟨name, rfl, rfl, put⟩
    · refine .inr ⟨before, stays before ?_⟩
      intro info reported
      rw [online] at reported
      cases reported
  · rw [offline] at member
    obtain ⟨before, different⟩ := mem_standing_offline.mp member
    refine .inr ⟨before, stays before ?_⟩
    intro other reported
    rw [offline] at reported
    cases reported
    exact different

theorem Pursued.advance {announced : Standing} {place : Nat}
    {change : ChangeLog.Change Text Text}
    (pursued : state.Pursued announced)
    (opened : state.cursor announced.info.srvName = some place)
    (found : state.history[place]? = some change)
    (kept : change.key = announced.key → change.value.isSome = true)
    (cursor : next.cursor announced.info.srvName = some (place + 1))
    (history : next.history = state.history) : next.Pursued announced := by
  obtain ⟨other, here, present, deleted⟩ := pursued
  have equal : other = place := Option.some.inj (here.symm.trans opened)
  rw [equal] at present deleted
  refine ⟨place + 1, cursor, ?_, ?_⟩
  · rw [history, ChangeLog.latest_next found]
    split
    · rename_i same
      exact kept same
    · exact present
  · intro gone
    obtain ⟨bound, value⟩ := List.getElem?_eq_some_iff.mp found
    have later := deleted gone
    rw [List.drop_eq_getElem_cons bound, value] at later
    rw [history]
    rcases List.mem_cons.mp later with first | rest
    · rw [← first] at kept
      exact absurd (kept rfl) Bool.false_ne_true
    · exact rest

theorem Pursuit.consume (pursuit : Pursuit entry trace state)
    (separate : config.Separate)
    (sane : Sane config (fun other => other = entry) state)
    (ledger : Ledger config (fun other => other = entry) trace state)
    {srvName : Text} {place : Nat} {change : ChangeLog.Change Text Text}
    (idle : state.busy srvName = false)
    (opened : state.cursor srvName = some place)
    (found : state.history[place]? = some change) :
    let result := ({ state with
      cursor := Function.update state.cursor srvName
        (some (place + 1)) } : Discovery).onConsume config srvName change
    Pursuit entry (trace ++ result.2) result.1 := by
  intro result
  obtain ⟨included, settled⟩ := sane.opened srvName place opened
  have moved := watch_sane sane settled included (place + 1)
  have kept : Ledger config (fun other => other = entry) trace { state with
      cursor := Function.update state.cursor srvName (some (place + 1)) } :=
    ⟨ledger.valid, ledger.holds, ledger.stored⟩
  have stands : ∀ announced ∈ standing (trace ++ result.2),
      announced.entry = entry → _ ∨ _ :=
    fun announced member here =>
      standing_consumed separate moved kept idle change member here
  obtain ⟨cache, writes, after⟩ := onConsume_cache config { state with
    cursor := Function.update state.cursor srvName (some (place + 1)) }
      srvName change
  have cursor : result.1.cursor =
      Function.update state.cursor srvName (some (place + 1)) := by
    rw [after]
  have history : result.1.history = state.history := by
    rw [after]
  have bound := (List.getElem?_eq_some_iff.mp found).1
  constructor
  case entries =>
    rw [after]
    exact pursuit.entries
  case places =>
    intro name other here
    rw [cursor] at here
    rw [history]
    by_cases same : name = srvName
    · rw [same, Function.update_self, Option.some.injEq] at here
      rw [← here]
      exact bound
    · rw [Function.update_of_ne same] at here
      exact pursuit.places name other here
  case settled =>
    intro _
    rw [after]
    exact settled
  case pursued =>
    intro rebuilt announced member here
    have before : 0 < state.rebuilds := by
      rw [after] at rebuilt
      exact rebuilt
    rcases stands announced member here with
      ⟨name, key, fresh, put⟩ | ⟨earlier, keeps⟩
    · refine ⟨place + 1, ?_, ?_, ?_⟩
      · rw [cursor, name, Function.update_self]
      · rw [history, ChangeLog.latest_next found, if_pos key.symm]
        exact put
      · intro gone
        rw [fresh] at gone
        cases gone
    · have pursued := pursuit.pursued before announced earlier here
      by_cases name : announced.info.srvName = srvName
      · rw [← name] at opened
        apply pursued.advance opened found (keeps name)
        · rw [cursor, name, Function.update_self]
        · exact history
      · apply pursued.congr
        · rw [cursor, Function.update_of_ne name]
        · exact history

theorem Pursuit.step (pursuit : Pursuit entry trace state)
    (separate : config.Separate)
    (sane : Sane config (fun other => other = entry) state)
    (ledger : Ledger config (fun other => other = entry) trace state)
    (keeps : state.keepsEntry entry action = true)
    (stepped : step config state action = some (next, events)) :
    Pursuit entry (trace ++ events) next := by
  cases action with
  | put key value =>
      cases stepped
      apply pursuit.change key (some value)
      intro rebuilt announced member here
      rw [List.append_nil] at member
      exact (pursuit.pursued rebuilt announced member here).change
        pursuit.places key (some value)
  | delete key =>
      simp only [Discovery.step] at stepped
      split at stepped
      · cases stepped
        apply pursuit.change key none
        intro rebuilt announced member here
        obtain ⟨earlier, before, rfl⟩ := mem_standing_deleted.mp member
        rw [Standing.mark_entry] at here
        exact (pursuit.pursued rebuilt earlier before here).mark
          pursuit.places key
      · cases stepped
  | list name =>
      simp only [Discovery.step] at stepped
      split at stepped
      · cases stepped
        rw [List.append_nil]
        exact { pursuit with }
      · cases stepped
  | crawled =>
      simp only [Discovery.step] at stepped
      split at stepped
      · rename_i ready
        cases stepped
        rw [List.append_nil]
        refine { pursuit with settled := ?_ }
        intro rebuilt
        have settled := pursuit.settled rebuilt
        rw [ready.1] at settled
        cases settled
      · cases stepped
  | announce =>
      simp only [Discovery.step] at stepped
      split at stepped
      · rename_i name key value rest found
        have never : ¬0 < state.rebuilds := by
          intro rebuilt
          have settled := pursuit.settled rebuilt
          rw [found] at settled
          cases settled
        have only_cache := announce_cache config
          { state with todo := some rest } name key value
        obtain ⟨cache, after⟩ := only_cache
        rw [Option.some.injEq] at stepped
        rw [stepped] at after
        dsimp only at after
        rw [after]
        exact ⟨pursuit.entries, pursuit.places,
          fun rebuilt => absurd rebuilt never,
          fun rebuilt => absurd rebuilt never⟩
      · cases stepped
  | watch name =>
      simp only [Discovery.step] at stepped
      split at stepped
      · rename_i ready
        cases stepped
        rw [List.append_nil]
        refine { pursuit with places := ?_, pursued := ?_ }
        · intro other place opened
          by_cases here : other = name
          · dsimp only at opened
            rw [here, Function.update_self, Option.some.injEq] at opened
            exact Nat.le_of_eq opened.symm
          · dsimp only at opened
            rw [Function.update_of_ne here] at opened
            exact pursuit.places other place opened
        · intro rebuilt announced member here
          have pursued := pursuit.pursued rebuilt announced member here
          refine pursued.congr ?_ rfl
          obtain ⟨place, opened, _⟩ := pursued
          apply Function.update_of_ne
          intro same
          rw [same, ready.2.2] at opened
          cases opened
      · cases stepped
  | consume name =>
      simp only [Discovery.step] at stepped
      split at stepped
      · rename_i ready
        have idle := ready.2.1
        rw [Bool.not_eq_true'] at idle
        split at stepped
        · cases stepped
        · rename_i place opened
          split at stepped
          · cases stepped
          · rename_i change found
            have after := pursuit.consume separate sane ledger idle opened
              found
            rw [Option.some.injEq] at stepped
            rw [stepped] at after
            exact after
      · cases stepped
  | store place =>
      simp only [Discovery.step] at stepped
      split at stepped
      · cases stepped
      · cases stepped
        rw [List.append_nil]
        exact { pursuit with }
  | lose name =>
      cases stepped
      rw [List.append_nil]
      exact { pursuit with }
  | rebuild =>
      have spares := keepsEntry_spares keeps
      simp only [Discovery.step] at stepped
      split at stepped
      · rename_i ready
        cases stepped
        rw [List.append_nil]
        constructor
        case entries => exact pursuit.entries
        case places =>
          intro name place opened
          cases opened
        case settled =>
          intro _
          rcases ready with watching | rebuilt
          · rw [watching_iff] at watching
            exact watching.1
          · exact pursuit.settled rebuilt
        case pursued =>
          intro _ announced member here
          have stored := ledger.holds announced member here
          exact absurd stored (spares _ here _)
      · cases stepped

theorem run_pursuit (separate : config.Separate)
    (run : Transition.Run (step config)
      (fun state action => state.keepsEntry entry action = true) {} trace
      state) :
    Sane config (fun other => other = entry) state ∧
      Ledger config (fun other => other = entry) trace state ∧
        Pursuit entry trace state := by
  apply run.invariant ⟨sane_start, ledger_start, pursuit_start⟩
  intro trace events state next action holds keeps stepped
  obtain ⟨sane, ledger, pursuit⟩ := holds
  obtain ⟨stays, effect⟩ :=
    step_effect separate sane (keepsEntry_spares keeps) stepped
  exact ⟨stays, ledger.effect separate sane effect,
    pursuit.step separate sane ledger keeps stepped⟩

theorem run_withdrawn (separate : config.Separate)
    {srvName platformId : Text}
    (run : Transition.Run (step config)
      (fun state action =>
        state.keepsEntry (cacheKey srvName platformId) action = true) {}
      trace state)
    (rebuilt : 0 < state.rebuilds) (consumed : state.Consumed config)
    {before after : List Event} {srvAddr key : Text}
    (announced : trace =
      before ++ .online ⟨srvName, srvAddr, platformId⟩ key :: after)
    (gone : .deleted key ∈ after ∨ state.entries.lookup key = none) :
    .offline ⟨srvName, srvAddr, platformId⟩ ∈ after := by
  obtain ⟨_, ledger, pursuit⟩ := run_pursuit separate run
  by_contra kept
  obtain ⟨stands, member, info, from_key, deleted⟩ :=
    @standing_of_announced _ key before after kept
  rw [← announced] at member
  have valid := ledger.valid stands member
  have here : stands.entry = cacheKey srvName platformId := by
    rw [Standing.entry, info]
  obtain ⟨place, opened, present, later⟩ :=
    pursuit.pursued rebuilt stands member here
  obtain ⟨other, again, rest⟩ := consumed stands.info.srvName valid.included
  have equal : other = place := Option.some.inj (again.symm.trans opened)
  rw [equal] at rest
  have untouched : ∀ change ∈ state.history.drop place,
      change.key ≠ stands.key := by
    intro change inside same
    have unmatched := rest change inside
    rw [same, valid.matched] at unmatched
    cases unmatched
  rcases gone with recorded | absent
  · exact untouched _ (later (deleted recorded)) rfl
  · rw [ChangeLog.latest_rest untouched, ← pursuit.entries, from_key,
      absent] at present
    cases present

/-- What the cache has lost is not withdrawn before it is announced again. -/
theorem lost_silent (separate : config.Separate)
    {srvName platformId : Text}
    (included : srvName ∈ config.includeServices)
    (sane : Sane config (fun other => other = cacheKey srvName platformId)
      state)
    (pending : ∀ write ∈ state.writes,
      write.key ≠ cacheKey srvName platformId)
    (run : Transition.AnyRun (step config) state.clear trace next)
    (silent : ∀ srvAddr key,
      .online ⟨srvName, srvAddr, platformId⟩ key ∉ trace) (srvAddr : Text) :
    .offline ⟨srvName, srvAddr, platformId⟩ ∉ trace := by
  obtain ⟨cleared, nothing⟩ := clear_sane sane pending
  have invariant : (∀ srvAddr key,
      .online ⟨srvName, srvAddr, platformId⟩ key ∉ trace) →
    Sane config (fun other => other = cacheKey srvName platformId) next ∧
      (∀ item, ¬next.Stored (cacheKey srvName platformId) item) ∧
        ∀ srvAddr, .offline ⟨srvName, srvAddr, platformId⟩ ∉ trace := by
    apply run.invariant
    · intro _
      exact ⟨cleared, nothing _ rfl, fun _ => List.not_mem_nil⟩
    · intro trace events state next action holds _ stepped silent
      have silent_before : ∀ srvAddr key,
          .online ⟨srvName, srvAddr, platformId⟩ key ∉ trace := by
        intro srvAddr key member
        exact silent srvAddr key (List.mem_append_left _ member)
      obtain ⟨sane, nothing, quiet⟩ := holds silent_before
      have spares : state.Spares
          (fun other => other = cacheKey srvName platformId) action := by
        cases action with
        | rebuild =>
            intro other same
            rw [same]
            exact nothing
        | _ => trivial
      obtain ⟨stays, effect⟩ := step_effect separate sane spares stepped
      refine ⟨stays, ?_⟩
      cases effect with
      | same unchanged =>
          rw [List.append_nil]
          exact ⟨fun item stored =>
            nothing item ((unchanged _ rfl item).mp stored), quiet⟩
      | deleted key unchanged =>
          refine ⟨fun item stored =>
            nothing item ((unchanged _ rfl item).mp stored), ?_⟩
          intro address member
          simp [quiet] at member
      | online also _ _ _ _ added =>
          constructor
          · intro item stored
            rcases (added _ rfl item).mp stored with before | ⟨here, _⟩
            · exact nothing item before
            · obtain ⟨rfl, rfl⟩ := separate.cacheKey_inj included also here
              apply silent
              exact List.mem_append_right _ (List.mem_singleton_self _)
          · intro address member
            simp [quiet] at member
      | @offline name platform _ also _ present removed =>
          constructor
          · intro item stored
            exact nothing item ((removed _ rfl item).mp stored).1
          · intro address member
            rcases List.mem_append.mp member with before | new
            · exact quiet address before
            · rw [List.mem_singleton, Event.offline.injEq,
                ServiceInfo.mk.injEq] at new
              obtain ⟨same, _, equal⟩ := new
              rw [← same, ← equal] at present
              exact nothing _ present
  exact (invariant silent).2.2 srvAddr

/-- A service is announced after a rebuild, and withdrawn when its key is
deleted. -/
theorem run_withdrawn_later : ∃ (trace : List Event) (state : Discovery),
    state.Consumed userConfig ∧ 0 < state.rebuilds ∧
      .offline ⟨['u', 's', 'e', 'r'], ['x'], ['b']⟩ ∈ trace := by
  have reached : ∃ trace state, Transition.Run (step userConfig)
      (fun state action => state.keepsEntry
        (cacheKey ['u', 's', 'e', 'r'] ['b']) action = true) {} trace state ∧
      0 < state.rebuilds ∧ state.Consumed userConfig ∧
      trace = [] ++ .online ⟨['u', 's', 'e', 'r'], ['x'], ['b']⟩
          (userConfig.serviceKey ['u', 's', 'e', 'r'] ['b']) ::
        [.deleted (userConfig.serviceKey ['u', 's', 'e', 'r'] ['b']),
          .offline ⟨['u', 's', 'e', 'r'], ['x'], ['b']⟩] := by
    apply Transition.Run.exists_both_of_exec
      [.list ['u', 's', 'e', 'r'], .crawled, .watch ['u', 's', 'e', 'r'],
        .lose ['u', 's', 'e', 'r'], .rebuild, .watch ['u', 's', 'e', 'r'],
        .put (userConfig.serviceKey ['u', 's', 'e', 'r'] ['b']) ['x'],
        .consume ['u', 's', 'e', 'r'], .store 0,
        .delete (userConfig.serviceKey ['u', 's', 'e', 'r'] ['b']),
        .consume ['u', 's', 'e', 'r']]
    decide +kernel
  obtain ⟨trace, state, run, rebuilt, consumed, events⟩ := reached
  refine ⟨trace, state, consumed, rebuilt, ?_⟩
  have withdrawn := run_withdrawn (by decide) run rebuilt consumed events
    (.inl List.mem_cons_self)
  rw [events]
  exact List.mem_cons_of_mem _ withdrawn

/-- A service that was announced before the rebuild and whose key is deleted
after it is not withdrawn. -/
theorem rebuild_zombie : ∃ trace state,
    Transition.AnyRun (step userConfig) {} trace state ∧
    0 < state.rebuilds ∧ state.Consumed userConfig ∧
    trace = [] ++ .online ⟨['u', 's', 'e', 'r'], ['x'], ['b']⟩
        (userConfig.serviceKey ['u', 's', 'e', 'r'] ['b']) ::
      [.deleted (userConfig.serviceKey ['u', 's', 'e', 'r'] ['b'])] ∧
    state.entries.lookup
      (userConfig.serviceKey ['u', 's', 'e', 'r'] ['b']) = none := by
  apply Transition.Run.exists_both_of_exec
    [.put (userConfig.serviceKey ['u', 's', 'e', 'r'] ['b']) ['x'],
      .list ['u', 's', 'e', 'r'], .crawled, .announce,
      .watch ['u', 's', 'e', 'r'], .lose ['u', 's', 'e', 'r'], .rebuild,
      .watch ['u', 's', 'e', 'r'],
      .delete (userConfig.serviceKey ['u', 's', 'e', 'r'] ['b']),
      .consume ['u', 's', 'e', 'r']]
  decide +kernel

end

end Discovery

end Manager

end TinyChat
