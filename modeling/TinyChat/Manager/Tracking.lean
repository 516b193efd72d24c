import TinyChat.Manager.Ledger

/-!
# Discovery against etcd

What was announced should be what etcd holds for the included services.  The
initial listing and the watch are separate requests, an address that changes
under its key is not announced again, and the keys are matched by the name of
a service without the slash after it.
-/

namespace TinyChat

namespace Manager

namespace Discovery

/-- Without a rebuild, no entry is lost. -/
abbrev everyEntry (_ : Text) : Prop := True

/-- The value with which a key was listed for a service. -/
def listed (state : Discovery) (srvName key : Text) : Option Text :=
  (state.results.lookup srvName).bind (fun snapshot => snapshot.lookup key)

/-- The value with which a key was last seen by a service. -/
def seen (state : Discovery) (srvName key : Text) : Option Text :=
  match state.cursor srvName with
  | some place => ChangeLog.latest (state.history.take place) key
  | none => state.listed srvName key

variable (config : DiscoveryConfig)

/-- A key of the service, with the slash, on another platform. -/
def counted (srvName key : Text) : Bool :=
  config.proper srvName key ∧
    config.srvPlatformId srvName key ≠ config.platformId

/-- The keys of a service have not changed since they were listed. -/
def listedStill (state : Discovery) (srvName : Text) : Bool :=
  ((state.results.lookup srvName).getD [] ++ state.entries).all
    (fun entry => !counted config srvName entry.1 ||
      state.listed srvName entry.1 = state.entries.lookup entry.1)

/-- A listed key that is announced is one of the service. -/
def announcesOwn (state : Discovery) (next : Text × Text × Text) : Bool :=
  let platformId := config.srvPlatformId next.1 next.2.1
  config.proper next.1 next.2.1 || platformId = config.platformId ||
    (state.cache.lookup (cacheKey next.1 platformId)).isSome

/-- A change that is announced or withdrawn is one of the service, and one
that puts a value again under a cached key puts the cached address. -/
def faithful (state : Discovery) (srvName : Text)
    (change : ChangeLog.Change Text Text) : Bool :=
  let platformId := config.srvPlatformId srvName change.key
  !config.matched srvName change.key || platformId = config.platformId ||
    match change.value, state.cache.lookup (cacheKey srvName platformId) with
    | some value, some item =>
        !decide (config.proper srvName change.key) || item.addr = value
    | none, none => true
    | _, _ => config.proper srvName change.key

/-- What the manager meets is a history that it can track. -/
def tracked (state : Discovery) : Action → Bool
  | .announce =>
      (state.todo.bind List.head?).all (state.announcesOwn config)
  | .watch srvName => state.listedStill config srvName
  | .consume srvName =>
      ((state.cursor srvName).bind
        (fun place => state.history[place]?)).all
          (state.faithful config srvName)
  | .rebuild => false
  | _ => true

variable {config}

/-- What the manager knows, against what etcd has held. -/
structure Tracking (config : DiscoveryConfig) (state : Discovery) :
    Prop where
  entries : ∀ key,
    state.entries.lookup key = ChangeLog.latest state.history key
  nodup : (state.entries.map Prod.fst).Nodup
  snapshots : ∀ srvName snapshot,
    state.results.lookup srvName = some snapshot →
      (snapshot.map Prod.fst).Nodup
  places : ∀ srvName place, state.cursor srvName = some place →
    place ≤ state.history.length
  complete : state.todo ≠ none → ∀ srvName ∈ config.includeServices,
    (state.results.lookup srvName).isSome = true
  idle : state.todo = none → ∀ entry item, ¬state.Stored entry item
  waiting : ∀ todo, state.todo = some todo → ∀ next ∈ todo,
    state.listed next.1 next.2.1 = some next.2.2
  stored : ∀ srvName ∈ config.includeServices, ∀ platformId,
    platformId ≠ config.platformId → ∀ value,
      state.Stored (cacheKey srvName platformId) ⟨value, platformId⟩ →
        state.seen srvName (config.serviceKey srvName platformId) =
          some value
  announced : ∀ todo, state.todo = some todo →
    ∀ srvName ∈ config.includeServices, ∀ platformId,
      platformId ≠ config.platformId → ∀ value,
        state.seen srvName (config.serviceKey srvName platformId) =
          some value →
        state.Stored (cacheKey srvName platformId) ⟨value, platformId⟩ ∨
          (srvName, config.serviceKey srvName platformId, value) ∈ todo

section

variable {state next : Discovery} {srvName platformId key value : Text}
  {action : Action} {events trace : List Event}

theorem tracking_start : Tracking config {} := by
  have nothing : ∀ entry item, ¬({} : Discovery).Stored entry item := by
    intro entry item stored
    rcases stored with cached | ⟨write, member, _⟩
    · cases cached
    · cases member
  constructor
  case entries =>
    intro key
    rfl
  case nodup => exact List.nodup_nil
  case snapshots =>
    intro srvName snapshot found
    cases found
  case places =>
    intro srvName place found
    cases found
  case complete =>
    intro crawled
    exact absurd rfl crawled
  case idle =>
    intro _
    exact nothing
  case waiting =>
    intro todo found
    cases found
  case stored =>
    intro srvName _ platformId _ value stored
    exact absurd stored (nothing _ _)
  case announced =>
    intro todo found
    cases found

theorem seen_listed (closed : state.cursor srvName = none) :
    state.seen srvName key = state.listed srvName key := by
  rw [seen, closed]

theorem listed_of_mem
    (nodup : ∀ snapshot, state.results.lookup srvName = some snapshot →
      (snapshot.map Prod.fst).Nodup)
    {snapshot : Table Text Text}
    (found : state.results.lookup srvName = some snapshot)
    (member : (key, value) ∈ snapshot) :
    state.listed srvName key = some value := by
  rw [listed, found]
  exact Table.lookup_of_mem (nodup snapshot found) member

theorem mem_of_listed (found : state.listed srvName key = some value) :
    ∃ snapshot, state.results.lookup srvName = some snapshot ∧
      (key, value) ∈ snapshot := by
  obtain ⟨snapshot, listed, inside⟩ := Option.bind_eq_some_iff.mp found
  exact ⟨snapshot, listed, Table.mem_of_lookup inside⟩

/-- Nothing that etcd takes in is seen at once. -/
theorem seen_change (bounded : ∀ srvName place,
      state.cursor srvName = some place → place ≤ state.history.length)
    (srvName key other : Text) (value : Option Text) :
    (state.change key value).seen srvName other =
      state.seen srvName other := by
  unfold seen change
  dsimp only
  cases opened : state.cursor srvName with
  | none => rfl
  | some place =>
      dsimp only
      rw [List.take_append_of_le_length (bounded srvName place opened)]

theorem entries_change (latest : ∀ key,
      state.entries.lookup key = ChangeLog.latest state.history key)
    (key : Text) (value : Option Text) (other : Text) :
    (state.change key value).entries.lookup other =
      ChangeLog.latest (state.change key value).history other := by
  unfold Discovery.change
  rw [ChangeLog.latest_append]
  cases value with
  | none =>
      dsimp only
      rw [Table.lookup_pop, latest]
      simp only [eq_comm]
  | some value =>
      dsimp only
      rw [Table.lookup_assign, latest]
      simp only [eq_comm]

theorem places_change (bounded : ∀ srvName place,
      state.cursor srvName = some place → place ≤ state.history.length)
    (key : Text) (value : Option Text) (srvName : Text) (place : Nat)
    (opened : (state.change key value).cursor srvName = some place) :
    place ≤ (state.change key value).history.length := by
  have bound := bounded srvName place opened
  unfold Discovery.change
  rw [List.length_append]
  exact Nat.le_add_right_of_le bound

theorem Tracking.change (tracking : Tracking config state) (key : Text)
    (value : Option Text) : Tracking config (state.change key value) := by
  have seen := seen_change tracking.places
  refine { tracking with
    entries := ?_
    nodup := ?_
    places := ?_
    stored := ?_
    announced := ?_ }
  · exact entries_change tracking.entries key value
  · cases value with
    | none => exact Table.nodup_pop tracking.nodup
    | some value => exact Table.nodup_assign tracking.nodup
  · exact places_change tracking.places key value
  · intro srvName included platformId other address stored
    rw [seen]
    exact tracking.stored srvName included platformId other address stored
  · intro todo found srvName included platformId other address saw
    rw [seen] at saw
    exact tracking.announced todo found srvName included platformId other
      address saw

theorem Tracking.list (tracking : Tracking config state)
    (included : srvName ∈ config.includeServices)
    (missing : (state.results.lookup srvName).isNone = true) :
    Tracking config { state with
      results := state.results.assign srvName
        (state.getPrefix config srvName) } := by
  have before : state.todo = none := by
    by_contra crawled
    have found := tracking.complete crawled srvName included
    rw [Option.isNone_iff_eq_none.mp missing] at found
    cases found
  refine { tracking with
    snapshots := ?_
    complete := ?_
    waiting := ?_
    stored := ?_
    announced := ?_ }
  · intro name snapshot found
    dsimp only at found
    rw [Table.lookup_assign] at found
    split at found
    · cases found
      have kept : (state.getPrefix config srvName).Sublist state.entries :=
        List.filter_sublist
      exact tracking.nodup.sublist (kept.map Prod.fst)
    · exact tracking.snapshots name snapshot found
  · intro crawled
    exact absurd before crawled
  · intro todo found
    rw [before] at found
    cases found
  · intro name _ platformId _ value stored
    exact absurd stored (tracking.idle before _ _)
  · intro todo found
    rw [before] at found
    cases found

theorem Tracking.crawled (tracking : Tracking config state)
    (sane : Sane config everyEntry state) (before : state.todo = none)
    (complete : ∀ srvName ∈ config.includeServices,
      (state.results.lookup srvName).isSome = true) :
    Tracking config { state with todo := some (state.crawl config) } := by
  have closed : ∀ srvName, state.cursor srvName = none := by
    intro srvName
    cases opened : state.cursor srvName with
    | none => rfl
    | some place =>
        have settled := (sane.opened srvName place opened).2
        rw [before] at settled
        cases settled
  refine { tracking with
    complete := fun _ => complete
    idle := nofun
    waiting := ?_
    stored := ?_
    announced := ?_ }
  · intro todo found next member
    cases found
    obtain ⟨_, snapshot, listed, inside⟩ := mem_crawl.mp member
    exact listed_of_mem (tracking.snapshots _) listed inside
  · intro srvName _ platformId _ value stored
    exact absurd stored (tracking.idle before _ _)
  · intro todo found srvName included platformId _ value saw
    cases found
    have listed : state.seen srvName
        (config.serviceKey srvName platformId) = some value := saw
    rw [seen_listed (closed srvName)] at listed
    obtain ⟨snapshot, found, inside⟩ := mem_of_listed listed
    exact .inr (mem_crawl.mpr ⟨included, snapshot, found, inside⟩)

theorem Tracking.watch (tracking : Tracking config state)
    (closed : state.cursor srvName = none)
    (still : state.listedStill config srvName = true) :
    Tracking config { state with
      cursor := Function.update state.cursor srvName
        (some state.history.length) } := by
  have agrees : ∀ platformId, platformId ≠ config.platformId → ∀ value,
      state.listed srvName (config.serviceKey srvName platformId) =
          some value ↔
        state.entries.lookup (config.serviceKey srvName platformId) =
          some value := by
    intro platformId other value
    have all := List.all_eq_true.mp still
    have counts : counted config srvName
        (config.serviceKey srvName platformId) = true := by
      simp [counted, DiscoveryConfig.proper_serviceKey, other]
    constructor
    · intro listed
      obtain ⟨snapshot, found, inside⟩ := mem_of_listed listed
      have equal := all _ (List.mem_append_left _ (by
        rw [found]
        exact inside))
      rw [counts, Bool.not_true, Bool.false_or, decide_eq_true_eq] at equal
      rw [← equal]
      exact listed
    · intro held
      have equal := all _ (List.mem_append_right _
        (Table.mem_of_lookup held))
      rw [counts, Bool.not_true, Bool.false_or, decide_eq_true_eq] at equal
      rw [equal]
      exact held
  have saw : ∀ name platformId, platformId ≠ config.platformId → ∀ value,
      ({ state with
        cursor := Function.update state.cursor srvName
          (some state.history.length) } : Discovery).seen name
            (config.serviceKey name platformId) = some value ↔
        state.seen name (config.serviceKey name platformId) =
          some value := by
    intro name platformId other value
    by_cases here : name = srvName
    · subst here
      rw [seen_listed closed, agrees platformId other value, seen]
      dsimp only
      rw [Function.update_self, tracking.entries]
      dsimp only
      rw [List.take_length]
    · rw [seen, seen]
      dsimp only
      rw [Function.update_of_ne here]
      rfl
  refine { tracking with
    places := ?_
    stored := ?_
    announced := ?_ }
  · intro name place opened
    by_cases here : name = srvName
    · dsimp only at opened
      rw [here, Function.update_self, Option.some.injEq] at opened
      exact Nat.le_of_eq opened.symm
    · dsimp only at opened
      rw [Function.update_of_ne here] at opened
      exact tracking.places name place opened
  · intro name included platformId other value stored
    rw [saw name platformId other]
    exact tracking.stored name included platformId other value stored
  · intro todo found name included platformId other value seeing
    rw [saw name platformId other] at seeing
    exact tracking.announced todo found name included platformId other
      value seeing

theorem lookup_cases (state : Discovery) (entry : Text) :
    (state.cache.lookup entry).isNone = true ∨
      ∃ item, state.cache.lookup entry = some item := by
  cases state.cache.lookup entry with
  | none => exact .inl rfl
  | some item => exact .inr ⟨item, rfl⟩

theorem Tracking.announce (tracking : Tracking config state)
    (separate : config.Separate) (sane : Sane config everyEntry state)
    (ledger : Ledger config everyEntry trace state)
    {todo : List (Text × Text × Text)}
    (found : state.todo = some ((srvName, key, value) :: todo))
    (own : state.announcesOwn config (srvName, key, value) = true) :
    Tracking config (({ state with todo := some todo } : Discovery).announce
      config srvName key value).1 := by
  obtain ⟨included, matched⟩ := sane.todo _ found _ List.mem_cons_self
  have listed := tracking.waiting _ found _ List.mem_cons_self
  have quiet : state.writes = [] := by
    apply sane.quiet
    rw [found]
    exact nofun
  have closed : ∀ name, state.cursor name = none := by
    intro name
    cases opened : state.cursor name with
    | none => rfl
    | some place =>
        have settled := (sane.opened name place opened).2
        rw [found] at settled
        cases settled
  unfold Discovery.announce
  dsimp only
  split
  · rename_i announces
    obtain ⟨other, missing⟩ := announces
    have proper : config.proper srvName key := by
      rw [announcesOwn, Option.isNone_iff_eq_none.mp missing] at own
      simpa [other] using own
    have added := stored_assign quiet missing
      ⟨value, config.srvPlatformId srvName key⟩
    refine { tracking with
      complete := ?_
      idle := nofun
      waiting := ?_
      stored := ?_
      announced := ?_ }
    · intro _
      apply tracking.complete
      rw [found]
      exact nofun
    · intro rest here next member
      cases here
      exact tracking.waiting _ found next (List.mem_cons_of_mem _ member)
    · intro name also platformId apart address stored
      rcases (added _ _).mp stored with before | ⟨same, equal⟩
      · exact tracking.stored name also platformId apart address before
      · obtain ⟨rfl, rfl⟩ := separate.cacheKey_inj also included same
        rw [ServiceInfoItem.mk.injEq] at equal
        rw [equal.1]
        have last := @seen_listed state name key (closed name)
        rw [listed, proper] at last
        exact last
    · intro rest here name also platformId apart address saw
      cases here
      rcases tracking.announced _ found name also platformId apart address
        saw with before | waits
      · exact .inl ((added _ _).mpr (.inl before))
      · rcases List.mem_cons.mp waits with first | later
        · rw [Prod.mk.injEq, Prod.mk.injEq] at first
          obtain ⟨rfl, rfl, rfl⟩ := first
          refine .inl ((added _ _).mpr (.inr ?_))
          rw [DiscoveryConfig.srvPlatformId_serviceKey]
          exact ⟨rfl, rfl⟩
        · exact .inr later
  · rename_i silent
    refine { tracking with
      complete := ?_
      idle := nofun
      waiting := ?_
      announced := ?_ }
    · intro _
      apply tracking.complete
      rw [found]
      exact nofun
    · intro rest here next member
      cases here
      exact tracking.waiting _ found next (List.mem_cons_of_mem _ member)
    · intro rest here name also platformId apart address saw
      cases here
      rcases tracking.announced _ found name also platformId apart address
        saw with before | waits
      · exact .inl before
      · rcases List.mem_cons.mp waits with first | later
        · rw [Prod.mk.injEq, Prod.mk.injEq] at first
          obtain ⟨rfl, rfl, rfl⟩ := first
          rw [DiscoveryConfig.srvPlatformId_serviceKey] at silent
          rcases lookup_cases state (cacheKey name platformId) with
            missing | ⟨item, cached⟩
          · exact absurd ⟨apart, missing⟩ silent
          · have stored : state.Stored (cacheKey name platformId) item :=
              .inl cached
            rw [ledger.platform separate also trivial stored] at stored
            have before := tracking.stored name also platformId apart _ stored
            have equal : some item.addr = some address := before.symm.trans saw
            rw [Option.some.inj equal] at stored
            exact .inl stored
        · exact .inr later

section

variable {name : Text}

theorem onPut_stored (separate : config.Separate)
    (sane : Sane config everyEntry state)
    (ledger : Ledger config everyEntry trace state)
    (included : srvName ∈ config.includeServices)
    (matched : config.matched srvName key = true)
    (settled : state.todo = some []) (idle : state.busy srvName = false)
    (faithful : state.faithful config srvName ⟨key, some value⟩ = true)
    (also : name ∈ config.includeServices)
    (apart : platformId ≠ config.platformId) (address : Text) :
    (state.onPut config srvName key value).1.Stored
        (cacheKey name platformId) ⟨address, platformId⟩ ↔
      if name = srvName ∧ key = config.serviceKey name platformId then
        value = address
      else state.Stored (cacheKey name platformId) ⟨address, platformId⟩ := by
  have effect := (onPut_effect sane separate included matched settled idle
    value).2
  unfold Discovery.faithful at faithful
  dsimp only at faithful
  rw [matched] at faithful
  unfold onPut at effect ⊢
  dsimp only at effect ⊢
  split at effect
  · rename_i announces
    obtain ⟨other, missing⟩ := announces
    have proper : config.proper srvName key := by
      rw [Option.isNone_iff_eq_none.mp missing] at faithful
      simpa [other] using faithful
    rw [if_pos ⟨other, missing⟩]
    cases effect with
    | online _ _ _ _ absent added =>
        rw [added _ trivial]
        split
        · rename_i here
          obtain ⟨rfl, rfl⟩ := here
          rw [DiscoveryConfig.srvPlatformId_serviceKey] at absent ⊢
          rw [or_iff_right (absent trivial _), ServiceInfoItem.mk.injEq]
          simp [eq_comm]
        · rename_i elsewhere
          refine or_iff_left ?_
          intro same
          obtain ⟨rfl, rfl⟩ := separate.cacheKey_inj also included same.1
          exact elsewhere ⟨rfl, proper⟩
  · rename_i silent
    rw [if_neg silent]
    split
    · rename_i here
      obtain ⟨rfl, rfl⟩ := here
      rw [DiscoveryConfig.srvPlatformId_serviceKey] at silent faithful
      rcases lookup_cases state (cacheKey name platformId) with
        missing | ⟨item, cached⟩
      · exact absurd ⟨apart, missing⟩ silent
      · rw [cached] at faithful
        have equal : item.addr = value := by
          simpa [apart, DiscoveryConfig.proper_serviceKey] using faithful
        have stored : state.Stored (cacheKey name platformId) item :=
          .inl cached
        rw [ledger.platform separate also trivial stored, equal] at stored
        constructor
        · intro again
          exact (ServiceInfoItem.mk.inj
            (sane.stored_unique trivial stored again)).1
        · intro same
          rw [← same]
          exact stored
    · exact Iff.rfl

theorem onDelete_stored (separate : config.Separate)
    (sane : Sane config everyEntry state)
    (included : srvName ∈ config.includeServices)
    (matched : config.matched srvName key = true)
    (idle : state.busy srvName = false)
    (faithful : state.faithful config srvName ⟨key, none⟩ = true)
    (also : name ∈ config.includeServices)
    (apart : platformId ≠ config.platformId) (address : Text) :
    (state.onDelete config srvName key).1.Stored
        (cacheKey name platformId) ⟨address, platformId⟩ ↔
      ¬(name = srvName ∧ key = config.serviceKey name platformId) ∧
        state.Stored (cacheKey name platformId) ⟨address, platformId⟩ := by
  have effect := (onDelete_effect sane included key).2
  unfold Discovery.faithful at faithful
  dsimp only at faithful
  rw [matched] at faithful
  unfold onDelete at effect ⊢
  dsimp only at effect ⊢
  split at effect
  · rename_i other
    rw [if_pos other]
    split at effect
    · rename_i missing
      refine iff_and_self.mpr ?_
      intro stored here
      obtain ⟨rfl, rfl⟩ := here
      rw [DiscoveryConfig.srvPlatformId_serviceKey] at missing
      rw [sane.stored_iff separate also idle trivial, missing] at stored
      cases stored
    · rename_i item cached
      rw [cached] at faithful
      have proper : config.proper srvName key := by
        simpa [other] using faithful
      rw [effect.removed _ trivial, and_comm]
      refine and_congr_left ?_
      intro _
      refine not_congr ⟨?_, ?_⟩
      · intro same
        obtain ⟨rfl, rfl⟩ := separate.cacheKey_inj also included same
        exact ⟨rfl, proper⟩
      · intro here
        obtain ⟨rfl, rfl⟩ := here
        rw [DiscoveryConfig.srvPlatformId_serviceKey]
  · rename_i own
    rw [if_neg own]
    refine iff_and_self.mpr ?_
    intro _ here
    obtain ⟨rfl, rfl⟩ := here
    rw [DiscoveryConfig.srvPlatformId_serviceKey] at own
    exact own apart

/-- What is stored after a change that tells of one key at most. -/
theorem onConsume_stored (separate : config.Separate)
    (sane : Sane config everyEntry state)
    (ledger : Ledger config everyEntry trace state)
    (included : srvName ∈ config.includeServices)
    (settled : state.todo = some []) (idle : state.busy srvName = false)
    {change : ChangeLog.Change Text Text}
    (faithful : state.faithful config srvName change = true)
    (also : name ∈ config.includeServices)
    (apart : platformId ≠ config.platformId) (address : Text) :
    (state.onConsume config srvName change).1.Stored
        (cacheKey name platformId) ⟨address, platformId⟩ ↔
      if name = srvName ∧ change.key = config.serviceKey name platformId then
        change.value = some address
      else state.Stored (cacheKey name platformId) ⟨address, platformId⟩ := by
  obtain ⟨key, value⟩ := change
  unfold onConsume
  dsimp only
  split
  · rename_i matched
    cases value with
    | some value =>
        dsimp only
        rw [onPut_stored separate sane ledger included matched settled idle
          faithful also apart address, Option.some.injEq]
    | none =>
        dsimp only
        rw [onDelete_stored separate sane included matched idle faithful also
          apart address]
        split
        · rename_i here
          simp [here]
        · rename_i elsewhere
          exact and_iff_right elsewhere
  · rename_i unmatched
    have elsewhere :
        ¬(name = srvName ∧ key = config.serviceKey name platformId) := by
      intro here
      obtain ⟨rfl, rfl⟩ := here
      exact unmatched DiscoveryConfig.matched_serviceKey
    rw [if_neg elsewhere]

/-- A change that a watch delivers only touches the cache. -/
theorem onConsume_cache (config : DiscoveryConfig) (state : Discovery)
    (srvName : Text) (change : ChangeLog.Change Text Text) :
    ∃ cache writes, (state.onConsume config srvName change).1 =
      { state with cache, writes } := by
  unfold onConsume onPut onDelete
  dsimp only
  split
  · split
    · split
      · exact ⟨_, _, rfl⟩
      · exact ⟨_, _, rfl⟩
    · split
      · split
        · exact ⟨_, _, rfl⟩
        · exact ⟨_, _, rfl⟩
      · exact ⟨_, _, rfl⟩
  · exact ⟨_, _, rfl⟩

theorem seen_consumed {place : Nat} {change : ChangeLog.Change Text Text}
    (opened : state.cursor srvName = some place)
    (found : state.history[place]? = some change) :
    ({ state with
        cursor := Function.update state.cursor srvName
          (some (place + 1)) } : Discovery).seen name key =
      if name = srvName ∧ change.key = key then change.value
      else state.seen name key := by
  unfold seen
  dsimp only
  by_cases here : name = srvName
  · subst here
    rw [Function.update_self, opened]
    dsimp only
    rw [ChangeLog.latest_next found]
    simp
  · rw [Function.update_of_ne here, if_neg (fun both => here both.1)]
    rfl

theorem Tracking.consume (tracking : Tracking config state)
    (separate : config.Separate) (sane : Sane config everyEntry state)
    (ledger : Ledger config everyEntry trace state) {place : Nat}
    {change : ChangeLog.Change Text Text}
    (idle : state.busy srvName = false)
    (opened : state.cursor srvName = some place)
    (found : state.history[place]? = some change)
    (faithful : state.faithful config srvName change = true) :
    Tracking config (({ state with
      cursor := Function.update state.cursor srvName
        (some (place + 1)) } : Discovery).onConsume config srvName
          change).1 := by
  obtain ⟨included, settled⟩ := sane.opened srvName place opened
  have moved := watch_sane sane settled included (place + 1)
  have kept : Ledger config everyEntry trace { state with
      cursor := Function.update state.cursor srvName (some (place + 1)) } :=
    ⟨ledger.valid, ledger.holds, ledger.stored⟩
  have holds : ∀ name ∈ config.includeServices, ∀ platformId,
      platformId ≠ config.platformId → ∀ address, _ ↔ _ :=
    fun name also platformId apart address =>
      onConsume_stored separate moved kept included settled idle faithful
        also apart address
  obtain ⟨cache, writes, after⟩ := onConsume_cache config { state with
    cursor := Function.update state.cursor srvName (some (place + 1)) }
      srvName change
  rw [after] at holds ⊢
  have saw := fun name key => @seen_consumed state srvName key name place
    change opened found
  constructor
  case entries => exact tracking.entries
  case nodup => exact tracking.nodup
  case snapshots => exact tracking.snapshots
  case places =>
    intro name other here
    dsimp only at here
    by_cases same : name = srvName
    · rw [same, Function.update_self, Option.some.injEq] at here
      rw [← here]
      exact (List.getElem?_eq_some_iff.mp found).1
    · rw [Function.update_of_ne same] at here
      exact tracking.places name other here
  case complete => exact tracking.complete
  case idle =>
    intro before
    dsimp only at before
    rw [settled] at before
    cases before
  case waiting => exact tracking.waiting
  case stored =>
    intro name also platformId apart address present
    have before := (holds name also platformId apart address).mp present
    refine (saw name _).trans ?_
    split
    · rename_i here
      rw [if_pos here] at before
      exact before
    · rename_i elsewhere
      rw [if_neg elsewhere] at before
      exact tracking.stored name also platformId apart address before
  case announced =>
    intro todo waiting name also platformId apart address seeing
    refine .inl ((holds name also platformId apart address).mpr ?_)
    have before := (saw name _).symm.trans seeing
    split
    · rename_i here
      rw [if_pos here] at before
      exact before
    · rename_i elsewhere
      rw [if_neg elsewhere] at before
      rcases tracking.announced [] settled name also platformId apart address
        before with present | waits
      · exact present
      · cases waits

end

end

end Discovery

end Manager

end TinyChat
