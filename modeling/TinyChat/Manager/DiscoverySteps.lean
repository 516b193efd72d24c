import Mathlib.Data.List.Induction
import Mathlib.Data.List.Nodup
import Mathlib.Data.List.Perm.Basic
import TinyChat.Manager.Discovery

/-!
# What a step does to the discovery

A step announces a service that is not stored, withdraws one that is, or
leaves both alone.  What is stored is the cache with the entries that the
consumers are about to make, and it is what was announced last.
-/

namespace TinyChat

namespace Manager

namespace DiscoveryConfig

/-- No included name goes on as another one with a slash in between. -/
def Separate (config : DiscoveryConfig) : Prop :=
  ∀ first ∈ config.includeServices, ∀ second ∈ config.includeServices,
    ¬(first ++ ['/']) <+: second

instance decidableSeparate (config : DiscoveryConfig) :
    Decidable config.Separate :=
  inferInstanceAs (Decidable (∀ first ∈ config.includeServices,
    ∀ second ∈ config.includeServices, ¬(first ++ ['/']) <+: second))

/-- A key of the form `prefix/srv_name/platform_id`. -/
def proper (config : DiscoveryConfig) (srvName key : Text) : Prop :=
  key = config.serviceKey srvName (config.srvPlatformId srvName key)

instance decidableProper (config : DiscoveryConfig) (srvName key : Text) :
    Decidable (config.proper srvName key) :=
  inferInstanceAs (Decidable (_ = _))

section

variable {config : DiscoveryConfig} {srvName other platformId key : Text}

@[simp] theorem matched_serviceKey :
    config.matched srvName (config.serviceKey srvName platformId) = true := by
  simp [matched, serviceKey]

@[simp] theorem srvPlatformId_serviceKey :
    config.srvPlatformId srvName (config.serviceKey srvName platformId) =
      platformId := by
  have cut : config.serviceKey srvName platformId =
      (config.servicesPrefix ++ srvName ++ ['/']) ++ platformId := by
    simp [serviceKey]
  rw [srvPlatformId, cut]
  apply List.drop_left'
  simp
  omega

theorem proper_serviceKey :
    config.proper srvName (config.serviceKey srvName platformId) := by
  rw [proper, srvPlatformId_serviceKey]

theorem Separate.cacheKey_inj (separate : config.Separate)
    {first second : Text} (included : first ∈ config.includeServices)
    (also : second ∈ config.includeServices) {one two : Text}
    (same : cacheKey first one = cacheKey second two) :
    first = second ∧ one = two := by
  have no_slash : ∀ name ∈ config.includeServices, ∀ longer ∈
      config.includeServices, ∀ rest left right : Text,
      longer = name ++ rest → '/' :: left = rest ++ '/' :: right →
        rest = [] := by
    intro name member longer memberLonger rest left right extends_it split
    cases rest with
    | nil => rfl
    | cons character rest =>
        rw [List.cons_append, List.cons.injEq] at split
        rw [← split.1] at extends_it
        refine absurd ?_ (separate name member longer memberLonger)
        exact ⟨rest, by rw [extends_it]; simp⟩
  rcases List.append_eq_append_iff.mp same with
    ⟨rest, longer, split⟩ | ⟨rest, longer, split⟩
  · have none_left := no_slash first included second also rest one two
      longer split
    subst none_left
    rw [List.append_nil] at longer
    exact ⟨longer.symm, (List.cons.inj split).2⟩
  · have none_left := no_slash second also first included rest two one
      longer split
    subst none_left
    rw [List.append_nil] at longer
    exact ⟨longer, (List.cons.inj split).2.symm⟩

end

end DiscoveryConfig

/-- An announcement that was not withdrawn, with the key that it comes from
and whether this key has been deleted since. -/
structure Standing where
  info : ServiceInfo
  key : Text
  deleted : Bool := false
  deriving DecidableEq

namespace Standing

def mark (key : Text) (standing : Standing) : Standing :=
  if standing.key = key then { standing with deleted := true }
  else standing

@[simp] theorem mark_info (key : Text) (standing : Standing) :
    (standing.mark key).info = standing.info := by
  unfold mark
  split <;> rfl

@[simp] theorem mark_key (key : Text) (standing : Standing) :
    (standing.mark key).key = standing.key := by
  unfold mark
  split <;> rfl

end Standing

def Event.apply : List Standing → Event → List Standing
  | standing, .online info key => { info, key } :: standing
  | standing, .offline info =>
      standing.filter (fun announced => announced.info ≠ info)
  | standing, .deleted key => standing.map (Standing.mark key)

/-- The announcements that stand after a trace. -/
def standing (trace : List Event) : List Standing :=
  trace.foldl Event.apply []

/-- A service was announced online and not offline later. -/
def Announced (trace : List Event) (info : ServiceInfo) : Prop :=
  ∃ before key after, trace = before ++ .online info key :: after ∧
    .offline info ∉ after

section

variable {trace : List Event} {info : ServiceInfo} {key : Text}
  {announced : Standing}

theorem standing_append (trace events : List Event) :
    standing (trace ++ events) =
      events.foldl Event.apply (standing trace) :=
  List.foldl_append

@[simp] theorem mem_standing_online :
    announced ∈ standing (trace ++ [.online info key]) ↔
      announced = { info, key } ∨ announced ∈ standing trace := by
  rw [standing_append]
  exact List.mem_cons

@[simp] theorem mem_standing_offline :
    announced ∈ standing (trace ++ [.offline info]) ↔
      announced ∈ standing trace ∧ announced.info ≠ info := by
  rw [standing_append]
  simp [Event.apply]

@[simp] theorem mem_standing_deleted :
    announced ∈ standing (trace ++ [.deleted key]) ↔
      ∃ earlier ∈ standing trace, earlier.mark key = announced := by
  rw [standing_append]
  exact List.mem_map

theorem standing_of_announced {before after : List Event}
    (kept : .offline info ∉ after) :
    ∃ announced ∈ standing (before ++ .online info key :: after),
      announced.info = info ∧ announced.key = key ∧
        (.deleted key ∈ after → announced.deleted = true) := by
  induction after using List.reverseRecOn with
  | nil =>
      refine ⟨{ info, key }, ?_, rfl, rfl, nofun⟩
      exact mem_standing_online.mpr (.inl rfl)
  | append_singleton after event induction =>
      rw [List.mem_append, not_or] at kept
      obtain ⟨announced, member, same, from_key, deleted⟩ :=
        induction kept.1
      have split : before ++ .online info key :: (after ++ [event]) =
          (before ++ .online info key :: after) ++ [event] := by
        simp
      rw [split]
      cases event with
      | online other second =>
          refine ⟨announced, mem_standing_online.mpr (.inr member), same,
            from_key, ?_⟩
          intro later
          simp at later
          exact deleted later
      | offline other =>
          have different : announced.info ≠ other := by
            rw [same]
            intro equal
            rw [equal] at kept
            exact kept.2 (List.mem_singleton_self _)
          refine ⟨announced, mem_standing_offline.mpr ⟨member, different⟩,
            same, from_key, ?_⟩
          intro later
          simp at later
          exact deleted later
      | deleted second =>
          refine ⟨announced.mark second,
            mem_standing_deleted.mpr ⟨announced, member, rfl⟩, ?_, ?_, ?_⟩
          · rw [Standing.mark_info]
            exact same
          · rw [Standing.mark_key]
            exact from_key
          · intro later
            unfold Standing.mark
            split
            · rfl
            · rename_i other
              simp at later
              rcases later with before | now
              · exact deleted before
              · rw [from_key] at other
                exact absurd now other

theorem announced_iff :
    Announced trace info ↔
      ∃ announced ∈ standing trace, announced.info = info := by
  constructor
  · intro stands
    obtain ⟨before, key, after, rfl, kept⟩ := stands
    obtain ⟨announced, member, same, _⟩ := standing_of_announced kept
    exact ⟨announced, member, same⟩
  · intro stands
    obtain ⟨announced, member, same⟩ := stands
    induction trace using List.reverseRecOn generalizing announced with
    | nil => cases member
    | append_singleton trace event induction =>
        have extend : Announced trace info → event ≠ .offline info →
            Announced (trace ++ [event]) info := by
          intro earlier other
          obtain ⟨before, key, after, rfl, kept⟩ := earlier
          refine ⟨before, key, after ++ [event], by simp, ?_⟩
          rw [List.mem_append, List.mem_singleton, not_or]
          exact ⟨kept, other.symm⟩
        cases event with
        | online other key =>
            rcases mem_standing_online.mp member with new | old
            · rw [new] at same
              dsimp only at same
              rw [same]
              exact ⟨trace, key, [], rfl, List.not_mem_nil⟩
            · exact extend (induction announced old same) nofun
        | offline other =>
            obtain ⟨old, different⟩ := mem_standing_offline.mp member
            apply extend (induction announced old same)
            intro equal
            cases equal
            exact different same
        | deleted key =>
            obtain ⟨earlier, old, rfl⟩ := mem_standing_deleted.mp member
            rw [Standing.mark_info] at same
            exact extend (induction earlier old same) nofun

end

namespace Discovery

/-- An entry of the cache, or one that a consumer is about to make. -/
def Stored (state : Discovery) (entry : Text) (item : ServiceInfoItem) :
    Prop :=
  state.cache.lookup entry = some item ∨
    ∃ write ∈ state.writes, write.key = entry ∧ write.item = item

/-- The monitor only clears the cache when it has none of the kept entries,
and when no consumer is about to make one. -/
def Spares (kept : Text → Prop) (state : Discovery) : Action → Prop
  | .rebuild => ∀ entry, kept entry → ∀ item, ¬state.Stored entry item
  | _ => True

/-- What is known of the manager itself: its lists hold matching keys, and no
consumer is about to make a kept entry that there is. -/
structure Sane (config : DiscoveryConfig) (kept : Text → Prop)
    (state : Discovery) : Prop where
  results : ∀ srvName snapshot,
    state.results.lookup srvName = some snapshot →
      ∀ kv ∈ snapshot, config.matched srvName kv.1 = true
  todo : ∀ todo, state.todo = some todo → ∀ next ∈ todo,
    next.1 ∈ config.includeServices ∧
      config.matched next.1 next.2.1 = true
  opened : ∀ srvName place, state.cursor srvName = some place →
    srvName ∈ config.includeServices ∧ state.todo = some []
  quiet : state.todo ≠ some [] → state.writes = []
  writes : ∀ write ∈ state.writes,
    write.srvName ∈ config.includeServices ∧
      write.key = cacheKey write.srvName write.item.platformId
  current : ∀ write ∈ state.writes, kept write.key → write.old = false
  fresh : ∀ write ∈ state.writes, kept write.key →
    state.cache.lookup write.key = none
  once : state.writes.Pairwise (fun write other =>
    kept write.key → write.key ≠ other.key)

/-- What a step does to the kept entries that are stored, and what it
dispatches then. -/
inductive Effect (config : DiscoveryConfig) (kept : Text → Prop)
    (state next : Discovery) : List Event → Prop where
  | same :
      (∀ entry, kept entry → ∀ item,
        next.Stored entry item ↔ state.Stored entry item) →
      Effect config kept state next []
  | deleted (key : Text) :
      (∀ entry, kept entry → ∀ item,
        next.Stored entry item ↔ state.Stored entry item) →
      Effect config kept state next [.deleted key]
  | online {srvName value platformId key : Text} :
      srvName ∈ config.includeServices →
      platformId ≠ config.platformId →
      config.matched srvName key = true →
      config.srvPlatformId srvName key = platformId →
      (kept (cacheKey srvName platformId) →
        ∀ item, ¬state.Stored (cacheKey srvName platformId) item) →
      (∀ entry, kept entry → ∀ item,
        next.Stored entry item ↔ state.Stored entry item ∨
          entry = cacheKey srvName platformId ∧
            item = ⟨value, platformId⟩) →
      Effect config kept state next
        [.online ⟨srvName, value, platformId⟩ key]
  | offline {srvName platformId : Text} {item : ServiceInfoItem} :
      srvName ∈ config.includeServices →
      platformId ≠ config.platformId →
      state.Stored (cacheKey srvName platformId) item →
      (∀ entry, kept entry → ∀ other, next.Stored entry other ↔
        state.Stored entry other ∧ entry ≠ cacheKey srvName platformId) →
      Effect config kept state next
        [.offline ⟨srvName, item.addr, platformId⟩]

section

variable {config : DiscoveryConfig} {kept : Text → Prop}
  {state next : Discovery} {srvName platformId key value : Text}
  {action : Action} {events trace : List Event}

theorem sane_start : Sane config kept {} := by
  constructor
  case results =>
    intro srvName snapshot found
    cases found
  case todo =>
    intro todo found
    cases found
  case opened =>
    intro srvName place found
    cases found
  case quiet =>
    intro _
    rfl
  case writes =>
    intro write member
    cases member
  case current =>
    intro write member
    cases member
  case fresh =>
    intro write member
    cases member
  case once => exact .nil

theorem Sane.apart (sane : Sane config kept state) {entry : Text}
    (holds : kept entry) {item : ServiceInfoItem}
    (cached : state.cache.lookup entry = some item) :
    ∀ write ∈ state.writes, write.key ≠ entry := by
  intro write member same
  rw [← same] at holds cached
  have missing := sane.fresh write member holds
  rw [cached] at missing
  cases missing

theorem Sane.write_unique (sane : Sane config kept state)
    {first second : CacheWrite} (member : first ∈ state.writes)
    (also : second ∈ state.writes) (holds : kept first.key)
    (same : first.key = second.key) : first = second := by
  have alone : state.writes.Pairwise (fun write other =>
      kept write.key → write.key = other.key → write = other) := by
    apply sane.once.imp
    intro write other apart holds same
    exact absurd same (apart holds)
  have flipped : state.writes.Pairwise (flip (fun write other =>
      kept write.key → write.key = other.key → write = other)) := by
    apply sane.once.imp
    intro write other apart holds same
    rw [same] at holds
    exact absurd same.symm (apart holds)
  exact alone.forall_of_forall_of_flip (fun _ _ _ _ => rfl) flipped member
    also holds same

theorem Sane.stored_unique (sane : Sane config kept state) {entry : Text}
    (holds : kept entry) {first second : ServiceInfoItem}
    (stored : state.Stored entry first)
    (also : state.Stored entry second) : first = second := by
  rcases stored with cached | ⟨write, member, same, item⟩
  · rcases also with again | ⟨write, member, same, item⟩
    · rw [cached] at again
      exact Option.some.inj again
    · exact absurd same (sane.apart holds cached write member)
  · rcases also with cached | ⟨other, memberOther, sameOther, itemOther⟩
    · exact absurd same (sane.apart holds cached write member)
    · rw [← same] at holds
      have equal := sane.write_unique member memberOther holds
        (same.trans sameOther.symm)
      rw [← item, ← itemOther, equal]

theorem Sane.stored_iff (sane : Sane config kept state)
    (separate : config.Separate)
    (included : srvName ∈ config.includeServices)
    (idle : state.busy srvName = false)
    (holds : kept (cacheKey srvName platformId)) {item : ServiceInfoItem} :
    state.Stored (cacheKey srvName platformId) item ↔
      state.cache.lookup (cacheKey srvName platformId) = some item := by
  refine or_iff_left ?_
  intro pending
  obtain ⟨write, member, same, _⟩ := pending
  rw [← same] at holds
  have current := sane.current write member holds
  obtain ⟨also, key⟩ := sane.writes write member
  rw [key] at same
  have name := (separate.cacheKey_inj also included same).1
  rw [busy, List.any_eq_false] at idle
  apply idle write member
  simp [name, current]

theorem lookup_isNone {entry : Text} :
    (state.cache.lookup entry).isNone = true ↔
      ∀ item, state.cache.lookup entry ≠ some item := by
  rw [Option.isNone_iff_eq_none, Option.eq_none_iff_forall_ne_some]

theorem stored_assign (quiet : state.writes = []) {entry : Text}
    (missing : (state.cache.lookup entry).isNone = true)
    (item : ServiceInfoItem) (other : Text) (stored : ServiceInfoItem) :
    ({ state with
        cache := state.cache.assign entry item } : Discovery).Stored other
          stored ↔
      state.Stored other stored ∨ other = entry ∧ stored = item := by
  simp only [Stored, quiet, List.not_mem_nil, false_and, exists_false,
    or_false, Table.lookup_assign]
  split
  · rename_i here
    rw [here, Option.isNone_iff_eq_none.mp missing]
    simp [eq_comm]
  · rename_i elsewhere
    simp [elsewhere]

theorem announce_effect (sane : Sane config kept state)
    (included : srvName ∈ config.includeServices)
    (matched : config.matched srvName key = true)
    (quiet : state.writes = []) (value : Text) :
    let result := state.announce config srvName key value
    Sane config kept result.1 ∧ Effect config kept state result.1 result.2 := by
  unfold announce
  dsimp only
  split
  · rename_i announces
    obtain ⟨other, missing⟩ := announces
    constructor
    · refine { sane with
        writes := ?_
        current := ?_
        fresh := ?_
        once := ?_ }
      · rw [quiet]
        exact nofun
      · rw [quiet]
        exact nofun
      · rw [quiet]
        exact nofun
      · rw [quiet]
        exact .nil
    · refine .online included other matched rfl ?_ ?_
      · intro _ item
        simp only [Stored, quiet, List.not_mem_nil, false_and, exists_false,
          or_false]
        exact lookup_isNone.mp missing item
      · intro entry _
        exact stored_assign quiet missing _ entry
  · exact ⟨sane, .same (fun _ _ _ => Iff.rfl)⟩

theorem onPut_effect (sane : Sane config kept state)
    (separate : config.Separate)
    (included : srvName ∈ config.includeServices)
    (matched : config.matched srvName key = true)
    (settled : state.todo = some []) (idle : state.busy srvName = false)
    (value : Text) :
    let result := state.onPut config srvName key value
    Sane config kept result.1 ∧ Effect config kept state result.1 result.2 := by
  unfold onPut
  dsimp only
  split
  · rename_i announces
    obtain ⟨other, missing⟩ := announces
    have absent : kept (cacheKey srvName (config.srvPlatformId srvName key)) →
        ∀ item, ¬state.Stored
          (cacheKey srvName (config.srvPlatformId srvName key)) item := by
      intro holds item
      rw [sane.stored_iff separate included idle holds]
      exact lookup_isNone.mp missing item
    constructor
    · refine { sane with
        quiet := ?_
        writes := ?_
        current := ?_
        fresh := ?_
        once := ?_ }
      · intro unsettled
        exact absurd settled unsettled
      · intro write member
        rcases List.mem_append.mp member with old | new
        · exact sane.writes write old
        · rw [List.mem_singleton.mp new]
          exact ⟨included, rfl⟩
      · intro write member
        rcases List.mem_append.mp member with old | new
        · exact sane.current write old
        · rw [List.mem_singleton.mp new]
          intro _
          rfl
      · intro write member
        rcases List.mem_append.mp member with old | new
        · exact sane.fresh write old
        · rw [List.mem_singleton.mp new]
          intro _
          exact Option.isNone_iff_eq_none.mp missing
      · refine List.pairwise_append.mpr
          ⟨sane.once, List.pairwise_singleton _ _, ?_⟩
        intro write member other new holds same
        rw [List.mem_singleton.mp new] at same
        rw [same] at holds
        exact absent holds write.item (.inr ⟨write, member, same, rfl⟩)
    · refine .online included other matched rfl absent ?_
      intro entry _ item
      simp only [Stored, List.mem_append, List.mem_singleton]
      constructor
      · intro stored
        rcases stored with cached | ⟨write, member, same, equal⟩
        · exact .inl (.inl cached)
        · rcases member with old | new
          · exact .inl (.inr ⟨write, old, same, equal⟩)
          · rw [new] at same equal
            exact .inr ⟨same.symm, equal.symm⟩
      · intro stored
        rcases stored with (cached | ⟨write, member, both⟩) | ⟨here, equal⟩
        · exact .inl cached
        · exact .inr ⟨write, .inl member, both⟩
        · exact .inr ⟨_, .inr rfl, here.symm, equal.symm⟩
  · exact ⟨sane, .same (fun _ _ _ => Iff.rfl)⟩

theorem onDelete_effect (sane : Sane config kept state)
    (included : srvName ∈ config.includeServices) (key : Text) :
    let result := state.onDelete config srvName key
    Sane config kept result.1 ∧ Effect config kept state result.1 result.2 := by
  unfold onDelete
  dsimp only
  split
  · rename_i other
    split
    · exact ⟨sane, .same (fun _ _ _ => Iff.rfl)⟩
    · rename_i item found
      constructor
      · refine { sane with fresh := ?_ }
        intro write member holds
        have missing := sane.fresh write member holds
        dsimp only
        rw [Table.lookup_pop, missing, ite_self]
      · refine .offline included other (.inl found) ?_
        intro entry holds item
        simp only [Stored, Table.lookup_pop]
        split
        · rename_i here
          simp only [reduceCtorEq, false_or, ne_eq, here, not_true, and_false,
            iff_false]
          intro pending
          obtain ⟨write, member, same, _⟩ := pending
          rw [← here] at found same
          exact sane.apart holds found write member same
        · rename_i elsewhere
          simp [elsewhere]
  · exact ⟨sane, .same (fun _ _ _ => Iff.rfl)⟩

theorem list_sane (sane : Sane config kept state) :
    Sane config kept { state with
      results := state.results.assign srvName
        (state.getPrefix config srvName) } := by
  refine { sane with results := ?_ }
  intro name snapshot found kv member
  dsimp only at found
  rw [Table.lookup_assign] at found
  split at found
  · rename_i here
    cases found
    rw [here]
    exact (List.mem_filter.mp member).2
  · exact sane.results name snapshot found kv member

theorem mem_crawl {next : Text × Text × Text} :
    next ∈ state.crawl config ↔ next.1 ∈ config.includeServices ∧
      ∃ snapshot, state.results.lookup next.1 = some snapshot ∧
        next.2 ∈ snapshot := by
  unfold crawl
  rw [List.mem_flatMap]
  constructor
  · intro listed
    obtain ⟨name, included, member⟩ := listed
    obtain ⟨kv, inside, rfl⟩ := List.mem_map.mp member
    refine ⟨included, ?_⟩
    cases found : state.results.lookup name with
    | none =>
        rw [found] at inside
        cases inside
    | some snapshot =>
        rw [found] at inside
        exact ⟨snapshot, rfl, inside⟩
  · intro found
    obtain ⟨included, snapshot, listed, inside⟩ := found
    refine ⟨next.1, included, List.mem_map.mpr ⟨next.2, ?_, rfl⟩⟩
    rw [listed]
    exact inside

theorem crawled_sane (sane : Sane config kept state)
    (before : state.todo = none) :
    Sane config kept { state with todo := some (state.crawl config) } := by
  refine { sane with todo := ?_, opened := ?_, quiet := ?_ }
  · intro todo found next member
    cases found
    obtain ⟨included, snapshot, listed, inside⟩ := mem_crawl.mp member
    exact ⟨included, sane.results next.1 snapshot listed next.2 inside⟩
  · intro name place opened
    have settled := (sane.opened name place opened).2
    rw [before] at settled
    cases settled
  · intro _
    apply sane.quiet
    rw [before]
    exact nofun

theorem watch_sane (sane : Sane config kept state)
    (settled : state.todo = some [])
    (included : srvName ∈ config.includeServices) (place : Nat) :
    Sane config kept { state with
      cursor := Function.update state.cursor srvName (some place) } := by
  refine { sane with opened := ?_ }
  intro name other opened
  refine ⟨?_, settled⟩
  by_cases here : name = srvName
  · rw [here]
    exact included
  · dsimp only at opened
    rw [Function.update_of_ne here] at opened
    exact (sane.opened name other opened).1

theorem store_effect (sane : Sane config kept state) {place : Nat}
    {write : CacheWrite} (pending : state.writes[place]? = some write) :
    let stored := { state with
      cache := state.cache.assign write.key write.item
      writes := state.writes.eraseIdx place }
    Sane config kept stored ∧ ∀ entry, kept entry → ∀ item,
      stored.Stored entry item ↔ state.Stored entry item := by
  obtain ⟨bound, here⟩ := List.getElem?_eq_some_iff.mp pending
  have member : write ∈ state.writes := here ▸ List.getElem_mem bound
  have split : state.writes.Perm (write :: state.writes.eraseIdx place) := by
    have pieces := List.getElem_cons_eraseIdx_perm bound
    rw [here] at pieces
    exact pieces.symm
  have rest : (state.writes.eraseIdx place).Sublist state.writes :=
    List.eraseIdx_sublist _ _
  have apart : kept write.key → ∀ other ∈ state.writes.eraseIdx place,
      other.key ≠ write.key := by
    intro holds other later same
    have alone := (split.pairwise_iff (by
      intro first second apart holds same
      rw [same] at holds
      exact apart holds same.symm)).mp sane.once
    exact (List.pairwise_cons.mp alone).1 other later holds same.symm
  constructor
  · refine { sane with
      quiet := ?_
      writes := ?_
      current := ?_
      fresh := ?_
      once := ?_ }
    · intro unsettled
      have nothing := sane.quiet unsettled
      rw [nothing] at member
      cases member
    · intro other later
      exact sane.writes other (rest.mem later)
    · intro other later
      exact sane.current other (rest.mem later)
    · intro other later holds
      dsimp only
      rw [Table.lookup_assign, if_neg]
      · exact sane.fresh other (rest.mem later) holds
      · intro same
        rw [same] at holds
        exact apart holds other later same
    · exact sane.once.sublist rest
  · intro entry holds item
    simp only [Stored, Table.lookup_assign]
    constructor
    · intro stored
      rcases stored with cached | ⟨other, later, both⟩
      · split at cached
        · rename_i same
          exact .inr ⟨write, member, same.symm, Option.some.inj cached⟩
        · exact .inl cached
      · exact .inr ⟨other, rest.mem later, both⟩
    · intro stored
      rcases stored with cached | ⟨other, before, same, equal⟩
      · rw [if_neg (sane.apart holds cached write member).symm]
        exact .inl cached
      · rcases List.mem_cons.mp (split.mem_iff.mp before) with new | later
        · rw [new] at same equal
          rw [if_pos same.symm, equal]
          exact .inl rfl
        · exact .inr ⟨other, later, same, equal⟩

/-- The monitor clears the cache while no consumer is about to make a kept
entry. -/
theorem clear_sane (sane : Sane config kept state)
    (none_pending : ∀ write ∈ state.writes, ¬kept write.key) :
    Sane config kept state.clear ∧
      ∀ entry, kept entry → ∀ item, ¬state.clear.Stored entry item := by
  have none_kept : ∀ write ∈ state.clear.writes, ¬kept write.key := by
    intro write member
    obtain ⟨before, earlier, rfl⟩ := List.mem_map.mp member
    exact none_pending before earlier
  constructor
  · constructor
    case results => exact sane.results
    case todo => exact sane.todo
    case opened =>
      intro name place opened
      cases opened
    case quiet =>
      intro unsettled
      unfold clear
      rw [sane.quiet unsettled, List.map_nil]
    case writes =>
      intro write member
      obtain ⟨before, earlier, rfl⟩ := List.mem_map.mp member
      exact sane.writes before earlier
    case current =>
      intro write member holds
      exact absurd holds (none_kept write member)
    case fresh =>
      intro write member holds
      exact absurd holds (none_kept write member)
    case once =>
      apply List.pairwise_of_forall_mem_list
      intro write member other _ holds
      exact absurd holds (none_kept write member)
  · intro entry holds item stored
    rcases stored with cached | ⟨write, member, same, _⟩
    · cases cached
    · rw [← same] at holds
      exact none_kept write member holds

theorem rebuild_effect (sane : Sane config kept state)
    (nothing : ∀ entry, kept entry → ∀ item, ¬state.Stored entry item) :
    Sane config kept state.clear ∧ ∀ entry, kept entry → ∀ item,
      state.clear.Stored entry item ↔ state.Stored entry item := by
  obtain ⟨stays, lost⟩ := clear_sane sane (fun write member holds =>
    nothing write.key holds write.item (.inr ⟨write, member, rfl, rfl⟩))
  refine ⟨stays, ?_⟩
  intro entry holds item
  exact iff_of_false (lost entry holds item) (nothing entry holds item)

/-- Nothing that is known of the manager depends on what etcd holds, or on
which watches are lost. -/
theorem Sane.congr {entries : Table Text Text}
    {history : List (ChangeLog.Change Text Text)} {lost : Text → Bool}
    (sane : Sane config kept state) :
    Sane config kept { state with entries, history, lost } :=
  { sane with }

theorem Effect.removed {info : ServiceInfo}
    (effect : Effect config kept state next [.offline info]) :
    ∀ entry, kept entry → ∀ item,
      next.Stored entry item ↔ state.Stored entry item ∧
        entry ≠ cacheKey info.srvName info.platformId := by
  cases effect with
  | offline _ _ _ removed => exact removed

theorem Effect.congr {earlier : Discovery}
    (effect : Effect config kept earlier next events)
    (cache : earlier.cache = state.cache)
    (writes : earlier.writes = state.writes) :
    Effect config kept state next events := by
  have stored : earlier.Stored = state.Stored := by
    funext entry item
    rw [Stored, Stored, cache, writes]
  cases effect with
  | same kept =>
      rw [stored] at kept
      exact .same kept
  | deleted key kept =>
      rw [stored] at kept
      exact .deleted key kept
  | online included other matched cut absent added =>
      rw [stored] at absent added
      exact .online included other matched cut absent added
  | offline included other present removed =>
      rw [stored] at present removed
      exact .offline included other present removed

theorem step_effect (separate : config.Separate) (sane : Sane config kept state)
    (spares : state.Spares kept action)
    (stepped : step config state action = some (next, events)) :
    Sane config kept next ∧ Effect config kept state next events := by
  have unchanged : ∀ {after : Discovery}, after.cache = state.cache →
      after.writes = state.writes → ∀ entry, kept entry → ∀ item,
        after.Stored entry item ↔ state.Stored entry item := by
    intro after cache writes entry _ item
    rw [Stored, Stored, cache, writes]
  cases action with
  | put key value =>
      cases stepped
      exact ⟨sane.congr, .same (unchanged rfl rfl)⟩
  | delete key =>
      simp only [step] at stepped
      split at stepped
      · cases stepped
        exact ⟨sane.congr, .deleted key (unchanged rfl rfl)⟩
      · cases stepped
  | list name =>
      simp only [step] at stepped
      split at stepped
      · cases stepped
        exact ⟨list_sane sane, .same (unchanged rfl rfl)⟩
      · cases stepped
  | crawled =>
      simp only [step] at stepped
      split at stepped
      · rename_i ready
        cases stepped
        exact ⟨crawled_sane sane ready.1, .same (unchanged rfl rfl)⟩
      · cases stepped
  | announce =>
      simp only [step] at stepped
      split at stepped
      · rename_i name key value rest found
        obtain ⟨included, matched⟩ :=
          sane.todo _ found _ List.mem_cons_self
        have quiet : state.writes = [] := by
          apply sane.quiet
          rw [found]
          exact nofun
        have earlier : Sane config kept { state with todo := some rest } := by
          refine { sane with todo := ?_, opened := ?_, quiet := fun _ => quiet }
          · intro todo here waiting member
            cases here
            exact sane.todo _ found waiting (List.mem_cons_of_mem _ member)
          · intro name place opened
            have settled := (sane.opened name place opened).2
            rw [found] at settled
            cases settled
        have effect := announce_effect earlier included matched quiet value
        rw [Option.some.injEq] at stepped
        rw [stepped] at effect
        exact ⟨effect.1, effect.2.congr rfl rfl⟩
      · cases stepped
  | watch name =>
      simp only [step] at stepped
      split at stepped
      · rename_i ready
        obtain ⟨settled, included, _⟩ := ready
        cases stepped
        exact ⟨watch_sane sane settled included _, .same (unchanged rfl rfl)⟩
      · cases stepped
  | consume name =>
      simp only [step] at stepped
      split at stepped
      · rename_i ready
        obtain ⟨_, idle, _⟩ := ready
        rw [Bool.not_eq_true'] at idle
        split at stepped
        · cases stepped
        · rename_i place here
          split at stepped
          · cases stepped
          · rename_i change found
            obtain ⟨included, settled⟩ := sane.opened name place here
            have earlier := watch_sane sane settled included (place + 1)
            rw [Option.some.injEq, onConsume] at stepped
            split at stepped
            · rename_i matched
              split at stepped
              · rename_i value put
                have effect := onPut_effect earlier separate included
                  matched settled idle value
                rw [stepped] at effect
                exact ⟨effect.1, effect.2.congr rfl rfl⟩
              · have effect := onDelete_effect earlier included change.key
                rw [stepped] at effect
                exact ⟨effect.1, effect.2.congr rfl rfl⟩
            · cases stepped
              exact ⟨earlier, .same (unchanged rfl rfl)⟩
      · cases stepped
  | store place =>
      simp only [step] at stepped
      split at stepped
      · cases stepped
      · rename_i write pending
        cases stepped
        obtain ⟨stays, same⟩ := store_effect sane pending
        exact ⟨stays, .same same⟩
  | lose name =>
      cases stepped
      exact ⟨sane.congr, .same (unchanged rfl rfl)⟩
  | rebuild =>
      simp only [step] at stepped
      split at stepped
      · cases stepped
        obtain ⟨stays, same⟩ := rebuild_effect sane spares
        exact ⟨stays, .same same⟩
      · cases stepped

end

end Discovery

end Manager

end TinyChat
