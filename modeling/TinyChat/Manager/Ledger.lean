import TinyChat.Manager.DiscoverySteps

/-!
# The announcements that stand are those that are stored

As long as the monitor does not clear some entries, the cache and the entries
that the consumers are about to make hold the address of every such service
that was announced and not withdrawn, and of no other.
-/

namespace TinyChat

namespace Manager

namespace Standing

/-- An announcement of an included service of another platform, from a key of
this service. -/
structure Valid (config : DiscoveryConfig) (announced : Standing) : Prop where
  included : announced.info.srvName ∈ config.includeServices
  other : announced.info.platformId ≠ config.platformId
  matched : config.matched announced.info.srvName announced.key = true
  cut : config.srvPlatformId announced.info.srvName announced.key =
    announced.info.platformId

def entry (announced : Standing) : Text :=
  cacheKey announced.info.srvName announced.info.platformId

def item (announced : Standing) : ServiceInfoItem where
  addr := announced.info.srvAddr
  platformId := announced.info.platformId

@[simp] theorem mark_entry (key : Text) (announced : Standing) :
    (announced.mark key).entry = announced.entry := by
  rw [entry, entry, mark_info]

@[simp] theorem mark_item (key : Text) (announced : Standing) :
    (announced.mark key).item = announced.item := by
  rw [item, item, mark_info]

theorem Valid.mark {config : DiscoveryConfig} {announced : Standing}
    (valid : announced.Valid config) (key : Text) :
    (announced.mark key).Valid config := by
  constructor
  case included =>
    rw [mark_info]
    exact valid.included
  case other =>
    rw [mark_info]
    exact valid.other
  case matched =>
    rw [mark_info, mark_key]
    exact valid.matched
  case cut =>
    rw [mark_info, mark_key]
    exact valid.cut

end Standing

namespace Discovery

structure Ledger (config : DiscoveryConfig) (kept : Text → Prop)
    (trace : List Event) (state : Discovery) : Prop where
  valid : ∀ announced ∈ standing trace, announced.Valid config
  holds : ∀ announced ∈ standing trace, kept announced.entry →
    state.Stored announced.entry announced.item
  stored : ∀ entry, kept entry → ∀ item, state.Stored entry item →
    ∃ announced ∈ standing trace,
      announced.entry = entry ∧ announced.item = item

section

variable {config : DiscoveryConfig} {kept : Text → Prop}
  {state next : Discovery} {trace events : List Event}

theorem ledger_start : Ledger config kept [] {} := by
  constructor
  case valid =>
    intro announced member
    cases member
  case holds =>
    intro announced member
    cases member
  case stored =>
    intro entry _ item stored
    rcases stored with cached | ⟨write, member, _⟩
    · cases cached
    · cases member

theorem Ledger.offline (ledger : Ledger config kept trace state)
    (separate : config.Separate) (sane : Sane config kept state)
    {srvName platformId : Text} {item : ServiceInfoItem}
    (included : srvName ∈ config.includeServices)
    (present : state.Stored (cacheKey srvName platformId) item)
    (removed : ∀ entry, kept entry → ∀ other, next.Stored entry other ↔
      state.Stored entry other ∧ entry ≠ cacheKey srvName platformId) :
    Ledger config kept (trace ++ [.offline ⟨srvName, item.addr, platformId⟩])
      next := by
  constructor
  case valid =>
    intro announced member
    exact ledger.valid announced (mem_standing_offline.mp member).1
  case holds =>
    intro announced member keeps
    obtain ⟨before, different⟩ := mem_standing_offline.mp member
    have stored := ledger.holds announced before keeps
    refine (removed _ keeps _).mpr ⟨stored, ?_⟩
    intro same
    obtain ⟨name, platform⟩ := separate.cacheKey_inj
      (ledger.valid announced before).included included same
    rw [same] at stored keeps
    have equal := sane.stored_unique keeps stored present
    apply different
    rw [← equal, ← name, ← platform]
    rfl
  case stored =>
    intro entry keeps other stored
    obtain ⟨before, apart⟩ := (removed entry keeps other).mp stored
    obtain ⟨announced, member, here, equal⟩ :=
      ledger.stored entry keeps other before
    refine ⟨announced, mem_standing_offline.mpr ⟨member, ?_⟩, here, equal⟩
    intro same
    apply apart
    rw [← here, Standing.entry, same]

theorem Ledger.effect (ledger : Ledger config kept trace state)
    (separate : config.Separate) (sane : Sane config kept state)
    (effect : Effect config kept state next events) :
    Ledger config kept (trace ++ events) next := by
  cases effect with
  | same unchanged =>
      rw [List.append_nil]
      constructor
      case valid => exact ledger.valid
      case holds =>
        intro announced member keeps
        exact (unchanged _ keeps _).mpr (ledger.holds announced member keeps)
      case stored =>
        intro entry keeps item stored
        exact ledger.stored entry keeps item
          ((unchanged _ keeps _).mp stored)
  | deleted key unchanged =>
      constructor
      case valid =>
        intro announced member
        obtain ⟨earlier, before, rfl⟩ := mem_standing_deleted.mp member
        exact (ledger.valid earlier before).mark key
      case holds =>
        intro announced member keeps
        obtain ⟨earlier, before, rfl⟩ := mem_standing_deleted.mp member
        rw [Standing.mark_entry] at keeps ⊢
        rw [Standing.mark_item]
        exact (unchanged _ keeps _).mpr (ledger.holds earlier before keeps)
      case stored =>
        intro entry keeps item stored
        obtain ⟨earlier, before, here, equal⟩ :=
          ledger.stored entry keeps item ((unchanged _ keeps _).mp stored)
        refine ⟨earlier.mark key,
          mem_standing_deleted.mpr ⟨earlier, before, rfl⟩, ?_, ?_⟩
        · rw [Standing.mark_entry]
          exact here
        · rw [Standing.mark_item]
          exact equal
  | online included other matched cut absent added =>
      constructor
      case valid =>
        intro announced member
        rcases mem_standing_online.mp member with new | before
        · rw [new]
          exact ⟨included, other, matched, cut⟩
        · exact ledger.valid announced before
      case holds =>
        intro announced member keeps
        rw [added _ keeps]
        rcases mem_standing_online.mp member with new | before
        · rw [new]
          exact .inr ⟨rfl, rfl⟩
        · exact .inl (ledger.holds announced before keeps)
      case stored =>
        intro entry keeps item stored
        rcases (added entry keeps item).mp stored with before | ⟨here, equal⟩
        · obtain ⟨announced, member, both⟩ :=
            ledger.stored entry keeps item before
          exact ⟨announced, mem_standing_online.mpr (.inr member), both⟩
        · exact ⟨_, mem_standing_online.mpr (.inl rfl), here.symm, equal.symm⟩
  | offline included other present removed =>
      exact ledger.offline separate sane included present removed

theorem Ledger.platform (ledger : Ledger config kept trace state)
    (separate : config.Separate) {srvName platformId : Text}
    {item : ServiceInfoItem}
    (included : srvName ∈ config.includeServices)
    (keeps : kept (cacheKey srvName platformId))
    (stored : state.Stored (cacheKey srvName platformId) item) :
    item = ⟨item.addr, platformId⟩ := by
  obtain ⟨announced, member, here, equal⟩ := ledger.stored _ keeps _ stored
  have platform := (separate.cacheKey_inj
    (ledger.valid announced member).included included here).2
  rw [← equal, ← platform]
  rfl

theorem Ledger.announced_iff (ledger : Ledger config kept trace state)
    (separate : config.Separate) {info : ServiceInfo}
    (keeps : kept (cacheKey info.srvName info.platformId)) :
    Announced trace info ↔
      info.srvName ∈ config.includeServices ∧
        info.platformId ≠ config.platformId ∧
          state.Stored (cacheKey info.srvName info.platformId)
            ⟨info.srvAddr, info.platformId⟩ := by
  rw [Manager.announced_iff]
  constructor
  · intro stands
    obtain ⟨announced, member, rfl⟩ := stands
    have valid := ledger.valid announced member
    exact ⟨valid.included, valid.other, ledger.holds announced member keeps⟩
  · intro found
    obtain ⟨included, _, stored⟩ := found
    obtain ⟨announced, member, here, equal⟩ :=
      ledger.stored _ keeps _ stored
    refine ⟨announced, member, ?_⟩
    have name := (separate.cacheKey_inj
      (ledger.valid announced member).included included here).1
    rw [Standing.item, ServiceInfoItem.mk.injEq] at equal
    cases info
    cases announced
    dsimp only at name equal
    rw [ServiceInfo.mk.injEq]
    exact ⟨name, equal.1, equal.2⟩

end

end Discovery

end Manager

end TinyChat
