import Mathlib.Data.List.TakeWhile
import TinyChat.Rpc.RepositorySteps

/-!
# What etcd has reported of a service

Every group should remember whether the last event of its address was an
online or an offline event, and the monitor should only remove groups that
were reported down.  A wrong mask makes it forget, and it also removes groups
that only it has found down.
-/

namespace TinyChat

namespace Rpc

namespace Event

/-- What an event says of an address: online or offline. -/
def report (addr : ServiceAddr) : Event → Option Bool
  | .online other => if other = addr then some true else none
  | .offline other => if other = addr then some false else none
  | .popped _ => none
  | .keyError => none

end Event

/-- The last event of an address. -/
def lastReport (trace : List Event) (addr : ServiceAddr) : Option Bool :=
  (trace.filterMap (Event.report addr)).getLast?

/-- The bits of a group that was reported online or offline. -/
def Remembers (report : Bool) (state : State) : Prop :=
  state.has .etcdReportUp = report ∧ state.has .etcdReportDown = !report

instance decidableRemembers (report : Bool) (state : State) :
    Decidable (Remembers report state) :=
  inferInstanceAs (Decidable (_ ∧ _))

section

variable {trace events : List Event} {addr other : ServiceAddr}

theorem lastReport_append :
    lastReport (trace ++ events) addr =
      (lastReport events addr).or (lastReport trace addr) := by
  rw [lastReport, List.filterMap_append, List.getLast?_append]
  rfl

theorem lastReport_event (trace : List Event) (event : Event)
    (addr : ServiceAddr) :
    lastReport (trace ++ [event]) addr =
      (event.report addr).or (lastReport trace addr) := by
  rw [lastReport_append]
  congr 1
  rw [lastReport, List.filterMap_cons]
  cases event.report addr <;> rfl

/-- Events that say nothing of an address. -/
theorem lastReport_silent
    (silent : ∀ event ∈ events, event.report addr = none) :
    lastReport (trace ++ events) addr = lastReport trace addr := by
  have none_there : events.filterMap (Event.report addr) = [] :=
    List.filterMap_eq_nil_iff.mpr silent
  rw [lastReport_append, lastReport, none_there]
  rfl

theorem remembers_iff {report : Bool} {state : State} :
    Remembers report state ↔ state.reports = (report, !report) := by
  rw [Remembers, State.reports, Prod.mk.injEq]

end

namespace Repository

variable {ρ : Type} {hashRing : HashRing ρ} {repository next : Repository ρ}

/-- Every group in the repository remembers the last event of its address. -/
def Reported (trace : List Event) (repository : Repository ρ) : Prop :=
  ∀ entry ∈ repository.services, ∀ report,
    lastReport trace entry.1 = some report →
      Remembers report (repository.state entry.2)

/-- The monitor only removes groups whose address was last offline. -/
def OnlyOffline : List Event → List Event → Prop :=
  Transition.EachEvent (fun before event => ∀ addr,
    event = .popped addr → lastReport before addr = some false)

/-- The first loop finds no group that it would forget the report of; if it
finds no lost stubs and goes on to the pops, the groups that it lists were
reported down. -/
def scanKeeps (stubs : Nat → List StubStatus)
    (repository : Repository ρ) (group : Nat) : Bool :=
  let state := repository.state group
  state.has .subjectRebuild || checkIfAnyHealthy (stubs group) ||
    if repository.anyPending (fun group => scanGroup (stubs group)) then
      state.isDown
    else state.has .etcdReportDown

/-- The addresses that are popped first after the reconnections: those that
were listed, up to the first one that is not there any more. -/
def popsFirst (repository : Repository ρ) : List ServiceAddr :=
  match repository.monitor with
  | .gathering needsPop =>
      needsPop.takeWhile (fun addr =>
        (repository.services.lookup addr).isSome)
  | _ => []

def reportedDown (repository : Repository ρ) (addr : ServiceAddr) : Bool :=
  (repository.services.lookup addr).any (fun group =>
    (repository.state group).has .etcdReportDown)

theorem reportedDown_iff {addr : ServiceAddr} :
    repository.reportedDown addr = true ↔ ∃ group,
      repository.services.lookup addr = some group ∧
        (repository.state group).has .etcdReportDown = true := by
  unfold reportedDown
  cases repository.services.lookup addr with
  | none => exact iff_of_false nofun nofun
  | some group => simp

/-- The monitor meets no group whose report it forgets or overlooks. -/
def Heeds (repository : Repository ρ) : Action → Prop
  | .scan stubs =>
      ∀ group ∈ repository.serviceGroups,
        repository.scanKeeps stubs group = true
  | .recheck _ none =>
      ∀ addr ∈ repository.popsFirst, repository.reportedDown addr = true
  | _ => True

/-- What is known of every group: there was an event for its address, and the
bits are those of the last one. -/
def Known (trace : List Event) (repository : Repository ρ) : Prop :=
  ∀ entry ∈ repository.services, ∃ report,
    lastReport trace entry.1 = some report ∧
      (repository.state entry.2).reports = (report, !report)

theorem Known.reported {trace : List Event}
    (known : Known trace repository) : Reported trace repository := by
  intro entry member report last
  obtain ⟨said, lastSaid, reports⟩ := known entry member
  rw [lastSaid, Option.some.injEq] at last
  rw [← last]
  exact remembers_iff.mpr reports

section

variable {trace events : List Event} {event : Event} {report : Bool}
  {addr : ServiceAddr} {group : Nat}

theorem Sound.entry_eq (sound : repository.Sound)
    {first second : ServiceAddr × Nat}
    (listed : first ∈ repository.services)
    (also : second ∈ repository.services) (same : first.2 = second.2) :
    first = second :=
  List.inj_on_of_nodup_map sound.groups listed also same

/-- Nothing is forgotten by a step that keeps the reports of the groups and
says nothing of the addresses that are left. -/
theorem Known.keep (known : Known trace repository)
    (services : ∀ entry ∈ next.services, entry ∈ repository.services)
    (kept : ∀ entry ∈ next.services,
      (next.state entry.2).reports = (repository.state entry.2).reports)
    (silent : ∀ entry ∈ next.services, ∀ event ∈ events,
      event.report entry.1 = none) :
    Known (trace ++ events) next := by
  intro entry member
  obtain ⟨said, last, reports⟩ := known entry (services entry member)
  refine ⟨said, ?_, ?_⟩
  · rw [lastReport_silent (silent entry member)]
    exact last
  · rw [kept entry member]
    exact reports

theorem Known.told (known : Known trace repository)
    (sound : repository.Sound)
    (found : repository.services.lookup addr = some group)
    (tells : event.report addr = some report)
    (others : ∀ other ≠ addr, event.report other = none)
    (services : next.services = repository.services)
    (own : (next.state group).reports = (report, !report))
    (kept : ∀ other ≠ group,
      (next.state other).reports = (repository.state other).reports) :
    Known (trace ++ [event]) next := by
  rw [Known, services]
  intro entry member
  by_cases here : entry.1 = addr
  · have same := Table.lookup_of_mem sound.keys member
    rw [here, found, Option.some.injEq] at same
    refine ⟨report, ?_, ?_⟩
    · rw [lastReport_event, here, tells]
      rfl
    · rw [← same]
      exact own
  · obtain ⟨said, last, reports⟩ := known entry member
    refine ⟨said, ?_, ?_⟩
    · rw [lastReport_event, others _ here]
      exact last
    · have different : entry.2 ≠ group := by
        intro same
        have equal := sound.entry_eq member (Table.mem_of_lookup found) same
        exact here (congrArg Prod.fst equal)
      rw [kept _ different]
      exact reports

theorem Known.insert (known : Known trace repository)
    (sound : repository.Sound)
    (missing : repository.services.lookup addr = none) {state : State}
    (up : state.reports = (true, false)) :
    Known (trace ++ [.online addr])
      (repository.insert hashRing addr state) := by
  have services : (repository.insert hashRing addr state).services =
      repository.services ++ [(addr, repository.created)] :=
    Table.assign_of_lookup _ missing
  rw [Known, services]
  intro entry member
  rcases List.mem_append.mp member with old | new
  · obtain ⟨said, last, reports⟩ := known entry old
    have different : addr ≠ entry.1 := by
      intro same
      rw [same] at missing
      exact Table.notMem_of_lookup missing old
    refine ⟨said, ?_, ?_⟩
    · rw [lastReport_event, Event.report, if_neg different]
      exact last
    · simp only [Repository.state, Repository.insert,
        Function.update_of_ne (Nat.ne_of_lt (sound.created entry old))]
      exact reports
  · rw [List.mem_singleton.mp new]
    refine ⟨true, ?_, ?_⟩
    · rw [lastReport_event, Event.report, if_pos rfl]
      rfl
    · simp only [Repository.state, Repository.insert, Function.update_self]
      exact up

theorem setState_own (state : State) :
    (repository.setState group state).state group = state :=
  visit_state (List.mem_singleton_self group)

theorem setState_other {other : Nat} (different : other ≠ group)
    (state : State) :
    (repository.setState group state).state other =
      repository.state other :=
  visit_other (mt List.mem_singleton.mp different)

theorem Known.wake (known : Known trace repository) :
    Known trace repository.wake := known

theorem Known.setMonitor (known : Known trace repository)
    (phase : MonitorPhase) :
    Known trace { repository with monitor := phase } := known

theorem startMonitor_state (repository : Repository ρ) (group : Nat) :
    repository.startMonitor.state group = repository.state group := by
  unfold startMonitor
  split <;> rfl

theorem startMonitor_known (known : Known trace repository) :
    Known trace repository.startMonitor := by
  rw [Known, startMonitor_services]
  intro entry member
  rw [startMonitor_state]
  exact known entry member

theorem Known.add (known : Known trace repository)
    (sound : repository.Sound) (addr : ServiceAddr)
    (stubs : List StubStatus) :
    Known (trace ++ [.online addr])
      (repository.add hashRing addr stubs) := by
  unfold Repository.add
  split
  · rename_i group found
    refine known.told sound found (if_pos rfl) ?_ rfl ?_ ?_
    · intro other different
      exact if_neg different.symm
    · rw [setState_own]
      exact State.reports_online _
    · intro other different
      rw [setState_other different]
  · rename_i missing
    have started := startMonitor_known known
    have absent : repository.startMonitor.services.lookup addr = none := by
      rw [startMonitor_services]
      exact missing
    dsimp only
    split
    · exact started.insert sound.startMonitor absent (by decide)
    · exact started.wake.insert sound.startMonitor.wake absent (by decide)

theorem Known.remove (known : Known trace repository)
    (sound : repository.Sound) (addr : ServiceAddr)
    (stubs : List StubStatus) :
    Known (trace ++ [.offline addr])
      (repository.remove hashRing addr stubs) := by
  have silent : ∀ other, other ≠ addr → ∀ event ∈ [Event.offline addr],
      event.report other = none := by
    intro other different event member
    rw [List.mem_singleton.mp member]
    exact if_neg different.symm
  unfold Repository.remove
  split
  · rename_i missing
    refine known.keep (fun _ member => member) (fun _ _ => rfl) ?_
    intro entry member
    apply silent
    intro same
    rw [← same] at missing
    exact Table.notMem_of_lookup missing member
  · rename_i group found
    dsimp only
    split
    · refine known.keep ?_ (fun _ _ => rfl) ?_
      · intro entry member
        exact (Table.mem_pop.mp member).1
      · intro entry member
        exact silent _ (Table.mem_pop.mp member).2
    · refine known.told sound found (if_pos rfl) ?_ rfl ?_ ?_
      · intro other different
        exact if_neg different.symm
      · refine (congrArg State.reports (setState_own _)).trans ?_
        exact State.reports_offline _
      · intro other different
        exact congrArg State.reports (setState_other different _)

theorem Known.visit (known : Known trace repository) {visited : List Nat}
    {change : Nat → State → State}
    (kept : ∀ group ∈ visited,
      (change group (repository.state group)).reports =
        (repository.state group).reports) :
    Known trace (repository.visit visited change) := by
  intro entry member
  rw [visit_kept kept]
  exact known entry member

/-- The last loop of a pass reports nothing. -/
theorem popAll_silent (needsPop : List ServiceAddr)
    (repository : Repository ρ) (addr : ServiceAddr) :
    ∀ event ∈ (popAll hashRing needsPop repository).2,
      event.report addr = none := by
  induction needsPop generalizing repository with
  | nil => nofun
  | cons first needsPop induction =>
      simp only [popAll]
      split
      · intro event member
        rw [List.mem_singleton.mp member]
        rfl
      · intro event member
        rcases List.mem_cons.mp member with same | later
        · rw [same]
          rfl
        · exact induction _ event later

theorem popped_mem {needsPop : List ServiceAddr}
    {repository : Repository ρ}
    (popped : .popped addr ∈ (popAll hashRing needsPop repository).2) :
    addr ∈ needsPop := by
  induction needsPop generalizing repository with
  | nil => cases popped
  | cons first needsPop induction =>
      simp only [popAll] at popped
      split at popped
      · cases List.mem_singleton.mp popped
      · rcases List.mem_cons.mp popped with same | later
        · cases same
          exact List.mem_cons_self
        · exact List.mem_cons_of_mem _ (induction later)

theorem popAll_unlisted {needsPop : List ServiceAddr}
    {repository : Repository ρ} {entry : ServiceAddr × Nat}
    (member : entry ∈ repository.services)
    (unlisted : entry.1 ∉ needsPop) :
    entry ∈ (popAll hashRing needsPop repository).1.services := by
  induction needsPop generalizing repository with
  | nil => exact member
  | cons first needsPop induction =>
      rw [List.mem_cons, not_or] at unlisted
      have kept : entry ∈ repository.services.pop first :=
        Table.mem_pop.mpr ⟨member, unlisted.1⟩
      simp only [popAll]
      split
      · exact member
      · split
        · exact induction kept unlisted.2
        · exact induction kept unlisted.2

theorem Known.pass (known : Known trace repository)
    (needsPop : List ServiceAddr) :
    Known (trace ++ (endPass (popAll hashRing needsPop repository)).2)
      (endPass (popAll hashRing needsPop repository)).1 := by
  obtain ⟨services, groups, _⟩ := popAll_frame hashRing needsPop repository
  apply known.keep
  · rw [endPass_services]
    exact fun _ member => services.subset member
  · intro entry _
    rw [state, state, endPass_groups, groups]
  · intro entry _
    rw [endPass_events]
    exact popAll_silent needsPop repository entry.1

/-- Pops that only come later do not matter for those that come first. -/
theorem takeWhile_pop {needsPop : List ServiceAddr}
    {first : ServiceAddr} (unlisted : first ∉ needsPop)
    (services : Table ServiceAddr Nat) :
    needsPop.takeWhile (fun addr =>
        ((services.pop first).lookup addr).isSome) =
      needsPop.takeWhile (fun addr => (services.lookup addr).isSome) := by
  induction needsPop with
  | nil => rfl
  | cons second needsPop induction =>
      rw [List.mem_cons, not_or] at unlisted
      rw [List.takeWhile_cons, List.takeWhile_cons, Table.lookup_pop,
        if_neg (Ne.symm unlisted.1), induction unlisted.2]

theorem popped_of_first {needsPop later : List ServiceAddr}
    {repository : Repository ρ} (nodup : needsPop.Nodup)
    (first : addr ∈ needsPop.takeWhile (fun addr =>
      (repository.services.lookup addr).isSome)) :
    .popped addr ∈
      (popAll hashRing (needsPop ++ later) repository).2 := by
  induction needsPop generalizing repository with
  | nil => cases first
  | cons head needsPop induction =>
      rw [List.nodup_cons] at nodup
      rw [List.takeWhile_cons] at first
      split at first
      · rename_i present
        obtain ⟨group, found⟩ := Option.isSome_iff_exists.mp present
        simp only [List.cons_append, popAll, found]
        rcases List.mem_cons.mp first with same | rest
        · rw [same]
          exact List.mem_cons_self
        · apply List.mem_cons_of_mem
          split
          · apply induction nodup.2
            exact (takeWhile_pop nodup.1 _).symm ▸ rest
          · apply induction nodup.2
            exact (takeWhile_pop nodup.1 _).symm ▸ rest
      · cases first

theorem popped_of_present {needsPop : List ServiceAddr}
    {repository : Repository ρ} (nodup : needsPop.Nodup)
    (present : ∀ addr ∈ needsPop,
      (repository.services.lookup addr).isSome = true)
    (member : addr ∈ needsPop) :
    .popped addr ∈ (popAll hashRing needsPop repository).2 := by
  have all : needsPop.takeWhile (fun addr =>
      (repository.services.lookup addr).isSome) = needsPop :=
    List.takeWhile_eq_self_iff.mpr present
  rw [← all] at member
  have popped : .popped addr ∈
      (popAll hashRing (needsPop ++ []) repository).2 :=
    popped_of_first nodup member
  rwa [List.append_nil] at popped

theorem first_of_popped {needsPop later : List ServiceAddr}
    {repository : Repository ρ} (nodup : needsPop.Nodup)
    (popped : .popped addr ∈
      (popAll hashRing (needsPop ++ later) repository).2) :
    addr ∈ needsPop.takeWhile (fun addr =>
      (repository.services.lookup addr).isSome) ∨ addr ∈ later := by
  induction needsPop generalizing repository with
  | nil => exact .inr (popped_mem popped)
  | cons head needsPop induction =>
      rw [List.nodup_cons] at nodup
      simp only [List.cons_append, popAll] at popped
      rw [List.takeWhile_cons]
      split at popped
      · cases List.mem_singleton.mp popped
      · rename_i group found
        rw [found, Option.isSome_some, if_pos rfl]
        rcases List.mem_cons.mp popped with same | rest
        · cases same
          exact .inl List.mem_cons_self
        · have taken : addr ∈ needsPop.takeWhile (fun addr =>
              ((repository.services.pop head).lookup addr).isSome) ∨
                addr ∈ later := by
            split at rest
            · exact induction nodup.2 rest
            · exact induction nodup.2 rest
          rw [takeWhile_pop nodup.1] at taken
          exact taken.imp_left (List.mem_cons_of_mem _)

/-- Events that report nothing only have to pop what was last offline. -/
theorem onlyOffline_iff
    (silent : ∀ event ∈ events, ∀ addr, event.report addr = none) :
    OnlyOffline trace events ↔ ∀ addr, .popped addr ∈ events →
      lastReport trace addr = some false := by
  induction events generalizing trace with
  | nil => exact iff_of_true trivial nofun
  | cons event events induction =>
      have later : ∀ addr,
          lastReport (trace ++ [event]) addr = lastReport trace addr := by
        intro addr
        rw [lastReport_event, silent event List.mem_cons_self]
        rfl
      have rest := @induction (trace ++ [event])
        (fun other member => silent other (List.mem_cons_of_mem _ member))
      simp only [later] at rest
      unfold OnlyOffline at rest ⊢
      rw [Transition.eachEvent_cons, rest]
      constructor
      · intro both addr member
        rcases List.mem_cons.mp member with same | later
        · exact both.1 addr same.symm
        · exact both.2 addr later
      · intro all
        refine ⟨?_, fun addr member => all addr
          (List.mem_cons_of_mem _ member)⟩
        intro addr same
        exact all addr (same ▸ List.mem_cons_self)

theorem onlyOffline_pass {needsPop : List ServiceAddr}
    {repository : Repository ρ} :
    OnlyOffline trace (endPass (popAll hashRing needsPop repository)).2 ↔
      ∀ addr, .popped addr ∈ (popAll hashRing needsPop repository).2 →
        lastReport trace addr = some false := by
  rw [endPass_events]
  apply onlyOffline_iff
  intro event member addr
  exact popAll_silent needsPop repository addr event member

theorem Known.offline_iff (known : Known trace repository)
    (found : repository.services.lookup addr = some group) :
    lastReport trace addr = some false ↔
      (repository.state group).has .etcdReportDown = true := by
  obtain ⟨said, last, reports⟩ := known _ (Table.mem_of_lookup found)
  have down : (repository.state group).has .etcdReportDown = !said :=
    congrArg Prod.snd reports
  rw [down]
  dsimp only at last
  rw [last]
  cases said <;> decide

section

variable {stubs : Nat → List StubStatus}

theorem not_forgets (keeps : repository.scanKeeps stubs group = true) :
    ¬Forgets (stubs group) (repository.state group) := by
  intro forgets
  obtain ⟨settled, unhealthy, up⟩ := forgets
  have unreported : (repository.state group).has .etcdReportDown =
      false := by
    rw [State.isDown_eq, Bool.or_eq_false_iff] at up
    exact up.2
  simp only [scanKeeps, settled, unhealthy, up, unreported] at keeps
  split at keeps <;> cases keeps

theorem Known.scanned (known : Known trace repository)
    (keeps : ∀ group ∈ repository.serviceGroups,
      repository.scanKeeps stubs group = true) :
    Known trace (repository.scanned stubs) := by
  apply known.visit
  intro group member
  exact scanGroup_reports (not_forgets (keeps group member))

theorem Known.scan (hashRing : HashRing ρ)
    (known : Known trace repository) (sound : repository.Sound)
    (keeps : ∀ group ∈ repository.serviceGroups,
      repository.scanKeeps stubs group = true) :
    let result := repository.scan hashRing stubs
    Known (trace ++ result.2) result.1 ∧ OnlyOffline trace result.2 := by
  have after := known.scanned keeps
  unfold Repository.scan
  dsimp only
  split
  · rw [List.append_nil]
    exact ⟨after, trivial⟩
  · rename_i settled
    refine ⟨after.pass _, onlyOffline_pass.mpr ?_⟩
    intro addr popped
    obtain ⟨group, found, needsPop⟩ :=
      found_of_listed sound (popped_mem popped)
    obtain ⟨ready, unhealthy, _⟩ := scanGroup_needsPop.mp needsPop
    have kept := keeps group (mem_serviceGroups found)
    rw [known.offline_iff found]
    simpa only [scanKeeps, ready, unhealthy, settled, Bool.false_or,
      if_false, Bool.false_eq_true] using kept

theorem scanKeeps_of_reported (hashRing : HashRing ρ)
    (known : Known trace repository) (sound : repository.Sound)
    (reported : Reported (trace ++ (repository.scan hashRing stubs).2)
      (repository.scan hashRing stubs).1)
    (offline : OnlyOffline trace (repository.scan hashRing stubs).2) :
    ∀ group ∈ repository.serviceGroups,
      repository.scanKeeps stubs group = true := by
  intro group member
  obtain ⟨entry, listed, same⟩ := List.mem_map.mp member
  subst same
  have found := Table.lookup_of_mem sound.keys listed
  obtain ⟨said, last, reports⟩ := known entry listed
  by_contra broken
  simp only [scanKeeps, Bool.or_eq_true, not_or,
    Bool.not_eq_true] at broken
  obtain ⟨⟨ready, unhealthy⟩, rest⟩ := broken
  have present : ∀ stubs : Nat → List StubStatus, ∀ addr ∈
      repository.listed (fun group => scanGroup (stubs group)),
      (repository.services.lookup addr).isSome = true := by
    intro stubs addr listed
    obtain ⟨group, found, _⟩ := found_of_listed sound listed
    rw [found]
    rfl
  have forgotten : ∀ _ : (repository.state entry.2).isDown = false,
      ((repository.scanned stubs).state entry.2).reports =
        (false, false) := by
    intro up
    rw [scanned, visit_state member,
      scanGroup_forgets ⟨ready, unhealthy, up⟩]
    exact State.reports_erased _
  have differs : ∀ state : State, state.reports = (false, false) →
      ¬Remembers said state := by
    intro state erased remembers
    rw [remembers_iff, erased] at remembers
    cases said <;> cases remembers
  unfold Repository.scan at reported offline
  dsimp only at reported offline
  split at rest
  · rename_i pending
    rw [if_pos pending] at reported
    rw [List.append_nil] at reported
    exact differs _ (forgotten rest) (reported entry listed said last)
  · rename_i settled
    rw [if_neg settled] at reported offline
    rw [onlyOffline_pass] at offline
    cases down : (repository.state entry.2).isDown with
    | true =>
        have needsPop := scanGroup_needsPop.mpr ⟨ready, unhealthy, down⟩
        have popped := offline entry.1 (popped_of_present
          (sound.nodup_listed _) (present stubs)
          ((mem_listed_iff sound found).mpr needsPop))
        rw [known.offline_iff found] at popped
        rw [rest] at popped
        cases popped
    | false =>
        have unlisted : entry.1 ∉ repository.listed
            (fun group => scanGroup (stubs group)) := by
          rw [mem_listed_iff sound found, scanGroup_needsPop, down]
          exact fun both => nomatch both.2.2
        have left : entry ∈ (popAll hashRing
            (repository.listed (fun group => scanGroup (stubs group)))
            (repository.scanned stubs)).1.services :=
          popAll_unlisted listed unlisted
        rw [← scanned, endPass_events] at reported
        have remembers := reported entry
          (by rw [endPass_services]; exact left) said
          (by rw [lastReport_silent (popAll_silent _ _ _)]; exact last)
        rw [state, endPass_groups, (popAll_frame _ _ _).2.1] at remembers
        exact differs _ (forgotten down) remembers

theorem Known.recheck (hashRing : HashRing ρ)
    (stubs : Nat → List StubStatus) (known : Known trace repository)
    (sound : repository.Sound) {needsPop : List ServiceAddr}
    (nodup : needsPop.Nodup)
    (heeds : ∀ addr ∈ needsPop.takeWhile (fun addr =>
        (repository.services.lookup addr).isSome),
      repository.reportedDown addr = true) :
    let result := repository.recheck hashRing stubs none needsPop
    Known (trace ++ result.2) result.1 ∧ OnlyOffline trace result.2 := by
  have after : Known trace (repository.rechecked stubs) :=
    known.visit (fun _ _ => recheckGroup_reports)
  rw [recheck_none]
  refine ⟨after.pass _, onlyOffline_pass.mpr ?_⟩
  intro addr popped
  rcases first_of_popped nodup popped with first | later
  · have down := heeds addr first
    obtain ⟨group, found, reported⟩ := reportedDown_iff.mp down
    exact (known.offline_iff found).mpr reported
  · obtain ⟨group, found, _⟩ := found_of_listed sound later
    obtain ⟨_, reported⟩ := (mem_listed_recheck stubs sound found).mp later
    exact (known.offline_iff found).mpr reported

/-- The pops after the reconnections only spare what was reported down. -/
theorem heeds_of_offline (hashRing : HashRing ρ)
    (stubs : Nat → List StubStatus) (known : Known trace repository)
    {needsPop : List ServiceAddr} (nodup : needsPop.Nodup)
    (offline : OnlyOffline trace
      (repository.recheck hashRing stubs none needsPop).2) :
    ∀ addr ∈ needsPop.takeWhile (fun addr =>
        (repository.services.lookup addr).isSome),
      repository.reportedDown addr = true := by
  rw [recheck_none, onlyOffline_pass] at offline
  intro addr first
  have present : (repository.services.lookup addr).isSome = true := by
    have holds := List.mem_takeWhile_imp first
    exact holds
  obtain ⟨group, found⟩ := Option.isSome_iff_exists.mp present
  have popped := offline addr (popped_of_first nodup first)
  exact reportedDown_iff.mpr
    ⟨group, found, (known.offline_iff found).mp popped⟩

end

variable {action : Action}

theorem Known.step (known : Known trace repository)
    (sound : repository.Sound) (heeds : repository.Heeds action)
    (stepped : step hashRing repository action = some (next, events)) :
    Known (trace ++ events) next ∧ OnlyOffline trace events := by
  cases action with
  | add addr stubs =>
      cases stepped
      exact ⟨known.add sound addr stubs, nofun, trivial⟩
  | remove addr stubs =>
      cases stepped
      exact ⟨known.remove sound addr stubs, nofun, trivial⟩
  | notifyConnectionAlive group =>
      simp only [Repository.step] at stepped
      split at stepped
      · cases stepped
        rw [List.append_nil]
        refine ⟨known.visit ?_, trivial⟩
        intro other member
        rw [List.mem_singleton.mp member]
        exact State.reports_notDown _
      · cases stepped
  | notifyConnectionLost group =>
      simp only [Repository.step] at stepped
      split at stepped
      · cases stepped
        rw [List.append_nil]
        refine ⟨?_, trivial⟩
        unfold Repository.notifyConnectionLost
        dsimp only
        split
        · exact known
        · refine (known.visit ?_).wake
          intro other member
          rw [List.mem_singleton.mp member]
          exact State.reports_rebuild _
      · cases stepped
  | awakeMonitor =>
      simp only [Repository.step] at stepped
      split at stepped
      · cases stepped
        rw [List.append_nil]
        exact ⟨known, trivial⟩
      · cases stepped
  | scan stubs =>
      simp only [Repository.step] at stepped
      split at stepped
      · have result := known.scan hashRing sound heeds
        rw [Option.some.inj stepped] at result
        exact result
      · cases stepped
  | recheck stubs failure =>
      simp only [Repository.step] at stepped
      split at stepped
      · rename_i needsPop gathering
        cases failure with
        | some place =>
            cases stepped
            rw [List.append_nil]
            refine ⟨(known.visit ?_).setMonitor _, trivial⟩
            intro group _
            exact recheckGroup_reports
        | none =>
            simp only [Heeds, popsFirst, gathering] at heeds
            have result := known.recheck hashRing stubs sound
              (sound.listed needsPop gathering) heeds
            rw [Option.some.inj stepped] at result
            exact result
      · cases stepped
  | resume =>
      simp only [Repository.step] at stepped
      split at stepped
      · cases stepped
        rw [List.append_nil]
        exact ⟨known, trivial⟩
      · cases stepped

theorem heeds_of_reported (known : Known trace repository)
    (sound : repository.Sound)
    (stepped : step hashRing repository action = some (next, events))
    (reported : Reported (trace ++ events) next)
    (offline : OnlyOffline trace events) : repository.Heeds action := by
  cases action with
  | scan stubs =>
      simp only [Repository.step] at stepped
      split at stepped
      · have result := Option.some.inj stepped
        apply scanKeeps_of_reported hashRing known sound
        · rw [result]
          exact reported
        · rw [result]
          exact offline
      · cases stepped
  | recheck stubs failure =>
      cases failure with
      | some place => trivial
      | none =>
          simp only [Repository.step] at stepped
          split at stepped
          · rename_i needsPop gathering
            simp only [Heeds, popsFirst, gathering]
            have result := Option.some.inj stepped
            apply heeds_of_offline hashRing stubs known
              (sound.listed needsPop gathering)
            rw [result]
            exact offline
          · cases stepped
  | add _ _ => trivial
  | remove _ _ => trivial
  | notifyConnectionAlive _ => trivial
  | notifyConnectionLost _ => trivial
  | awakeMonitor => trivial
  | resume => trivial

/-- As long as the monitor meets no group whose report it forgets or
overlooks, every group remembers the last event of its address, and the
monitor only removes what was last offline.  A pass that meets one breaks
one of the two. -/
theorem run_reported
    (run : Transition.Run (step hashRing) Heeds (start hashRing) trace
      repository) :
    (Reported trace repository ∧ OnlyOffline [] trace) ∧
      ∀ action next events,
        step hashRing repository action = some (next, events) →
          (Reported (trace ++ events) next ∧
              OnlyOffline [] (trace ++ events) ↔
            repository.Heeds action) := by
  have all : Known trace repository ∧ OnlyOffline [] trace := by
    induction run with
    | refl => exact ⟨nofun, trivial⟩
    | snoc run heeds stepped induction =>
        obtain ⟨known, offline⟩ := induction
        obtain ⟨later, now⟩ := known.step (run_sound run) heeds stepped
        exact ⟨later, (Transition.eachEvent_append _ _ _).mpr
          ⟨offline, now⟩⟩
  have sound := run_sound run
  refine ⟨⟨all.1.reported, all.2⟩, ?_⟩
  intro action next events stepped
  have split : OnlyOffline [] (trace ++ events) ↔
      OnlyOffline [] trace ∧ OnlyOffline trace events :=
    Transition.eachEvent_append _ _ _
  rw [split, and_iff_right all.2]
  constructor
  · intro both
    exact heeds_of_reported all.1 sound stepped both.1 both.2
  · intro heeds
    obtain ⟨later, now⟩ := all.1.step sound heeds stepped
    exact ⟨later.reported, now⟩

end

instance decidableHeeds {ρ : Type} (repository : Repository ρ) :
    ∀ action, Decidable (repository.Heeds action)
  | .scan stubs =>
      inferInstanceAs (Decidable (∀ group ∈ repository.serviceGroups,
        repository.scanKeeps stubs group = true))
  | .recheck _ none =>
      inferInstanceAs (Decidable (∀ addr ∈ repository.popsFirst,
        repository.reportedDown addr = true))
  | .recheck _ (some _) => .isTrue trivial
  | .add _ _ | .remove _ _ | .notifyConnectionAlive _
  | .notifyConnectionLost _ | .awakeMonitor | .resume => .isTrue trivial

/-- One service is reported down and removed, the other one stays. -/
theorem run_reported_removed : ∃ trace repository,
    Transition.Run (step nodeList) Heeds (start nodeList) trace
      repository ∧
    trace = [.online "a", .online "b", .offline "a", .popped "a"] ∧
    Reported trace repository := by
  have removed : ∃ trace repository,
      Transition.Run (step nodeList) Heeds (start nodeList) trace
        repository ∧
      trace = [.online "a", .online "b", .offline "a", .popped "a"] := by
    apply Transition.Run.exists_both_of_exec
      [.add "a" [.ready], .add "b" [.ready], .remove "a" [.ready],
        .scan (fun _ => [.ready]), .notifyConnectionLost 1,
        .scan (fun _ => [.lost]), .recheck (fun _ => [.ready]) none]
    decide +kernel
  obtain ⟨trace, repository, run, events⟩ := removed
  exact ⟨trace, repository, run, events, (run_reported run).1.1⟩

/-- A group whose channels are all lost at a look of the monitor is forgotten
to have been reported online; one that the monitor has found down itself is
removed although it was reported online. -/
theorem monitor_forgets :
    (∃ trace repository,
      Transition.AnyRun (step nodeList) (start nodeList) trace repository ∧
      ¬Reported trace repository) ∧
    ∃ trace repository,
      Transition.AnyRun (step nodeList) (start nodeList) trace repository ∧
      ¬OnlyOffline [] trace := by
  have forgotten : ∃ trace repository,
      Transition.AnyRun (step nodeList) (start nodeList) trace
        repository ∧
      (trace = [.online "a"] ∧ repository.services = [("a", 0)] ∧
        repository.state 0 = 0) := by
    apply Transition.Run.exists_both_of_exec
      [.add "a" [.ready], .awakeMonitor, .scan (fun _ => [.lost])]
    decide +kernel
  have removed : ∃ trace repository,
      Transition.AnyRun (step nodeList) (start nodeList) trace
        repository ∧ trace = [.online "a", .popped "a"] := by
    apply Transition.Run.exists_both_of_exec
      [.add "a" [.ready], .notifyConnectionLost 0, .scan (fun _ => [.lost]),
        .recheck (fun _ => [.lost]) none, .awakeMonitor,
        .scan (fun _ => [.hibernating])]
    decide +kernel
  constructor
  · obtain ⟨trace, repository, run, rfl, services, erased⟩ := forgotten
    refine ⟨_, repository, run, ?_⟩
    intro reported
    have listed : ("a", 0) ∈ repository.services := by
      rw [services]
      exact List.mem_cons_self
    have remembers := reported _ listed true (by decide)
    dsimp only at remembers
    rw [erased] at remembers
    revert remembers
    decide
  · obtain ⟨trace, repository, run, rfl⟩ := removed
    refine ⟨_, repository, run, ?_⟩
    intro offline
    have last := offline.2.1 "a" rfl
    revert last
    decide

end Repository

end Rpc

end TinyChat
