import Mathlib.Data.Nat.Basic
import TinyChat.Rpc.StubRepository

/-!
# What a step does to the repository

The bits of a group are only looked at through their flags.  Whatever the
order of the steps, every address has one group, and every group that is
listed in a pass is listed once.
-/

namespace TinyChat

namespace Rpc

namespace State

open ChannelState

/-- What the events have reported: up and down. -/
def reports (state : State) : Bool × Bool :=
  (state.has etcdReportUp, state.has etcdReportDown)

theorem isDown_eq (state : State) :
    state.isDown = (state.has subjectDown || state.has etcdReportDown) := by
  revert state
  decide

theorem reports_online (state : State) :
    state.online.reports = (true, false) := by
  revert state
  decide

theorem reports_offline (state : State) :
    state.offline.reports = (false, true) := by
  revert state
  decide

theorem reports_rebuild (state : State) :
    state.rebuild.reports = state.reports := by
  revert state
  decide

theorem reports_notDown (state : State) :
    state.notDown.reports = state.reports := by
  revert state
  decide

theorem reports_down (state : State) :
    State.reports (state ||| subjectDown.number) = state.reports := by
  revert state
  decide

theorem isDown_down (state : State) :
    State.isDown (state ||| subjectDown.number) = true := by
  revert state
  decide

theorem isDown_notDown (state : State) :
    state.notDown.isDown = state.reports.2 := by
  revert state
  decide

theorem reports_cleared (state : State) :
    State.reports (state &&& ~~~subjectRebuild.number) = state.reports := by
  revert state
  decide

theorem reports_recovered (state : State) :
    State.reports
        (state &&& ~~~(subjectRebuild.number ||| subjectDown.number)) =
      state.reports := by
  revert state
  decide

theorem reports_erased (state : State) :
    State.reports (state &&& subjectRebuild.number) = (false, false) := by
  revert state
  decide

end State

/-- The first loop of a pass forgets what was reported of a group that is
neither healthy nor known to be down. -/
def Forgets (stubs : List StubStatus) (state : State) : Prop :=
  state.has .subjectRebuild = false ∧ checkIfAnyHealthy stubs = false ∧
    state.isDown = false

instance decidableForgets (stubs : List StubStatus) (state : State) :
    Decidable (Forgets stubs state) :=
  inferInstanceAs (Decidable (_ ∧ _ ∧ _))

section

variable {stubs : List StubStatus} {state : State}

theorem scanGroup_reports (kept : ¬Forgets stubs state) :
    (scanGroup stubs state).state.reports = state.reports := by
  unfold scanGroup
  split
  · dsimp only
    split
    · dsimp only
      split
      · exact state.reports_notDown
      · rfl
    · exact state.reports_recovered
  · rename_i settled
    split
    · rename_i unhealthy
      split
      · rfl
      · rename_i up
        refine absurd ⟨?_, ?_, ?_⟩ kept
        · simpa using settled
        · simpa using unhealthy
        · simpa using up
    · exact state.reports_notDown

theorem scanGroup_forgets (forgets : Forgets stubs state) :
    scanGroup stubs state =
      { state := state &&& ChannelState.subjectRebuild.number } := by
  obtain ⟨settled, unhealthy, up⟩ := forgets
  simp [scanGroup, settled, unhealthy, up]

theorem scanGroup_needsPop :
    (scanGroup stubs state).needsPop = true ↔
      state.has .subjectRebuild = false ∧
        checkIfAnyHealthy stubs = false ∧ state.isDown = true := by
  unfold scanGroup
  split
  · rename_i rebuilding
    dsimp only
    split <;> simp [rebuilding]
  · rename_i settled
    split
    · rename_i unhealthy
      split
      · rename_i down
        simp only [true_iff]
        refine ⟨?_, ?_, down⟩
        · simpa using settled
        · simpa using unhealthy
      · rename_i up
        simp [up]
    · rename_i healthy
      simpa using fun _ unhealthy => absurd unhealthy (by simpa using healthy)

theorem scanGroup_listed
    (listed : (scanGroup stubs state).needsPop = true) :
    (scanGroup stubs state).state = state := by
  obtain ⟨settled, unhealthy, down⟩ := scanGroup_needsPop.mp listed
  simp [scanGroup, settled, unhealthy, down]

theorem recheckGroup_reports :
    (recheckGroup stubs state).state.reports = state.reports := by
  unfold recheckGroup
  dsimp only
  split
  · exact (State.reports_down _).trans state.reports_cleared
  · exact (State.reports_notDown _).trans state.reports_cleared

theorem recheckGroup_needsPop :
    (recheckGroup stubs state).needsPop =
      (!checkIfAnyHealthy stubs && state.reports.2) := by
  unfold recheckGroup
  dsimp only
  split
  · rename_i unhealthy
    rw [unhealthy, Bool.true_and, ← state.reports_cleared,
      ← State.reports_down]
    rfl
  · rename_i healthy
    simp [healthy]

/-- After the second loop a healthy group is down only if it was reported. -/
theorem recheckGroup_isDown :
    (recheckGroup stubs state).state.isDown =
      (!checkIfAnyHealthy stubs || state.reports.2) := by
  unfold recheckGroup
  dsimp only
  split
  · rename_i unhealthy
    rw [unhealthy, Bool.true_or]
    exact State.isDown_down _
  · rename_i healthy
    rw [State.isDown_notDown, State.reports_cleared]
    simp [healthy]

end

namespace Repository

variable {ρ : Type} {hashRing : HashRing ρ} {repository : Repository ρ}

section

@[simp] theorem visit_services (repository : Repository ρ)
    (visited : List Nat) (change : Nat → State → State) :
    (repository.visit visited change).services = repository.services := rfl

@[simp] theorem visit_created (repository : Repository ρ)
    (visited : List Nat) (change : Nat → State → State) :
    (repository.visit visited change).created = repository.created := rfl

theorem visit_addr (repository : Repository ρ) (visited : List Nat)
    (change : Nat → State → State) (group : Nat) :
    ((repository.visit visited change).groups group).addr =
      (repository.groups group).addr := by
  simp only [visit]
  split <;> rfl

theorem visit_state {visited : List Nat} {change : Nat → State → State}
    {group : Nat} (member : group ∈ visited) :
    (repository.visit visited change).state group =
      change group (repository.state group) := by
  simp only [state, visit, member, if_true]

theorem visit_other {visited : List Nat} {change : Nat → State → State}
    {group : Nat} (unvisited : group ∉ visited) :
    (repository.visit visited change).state group =
      repository.state group := by
  simp only [state, visit, unvisited, if_false]

theorem visit_kept {α : Type} {view : State → α} {visited : List Nat}
    {change : Nat → State → State}
    (kept : ∀ group ∈ visited,
      view (change group (repository.state group)) =
        view (repository.state group)) (group : Nat) :
    view ((repository.visit visited change).state group) =
      view (repository.state group) := by
  by_cases member : group ∈ visited
  · rw [visit_state member]
    exact kept group member
  · rw [visit_other member]

end

/-- Every address has one group, which was created for it. -/
structure Sound (repository : Repository ρ) : Prop where
  keys : (repository.services.map Prod.fst).Nodup
  groups : repository.serviceGroups.Nodup
  addrs : ∀ entry ∈ repository.services,
    (repository.groups entry.2).addr = entry.1
  created : ∀ entry ∈ repository.services, entry.2 < repository.created
  listed : ∀ needsPop, repository.monitor = .gathering needsPop →
    needsPop.Nodup

namespace Sound

theorem start (hashRing : HashRing ρ) : (start hashRing).Sound := by
  constructor
  case keys => exact List.nodup_nil
  case groups => exact List.nodup_nil
  case addrs =>
    intro entry member
    cases member
  case created =>
    intro entry member
    cases member
  case listed =>
    intro needsPop gathering
    cases gathering

theorem shrink {next : Repository ρ} (sound : repository.Sound)
    (services : next.services.Sublist repository.services)
    (addrs : ∀ group,
      (next.groups group).addr = (repository.groups group).addr)
    (created : repository.created ≤ next.created)
    (listed : ∀ needsPop, next.monitor = .gathering needsPop →
      needsPop.Nodup) : next.Sound := by
  constructor
  case keys => exact sound.keys.sublist (services.map Prod.fst)
  case groups => exact sound.groups.sublist (services.map Prod.snd)
  case addrs =>
    intro entry member
    rw [addrs]
    exact sound.addrs entry (services.subset member)
  case created =>
    intro entry member
    exact Nat.lt_of_lt_of_le
      (sound.created entry (services.subset member)) created
  case listed => exact listed

theorem visit (sound : repository.Sound) (visited : List Nat)
    (change : Nat → State → State) :
    (repository.visit visited change).Sound :=
  sound.shrink (.refl _) (repository.visit_addr visited change) le_rfl
    sound.listed

theorem insert (sound : repository.Sound) {addr : ServiceAddr}
    (missing : repository.services.lookup addr = none) (state : State) :
    (repository.insert hashRing addr state).Sound := by
  have services : (repository.insert hashRing addr state).services =
      repository.services ++ [(addr, repository.created)] :=
    Table.assign_of_lookup _ missing
  have fresh : ∀ entry ∈ repository.services,
      entry.2 ≠ repository.created := by
    intro entry member
    exact Nat.ne_of_lt (sound.created entry member)
  constructor
  case keys => exact Table.nodup_assign sound.keys
  case groups =>
    rw [serviceGroups, services, List.map_append]
    apply sound.groups.append (List.nodup_singleton _)
    rw [List.disjoint_singleton]
    intro member
    obtain ⟨entry, listed, same⟩ := List.mem_map.mp member
    exact fresh entry listed same
  case addrs =>
    rw [services]
    intro entry member
    rcases List.mem_append.mp member with old | new
    · simp only [Repository.insert,
        Function.update_of_ne (fresh entry old)]
      exact sound.addrs entry old
    · simp only [List.mem_singleton.mp new, Repository.insert,
        Function.update_self]
  case created =>
    rw [services]
    intro entry member
    rcases List.mem_append.mp member with old | new
    · exact Nat.lt_succ_of_lt (sound.created entry old)
    · rw [List.mem_singleton.mp new]
      exact Nat.lt_succ_self _
  case listed => exact sound.listed

theorem startMonitor (sound : repository.Sound) :
    repository.startMonitor.Sound := by
  unfold Repository.startMonitor
  split
  · exact sound.shrink (.refl _) (fun _ => rfl) le_rfl nofun
  · exact sound

theorem setMonitor (sound : repository.Sound) {phase : MonitorPhase}
    (listed : ∀ needsPop, phase = .gathering needsPop → needsPop.Nodup) :
    Sound { repository with monitor := phase } :=
  sound.shrink (.refl _) (fun _ => rfl) le_rfl listed

theorem wake (sound : repository.Sound) : repository.wake.Sound :=
  sound.shrink (.refl _) (fun _ => rfl) le_rfl sound.listed

end Sound

theorem startMonitor_services (repository : Repository ρ) :
    repository.startMonitor.services = repository.services := by
  unfold startMonitor
  split <;> rfl

theorem popService_sublist (addr : ServiceAddr)
    (repository : Repository ρ) :
    (repository.popService addr).services.Sublist repository.services :=
  List.filter_sublist

/-- The last loop of a pass only takes services out. -/
theorem popAll_frame (hashRing : HashRing ρ)
    (needsPop : List ServiceAddr) (repository : Repository ρ) :
    let result := popAll hashRing needsPop repository
    result.1.services.Sublist repository.services ∧
      result.1.groups = repository.groups ∧
      result.1.created = repository.created ∧
      result.1.monitor = repository.monitor := by
  induction needsPop generalizing repository with
  | nil => exact ⟨.refl _, rfl, rfl, rfl⟩
  | cons addr needsPop induction =>
      simp only [popAll]
      split
      · exact ⟨.refl _, rfl, rfl, rfl⟩
      · rename_i group found
        have popped := popService_sublist addr repository
        split
        · obtain ⟨services, groups, created, monitor⟩ := induction
            ((repository.popService addr).unlink hashRing addr group)
          exact ⟨services.trans popped, groups, created, monitor⟩
        · obtain ⟨services, groups, created, monitor⟩ := induction
            (repository.popService addr)
          exact ⟨services.trans popped, groups, created, monitor⟩

@[simp] theorem endPass_events (result : Repository ρ × List Event) :
    (endPass result).2 = result.2 := by
  unfold endPass
  split <;> rfl

@[simp] theorem endPass_services (result : Repository ρ × List Event) :
    (endPass result).1.services = result.1.services := by
  unfold endPass
  split <;> rfl

@[simp] theorem endPass_groups (result : Repository ρ × List Event) :
    (endPass result).1.groups = result.1.groups := by
  unfold endPass
  split <;> rfl

@[simp] theorem endPass_created (result : Repository ρ × List Event) :
    (endPass result).1.created = result.1.created := by
  unfold endPass
  split <;> rfl

@[simp] theorem endPass_roundRobin (result : Repository ρ × List Event) :
    (endPass result).1.roundRobin = result.1.roundRobin := by
  unfold endPass
  split <;> rfl

@[simp] theorem endPass_ring (result : Repository ρ × List Event) :
    (endPass result).1.ring = result.1.ring := by
  unfold endPass
  split <;> rfl

theorem endPass_monitor (result : Repository ρ × List Event)
    (needsPop : List ServiceAddr) :
    (endPass result).1.monitor ≠ .gathering needsPop := by
  unfold endPass
  split
  · nofun
  · nofun

theorem Sound.pass (sound : repository.Sound)
    (needsPop : List ServiceAddr) :
    (endPass (popAll hashRing needsPop repository)).1.Sound := by
  obtain ⟨services, groups, created, _⟩ :=
    popAll_frame hashRing needsPop repository
  apply sound.shrink
  · rw [endPass_services]
    exact services
  · rw [endPass_groups, groups]
    exact fun _ => rfl
  · rw [endPass_created, created]
  · intro later gathering
    exact absurd gathering (endPass_monitor _ later)

theorem Sound.nodup_listed (sound : repository.Sound)
    (look : Nat → State → Look) : (repository.listed look).Nodup :=
  sound.keys.sublist (List.filter_sublist.map Prod.fst)

section

variable {stubs : Nat → List StubStatus} {look : Nat → State → Look}
  {needsPop : List ServiceAddr} {addr : ServiceAddr} {group : Nat}

theorem mem_listed :
    addr ∈ repository.listed look ↔ ∃ group,
      (addr, group) ∈ repository.services ∧
        (look group (repository.state group)).needsPop = true := by
  simp only [listed, List.mem_map, List.mem_filter, Prod.exists,
    exists_and_right, exists_eq_right]

theorem mem_serviceGroups
    (found : repository.services.lookup addr = some group) :
    group ∈ repository.serviceGroups :=
  List.mem_map_of_mem (f := Prod.snd) (Table.mem_of_lookup found)

theorem mem_listed_iff (sound : repository.Sound)
    (found : repository.services.lookup addr = some group) :
    addr ∈ repository.listed look ↔
      (look group (repository.state group)).needsPop = true := by
  rw [mem_listed]
  constructor
  · intro listed
    obtain ⟨other, member, needsPop⟩ := listed
    have same := Table.lookup_of_mem sound.keys member
    rw [found, Option.some.injEq] at same
    rw [same]
    exact needsPop
  · intro needsPop
    exact ⟨group, Table.mem_of_lookup found, needsPop⟩

theorem found_of_listed (sound : repository.Sound)
    (listed : addr ∈ repository.listed look) :
    ∃ group, repository.services.lookup addr = some group ∧
      (look group (repository.state group)).needsPop = true := by
  obtain ⟨group, member, needsPop⟩ := mem_listed.mp listed
  exact ⟨group, Table.lookup_of_mem sound.keys member, needsPop⟩

/-- The groups after the first loop. -/
def scanned (stubs : Nat → List StubStatus)
    (repository : Repository ρ) : Repository ρ :=
  repository.visit repository.serviceGroups
    (fun group state => (scanGroup (stubs group) state).state)

/-- The addresses that a pass pops after the reconnections. -/
def recheckPops (stubs : Nat → List StubStatus)
    (needsPop : List ServiceAddr) (repository : Repository ρ) :
    List ServiceAddr :=
  needsPop ++ repository.listed (fun group => recheckGroup (stubs group))

/-- The groups after the second loop. -/
def rechecked (stubs : Nat → List StubStatus)
    (repository : Repository ρ) : Repository ρ :=
  repository.visit repository.serviceGroups
    (fun group state => (recheckGroup (stubs group) state).state)

theorem recheck_none (stubs : Nat → List StubStatus)
    (needsPop : List ServiceAddr) (repository : Repository ρ) :
    repository.recheck hashRing stubs none needsPop =
      endPass (popAll hashRing (repository.recheckPops stubs needsPop)
        (repository.rechecked stubs)) := rfl

theorem rechecked_isDown (stubs : Nat → List StubStatus)
    (found : repository.services.lookup addr = some group) :
    ((repository.rechecked stubs).state group).isDown =
      (!checkIfAnyHealthy (stubs group) ||
        (repository.state group).reports.2) := by
  rw [rechecked, visit_state (mem_serviceGroups found), recheckGroup_isDown]

theorem mem_listed_recheck (stubs : Nat → List StubStatus)
    (sound : repository.Sound)
    (found : repository.services.lookup addr = some group) :
    addr ∈ repository.listed (fun group => recheckGroup (stubs group)) ↔
      checkIfAnyHealthy (stubs group) = false ∧
        (repository.state group).reports.2 = true := by
  rw [mem_listed_iff sound found, recheckGroup_needsPop, Bool.and_eq_true,
    Bool.not_eq_true']

end

theorem Sound.step {next : Repository ρ} {action : Action}
    {events : List Event} (sound : repository.Sound)
    (stepped : step hashRing repository action = some (next, events)) :
    next.Sound := by
  cases action with
  | add addr stubs =>
      cases stepped
      unfold Repository.add
      split
      · exact sound.visit _ _
      · rename_i missing
        have started : repository.startMonitor.services.lookup addr =
            none := by
          rw [startMonitor_services]
          exact missing
        dsimp only
        split
        · exact sound.startMonitor.insert started _
        · exact sound.startMonitor.wake.insert started _
  | remove addr stubs =>
      cases stepped
      unfold Repository.remove
      split
      · exact sound
      · dsimp only
        split
        · exact sound.shrink (popService_sublist addr repository)
            (fun _ => rfl) le_rfl sound.listed
        · exact (sound.visit _ _).wake
  | notifyConnectionAlive group =>
      simp only [Repository.step] at stepped
      split at stepped
      · cases stepped
        unfold Repository.notifyConnectionAlive
        exact sound.visit _ _
      · cases stepped
  | notifyConnectionLost group =>
      simp only [Repository.step] at stepped
      split at stepped
      · cases stepped
        unfold Repository.notifyConnectionLost
        dsimp only
        split
        · exact sound
        · exact (sound.visit _ _).wake
      · cases stepped
  | awakeMonitor =>
      simp only [Repository.step] at stepped
      split at stepped
      · cases stepped
        exact sound.wake
      · cases stepped
  | scan stubs =>
      simp only [Repository.step] at stepped
      split at stepped
      · have reached := congrArg Prod.fst (Option.some.inj stepped)
        dsimp only at reached
        rw [← reached]
        unfold Repository.scan
        dsimp only
        split
        · apply (sound.visit _ _).setMonitor
          intro needsPop gathering
          cases gathering
          exact sound.nodup_listed _
        · exact (sound.visit _ _).pass _
      · cases stepped
  | recheck stubs failure =>
      simp only [Repository.step] at stepped
      split at stepped
      · have reached := congrArg Prod.fst (Option.some.inj stepped)
        dsimp only at reached
        rw [← reached]
        unfold Repository.recheck
        dsimp only
        split
        · exact (sound.visit _ _).setMonitor nofun
        · exact (sound.visit _ _).pass _
      · cases stepped
  | resume =>
      simp only [Repository.step] at stepped
      split at stepped
      · cases stepped
        exact sound.setMonitor nofun
      · cases stepped

theorem run_sound {allowed : Repository ρ → Action → Prop}
    {trace : List Event}
    (run : Transition.Run (step hashRing) allowed (start hashRing) trace
      repository) : repository.Sound :=
  run.state_invariant (.start hashRing)
    (fun sound _ stepped => sound.step stepped)

end Repository

end Rpc

end TinyChat
