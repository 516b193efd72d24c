import Mathlib.Data.List.Perm.Basic
import TinyChat.Rpc.RepositorySteps

/-!
# The dictionary, the round robin and the hash ring

The three structures hold the same addresses, unless the monitor pops an
address that it has listed before the reconnections and that is no longer
what it was then.
-/

namespace TinyChat

namespace Rpc

namespace Repository

variable {ρ : Type} {hashRing : HashRing ρ} {repository next : Repository ρ}

/-- The addresses of the groups in the round robin. -/
def itemAddrs (repository : Repository ρ) : List ServiceAddr :=
  repository.roundRobin.map (fun group => (repository.groups group).addr)

/-- The three structures hold the same addresses, each of them once. -/
structure Consistent (hashRing : HashRing ρ)
    (repository : Repository ρ) : Prop where
  once : (repository.services.map Prod.fst).Nodup
  items : repository.itemAddrs.Perm (repository.services.map Prod.fst)
  nodes : (hashRing.nodes repository.ring).Perm
    (repository.services.map Prod.fst)

/-- An address that was listed before the reconnections is still there, and
its group is healthy if and only if it was reported down. -/
def stillDown (stubs : Nat → List StubStatus) (repository : Repository ρ)
    (addr : ServiceAddr) : Bool :=
  (repository.services.lookup addr).any (fun group =>
    checkIfAnyHealthy (stubs group) ==
      (repository.state group).has .etcdReportDown)

/-- The addresses that were listed before the reconnections. -/
def needsPop (repository : Repository ρ) : List ServiceAddr :=
  match repository.monitor with
  | .gathering needsPop => needsPop
  | _ => []

/-- The monitor only pops addresses that are still what they were. -/
def Settled (repository : Repository ρ) : Action → Prop
  | .recheck stubs none =>
      ∀ addr ∈ repository.needsPop, repository.stillDown stubs addr = true
  | _ => True

/-- The groups in the round robin are those of the dictionary. -/
structure Wired (hashRing : HashRing ρ)
    (repository : Repository ρ) : Prop where
  sound : repository.Sound
  items : repository.roundRobin.Perm repository.serviceGroups
  nodes : (hashRing.nodes repository.ring).Perm
    (repository.services.map Prod.fst)

namespace Wired

theorem start (lawful : hashRing.Lawful) :
    Wired hashRing (start hashRing) := by
  constructor
  case sound => exact .start hashRing
  case items => exact .nil
  case nodes =>
    rw [Repository.start, lawful.new]
    exact .nil

theorem consistent (wired : Wired hashRing repository) :
    Consistent hashRing repository := by
  constructor
  case once => exact wired.sound.keys
  case items =>
    have addrs : repository.serviceGroups.map
        (fun group => (repository.groups group).addr) =
          repository.services.map Prod.fst := by
      rw [serviceGroups, List.map_map]
      exact List.map_congr_left wired.sound.addrs
    rw [← addrs]
    exact wired.items.map _
  case nodes => exact wired.nodes

theorem frame (wired : Wired hashRing repository) (sound : next.Sound)
    (services : next.services = repository.services)
    (roundRobin : next.roundRobin = repository.roundRobin)
    (ring : next.ring = repository.ring) : Wired hashRing next := by
  constructor
  case sound => exact sound
  case items =>
    rw [roundRobin, serviceGroups, services]
    exact wired.items
  case nodes =>
    rw [ring, services]
    exact wired.nodes

theorem visit (wired : Wired hashRing repository) (visited : List Nat)
    (change : Nat → State → State) :
    Wired hashRing (repository.visit visited change) :=
  wired.frame (wired.sound.visit visited change) rfl rfl rfl

theorem wake (wired : Wired hashRing repository) :
    Wired hashRing repository.wake :=
  wired.frame wired.sound.wake rfl rfl rfl

theorem setMonitor (wired : Wired hashRing repository)
    {phase : MonitorPhase}
    (listed : ∀ needsPop, phase = .gathering needsPop → needsPop.Nodup) :
    Wired hashRing { repository with monitor := phase } :=
  wired.frame (wired.sound.setMonitor listed) rfl rfl rfl

theorem startMonitor (wired : Wired hashRing repository) :
    Wired hashRing repository.startMonitor := by
  have sound := wired.sound.startMonitor
  unfold Repository.startMonitor at sound ⊢
  split
  · rename_i absent
    rw [if_pos absent] at sound
    exact wired.frame sound rfl rfl rfl
  · exact wired

theorem insert (lawful : hashRing.Lawful)
    (wired : Wired hashRing repository) {addr : ServiceAddr}
    (missing : repository.services.lookup addr = none) (state : State) :
    Wired hashRing (repository.insert hashRing addr state) := by
  have services : (repository.insert hashRing addr state).services =
      repository.services ++ [(addr, repository.created)] :=
    Table.assign_of_lookup _ missing
  constructor
  case sound => exact wired.sound.insert missing state
  case items =>
    rw [serviceGroups, services, List.map_append]
    exact wired.items.append_right _
  case nodes =>
    have absent : addr ∉ hashRing.nodes repository.ring := by
      intro member
      exact Table.notMem_keys.mpr missing (wired.nodes.mem_iff.mp member)
    rw [services, List.map_append]
    refine (lawful.addNode _ _ absent).trans ?_
    exact (wired.nodes.cons addr).trans (List.perm_append_singleton _ _).symm

theorem unlink (lawful : hashRing.Lawful)
    (wired : Wired hashRing repository) {addr : ServiceAddr} {group : Nat}
    (found : repository.services.lookup addr = some group) :
    Wired hashRing
      ((repository.popService addr).unlink hashRing addr group) := by
  have taken : repository.services.Perm
      ((addr, group) :: repository.services.pop addr) :=
    Table.perm_pop wired.sound.keys found
  constructor
  case sound =>
    exact wired.sound.shrink (popService_sublist addr repository)
      (fun _ => rfl) le_rfl wired.sound.listed
  case items =>
    have groups := wired.items.trans (taken.map Prod.snd)
    have rest := groups.erase group
    rwa [List.map_cons, List.erase_cons_head] at rest
  case nodes =>
    have keys := wired.nodes.trans (taken.map Prod.fst)
    have present : addr ∈ hashRing.nodes repository.ring :=
      keys.mem_iff.mpr List.mem_cons_self
    have rest := keys.erase addr
    rw [List.map_cons, List.erase_cons_head] at rest
    exact (lawful.removeNode _ _ present).trans rest

theorem popAll (lawful : hashRing.Lawful) {needsPop : List ServiceAddr}
    (wired : Wired hashRing repository) (nodup : needsPop.Nodup)
    (down : ∀ addr ∈ needsPop, ∃ group,
      repository.services.lookup addr = some group ∧
        (repository.state group).isDown = true) :
    let result := popAll hashRing needsPop repository
    Wired hashRing result.1 ∧ .keyError ∉ result.2 := by
  induction needsPop generalizing repository with
  | nil => exact ⟨wired, List.not_mem_nil⟩
  | cons addr needsPop induction =>
      obtain ⟨group, found, isDown⟩ := down addr List.mem_cons_self
      rw [List.nodup_cons] at nodup
      simp only [Repository.popAll, found, isDown, if_true]
      have rest := induction (wired.unlink lawful found) nodup.2 ?_
      · refine ⟨rest.1, ?_⟩
        intro member
        rcases List.mem_cons.mp member with same | later
        · cases same
        · exact rest.2 later
      · intro other member
        obtain ⟨second, known, alsoDown⟩ :=
          down other (List.mem_cons_of_mem _ member)
        refine ⟨second, ?_, alsoDown⟩
        have different : other ≠ addr := by
          intro same
          exact nodup.1 (same ▸ member)
        rw [Repository.unlink, popService, Table.lookup_pop,
          if_neg different]
        exact known

theorem endPass {result : Repository ρ × List Event}
    (wired : Wired hashRing result.1) (noError : .keyError ∉ result.2) :
    Wired hashRing (endPass result).1 := by
  rw [Repository.endPass, if_neg noError]
  refine wired.frame ?_ rfl rfl rfl
  exact wired.sound.shrink (.refl _) (fun _ => rfl) le_rfl nofun

end Wired

section

variable {stubs : Nat → List StubStatus} {look : Nat → State → Look}
  {needsPop : List ServiceAddr} {addr : ServiceAddr} {group : Nat}

theorem stillDown_iff :
    repository.stillDown stubs addr = true ↔ ∃ group,
      repository.services.lookup addr = some group ∧
        checkIfAnyHealthy (stubs group) =
          (repository.state group).reports.2 := by
  simp only [stillDown, Option.any_eq_true_iff_get, beq_iff_eq]
  constructor
  · intro found
    obtain ⟨present, same⟩ := found
    exact ⟨_, (Option.some_get present).symm, same⟩
  · intro found
    obtain ⟨group, known, same⟩ := found
    simp only [known, Option.get_some, Option.isSome_some, exists_true_left]
    exact same

theorem Wired.recheck (lawful : hashRing.Lawful)
    (wired : Wired hashRing repository) (nodup : needsPop.Nodup)
    (settled : ∀ addr ∈ needsPop,
      repository.stillDown stubs addr = true) :
    let result := repository.recheck hashRing stubs none needsPop
    Wired hashRing result.1 ∧ .keyError ∉ result.2 := by
  have sound := wired.sound
  have listedOnce := sound.nodup_listed
    (fun group => recheckGroup (stubs group))
  have apart : needsPop.Disjoint
      (repository.listed (fun group => recheckGroup (stubs group))) := by
    intro addr before now
    obtain ⟨group, found, same⟩ := stillDown_iff.mp (settled addr before)
    obtain ⟨unhealthy, down⟩ := (mem_listed_recheck stubs sound found).mp now
    rw [unhealthy, down] at same
    cases same
  have popped := (wired.visit repository.serviceGroups
    (fun group state => (recheckGroup (stubs group) state).state)).popAll
      lawful (nodup.append listedOnce apart) ?_
  · rw [recheck_none]
    refine ⟨popped.1.endPass popped.2, ?_⟩
    rw [endPass_events]
    exact popped.2
  · intro addr member
    rcases List.mem_append.mp member with before | now
    · obtain ⟨group, found, same⟩ := stillDown_iff.mp (settled addr before)
      refine ⟨group, found, ?_⟩
      rw [← rechecked, rechecked_isDown stubs found, same]
      cases (repository.state group).reports.2 <;> rfl
    · obtain ⟨group, found, _⟩ := found_of_listed sound now
      obtain ⟨unhealthy, _⟩ := (mem_listed_recheck stubs sound found).mp now
      refine ⟨group, found, ?_⟩
      rw [← rechecked, rechecked_isDown stubs found, unhealthy]
      rfl

/-- The first loop only lists groups that are down. -/
theorem Wired.scan (lawful : hashRing.Lawful)
    (wired : Wired hashRing repository)
    (stubs : Nat → List StubStatus) :
    let result := repository.scan hashRing stubs
    Wired hashRing result.1 ∧ .keyError ∉ result.2 := by
  have sound := wired.sound
  have scanned := wired.visit repository.serviceGroups
    (fun group state => (scanGroup (stubs group) state).state)
  have listedOnce := sound.nodup_listed
    (fun group => scanGroup (stubs group))
  unfold Repository.scan
  dsimp only
  split
  · refine ⟨scanned.setMonitor ?_, List.not_mem_nil⟩
    intro needsPop gathering
    cases gathering
    exact listedOnce
  · have popped := scanned.popAll lawful listedOnce ?_
    · refine ⟨popped.1.endPass popped.2, ?_⟩
      rw [endPass_events]
      exact popped.2
    · intro addr member
      obtain ⟨group, found, down⟩ := found_of_listed sound member
      refine ⟨group, found, ?_⟩
      rw [visit_state (mem_serviceGroups found), scanGroup_listed down]
      exact (scanGroup_needsPop.mp down).2.2

end

/-- A pass without a `KeyError` pops different addresses that are there, and
they are gone then. -/
theorem popAll_complete {needsPop : List ServiceAddr}
    {repository : Repository ρ}
    (noError : .keyError ∉ (popAll hashRing needsPop repository).2) :
    needsPop.Nodup ∧ ∀ addr ∈ needsPop,
      (repository.services.lookup addr).isSome = true ∧
        addr ∉ (popAll hashRing needsPop repository).1.services.map
          Prod.fst := by
  induction needsPop generalizing repository with
  | nil => exact ⟨List.nodup_nil, nofun⟩
  | cons addr needsPop induction =>
      simp only [popAll] at noError ⊢
      split at noError
      · exact absurd List.mem_cons_self noError
      · rename_i group found
        generalize rest : (if (repository.state group).isDown = true then
          unlink hashRing addr group (popService addr repository)
          else popService addr repository) = popped at noError ⊢
        have services : popped.services =
            repository.services.pop addr := by
          rw [← rest]
          split <;> rfl
        have later : .keyError ∉ (popAll hashRing needsPop popped).2 := by
          intro member
          exact noError (List.mem_cons_of_mem _ member)
        obtain ⟨nodup, gone⟩ := induction later
        have kept := (popAll_frame hashRing needsPop popped).1
        have absent : ∀ second, (addr, second) ∉ popped.services := by
          intro second member
          rw [services] at member
          exact (Table.mem_pop.mp member).2 rfl
        constructor
        · refine List.nodup_cons.mpr ⟨?_, nodup⟩
          intro member
          have found := (gone addr member).1
          rw [services, Table.lookup_pop, if_pos rfl] at found
          cases found
        · intro other member
          rcases List.mem_cons.mp member with same | later
          · rw [same]
            refine ⟨by rw [found]; rfl, ?_⟩
            intro listed
            obtain ⟨entry, member, same⟩ := List.mem_map.mp listed
            apply absent entry.2
            rw [← same]
            exact kept.subset member
          · refine ⟨?_, (gone other later).2⟩
            have found := (gone other later).1
            rw [services, Table.lookup_pop] at found
            split at found
            · cases found
            · exact found

/-- A group whose addresses are not down when they are popped stays in the
round robin. -/
theorem popAll_item {needsPop : List ServiceAddr}
    {repository : Repository ρ} {group : Nat}
    (member : group ∈ repository.roundRobin)
    (up : ∀ addr ∈ needsPop,
      repository.services.lookup addr = some group →
        (repository.state group).isDown = false) :
    group ∈ (popAll hashRing needsPop repository).1.roundRobin := by
  induction needsPop generalizing repository with
  | nil => exact member
  | cons addr needsPop induction =>
      simp only [popAll]
      split
      · exact member
      · rename_i second found
        have rest : ∀ other ∈ needsPop,
            (repository.services.pop addr).lookup other = some group →
              (repository.state group).isDown = false := by
          intro other later known
          rw [Table.lookup_pop] at known
          split at known
          · cases known
          · exact up other (List.mem_cons_of_mem _ later) known
        split
        · rename_i down
          have different : group ≠ second := by
            intro same
            rw [← same] at found down
            rw [up addr List.mem_cons_self found] at down
            cases down
          apply induction
          · exact (List.mem_erase_of_ne different).mpr member
          · exact rest
        · exact induction member rest

section

variable {action : Action} {events trace : List Event}

theorem Wired.step (lawful : hashRing.Lawful)
    (wired : Wired hashRing repository)
    (settled : repository.Settled action)
    (stepped : step hashRing repository action = some (next, events)) :
    Wired hashRing next ∧ .keyError ∉ events := by
  cases action with
  | add addr stubs =>
      cases stepped
      refine ⟨?_, fun member => nomatch List.mem_singleton.mp member⟩
      unfold Repository.add
      split
      · exact wired.visit _ _
      · rename_i missing
        have started : repository.startMonitor.services.lookup addr =
            none := by
          rw [startMonitor_services]
          exact missing
        dsimp only
        split
        · exact wired.startMonitor.insert lawful started _
        · exact wired.startMonitor.wake.insert lawful started _
  | remove addr stubs =>
      cases stepped
      refine ⟨?_, fun member => nomatch List.mem_singleton.mp member⟩
      unfold Repository.remove
      split
      · exact wired
      · rename_i group found
        dsimp only
        split
        · exact wired.unlink lawful found
        · exact (wired.visit _ _).wake
  | notifyConnectionAlive group =>
      simp only [Repository.step] at stepped
      split at stepped
      · cases stepped
        unfold Repository.notifyConnectionAlive
        exact ⟨wired.visit _ _, List.not_mem_nil⟩
      · cases stepped
  | notifyConnectionLost group =>
      simp only [Repository.step] at stepped
      split at stepped
      · cases stepped
        refine ⟨?_, List.not_mem_nil⟩
        unfold Repository.notifyConnectionLost
        dsimp only
        split
        · exact wired
        · exact (wired.visit _ _).wake
      · cases stepped
  | awakeMonitor =>
      simp only [Repository.step] at stepped
      split at stepped
      · cases stepped
        exact ⟨wired.wake, List.not_mem_nil⟩
      · cases stepped
  | scan stubs =>
      simp only [Repository.step] at stepped
      split at stepped
      · have scanned := wired.scan lawful stubs
        rw [Option.some.inj stepped] at scanned
        exact scanned
      · cases stepped
  | recheck stubs failure =>
      simp only [Repository.step] at stepped
      split at stepped
      · rename_i needsPop gathering
        cases failure with
        | some place =>
            cases stepped
            refine ⟨(wired.visit _ _).setMonitor ?_, List.not_mem_nil⟩
            intro needsPop gathers
            cases gathers
        | none =>
            simp only [Settled, Repository.needsPop, gathering] at settled
            have rechecked := wired.recheck lawful
              (wired.sound.listed needsPop gathering) settled
            rw [Option.some.inj stepped] at rechecked
            exact rechecked
      · cases stepped
  | resume =>
      simp only [Repository.step] at stepped
      split at stepped
      · cases stepped
        refine ⟨wired.setMonitor ?_, List.not_mem_nil⟩
        intro needsPop gathers
        cases gathers
      · cases stepped

theorem settled_of_consistent (wired : Wired hashRing repository)
    (stepped : step hashRing repository action = some (next, events))
    (consistent : Consistent hashRing next)
    (noError : .keyError ∉ events) : repository.Settled action := by
  cases action with
  | recheck stubs failure =>
      cases failure with
      | some place => trivial
      | none =>
          simp only [Repository.step] at stepped
          split at stepped
          · rename_i needsPop gathering
            simp only [Settled, Repository.needsPop, gathering]
            have result := Option.some.inj stepped
            rw [recheck_none] at result
            have last := congrArg Prod.fst result
            have raised := congrArg Prod.snd result
            rw [endPass_events] at raised
            dsimp only at last raised
            rw [← raised] at noError
            obtain ⟨nodup, gone⟩ := popAll_complete noError
            intro addr member
            have pops : addr ∈ repository.recheckPops stubs needsPop :=
              List.mem_append_left _ member
            obtain ⟨found, absent⟩ := gone addr pops
            obtain ⟨group, known⟩ := Option.isSome_iff_exists.mp found
            change repository.services.lookup addr = some group at known
            refine stillDown_iff.mpr ⟨group, known, ?_⟩
            have down := rechecked_isDown stubs known
            cases healthy : checkIfAnyHealthy (stubs group) with
            | false =>
                cases reported : (repository.state group).reports.2 with
                | false => rfl
                | true =>
                    have again := (mem_listed_recheck stubs
                      wired.sound known).mpr ⟨healthy, reported⟩
                    exact absurd again
                      ((List.nodup_append'.mp nodup).2.2 member)
            | true =>
                cases reported : (repository.state group).reports.2 with
                | true => rfl
                | false =>
                    rw [healthy, reported] at down
                    have item := wired.items.mem_iff.mpr
                      (mem_serviceGroups known)
                    have left : group ∈ next.roundRobin := by
                      rw [← last, endPass_roundRobin]
                      exact popAll_item item (fun _ _ _ => down)
                    have named : (next.groups group).addr = addr := by
                      rw [← last, endPass_groups, (popAll_frame _ _ _).2.1,
                        rechecked, visit_addr]
                      exact wired.sound.addrs _ (Table.mem_of_lookup known)
                    have listed : addr ∈ next.itemAddrs :=
                      List.mem_map.mpr ⟨group, left, named⟩
                    have kept := consistent.items.mem_iff.mp listed
                    rw [← last, endPass_services] at kept
                    exact absurd kept absent
          · cases stepped
  | add _ _ => trivial
  | remove _ _ => trivial
  | notifyConnectionAlive _ => trivial
  | notifyConnectionLost _ => trivial
  | awakeMonitor => trivial
  | scan _ => trivial
  | resume => trivial

/-- As long as the monitor only pops addresses that are still what they were
when it listed them, the dictionary, the round robin and the hash ring hold
the same addresses and there is no `KeyError`.  A pass that pops others breaks
one of the two. -/
theorem run_consistent (lawful : hashRing.Lawful)
    (run : Transition.Run (step hashRing) Settled (start hashRing) trace
      repository) :
    (Consistent hashRing repository ∧ .keyError ∉ trace) ∧
      ∀ action next events,
        step hashRing repository action = some (next, events) →
          (Consistent hashRing next ∧ .keyError ∉ events ↔
            repository.Settled action) := by
  have wired : Wired hashRing repository ∧ .keyError ∉ trace := by
    induction run with
    | refl => exact ⟨.start lawful, List.not_mem_nil⟩
    | snoc run settled stepped induction =>
        obtain ⟨wired, noError⟩ := induction
        obtain ⟨next, noErrorNow⟩ := wired.step lawful settled stepped
        refine ⟨next, ?_⟩
        intro member
        rcases List.mem_append.mp member with before | now
        · exact noError before
        · exact noErrorNow now
  refine ⟨⟨wired.1.consistent, wired.2⟩, ?_⟩
  intro action next events stepped
  constructor
  · intro both
    exact settled_of_consistent wired.1 stepped both.1 both.2
  · intro settled
    obtain ⟨later, noError⟩ := wired.1.step lawful settled stepped
    exact ⟨later.consistent, noError⟩

end

end Repository

theorem nodeList_lawful : nodeList.Lawful := by
  constructor
  case new => rfl
  case addNode =>
    intro ring addr _
    exact .refl _
  case removeNode =>
    intro ring addr _
    exact .refl _

namespace Repository

instance decidableSettled {ρ : Type} (repository : Repository ρ) :
    ∀ action, Decidable (repository.Settled action)
  | .recheck stubs none =>
      inferInstanceAs (Decidable (∀ addr ∈ repository.needsPop,
        repository.stillDown stubs addr = true))
  | .recheck _ (some _) => .isTrue trivial
  | .add _ _ | .remove _ _ | .notifyConnectionAlive _
  | .notifyConnectionLost _ | .awakeMonitor | .scan _ | .resume =>
      .isTrue trivial

/-- A group that was reported down is removed after the reconnections. -/
theorem run_consistent_removed : ∃ trace repository,
    Transition.Run (step nodeList) Settled (start nodeList) trace
      repository ∧
    repository.services = [("b", 1)] ∧
    Consistent nodeList repository := by
  have removed : ∃ trace repository,
      Transition.Run (step nodeList) Settled (start nodeList) trace
        repository ∧ repository.services = [("b", 1)] := by
    apply Transition.Run.exists_state_of_exec
      [.add "a" [.ready], .add "b" [.ready], .remove "a" [.ready],
        .scan (fun _ => [.ready]), .notifyConnectionLost 1,
        .scan (fun _ => [.lost]), .recheck (fun _ => [.ready]) none]
    decide +kernel
  obtain ⟨trace, repository, run, services⟩ := removed
  exact ⟨trace, repository, run, services,
    (run_consistent nodeList_lawful run).1.1⟩

/-- A service that comes back while the monitor waits is taken out of the
dictionary only; one that is removed in the meantime, or that the second loop
lists again, is a `KeyError`. -/
theorem monitor_pops_stale :
    (∃ trace repository,
      Transition.AnyRun (step nodeList) (start nodeList) trace repository ∧
      ¬Consistent nodeList repository) ∧
    (∃ trace repository,
      Transition.AnyRun (step nodeList) (start nodeList) trace repository ∧
      trace = [.online "a", .online "b", .offline "a", .offline "a",
        .keyError]) ∧
    ∃ trace repository,
      Transition.AnyRun (step nodeList) (start nodeList) trace repository ∧
      trace = [.online "a", .online "b", .offline "a", .popped "a",
        .keyError] := by
  have left : ∃ trace repository,
      Transition.AnyRun (step nodeList) (start nodeList) trace
        repository ∧
      (repository.services = [("b", 1)] ∧
        repository.itemAddrs = ["a", "b"]) := by
    apply Transition.Run.exists_state_of_exec
      [.add "a" [.ready], .add "b" [.ready], .remove "a" [.ready],
        .scan (fun _ => [.ready]), .notifyConnectionLost 1,
        .scan (fun _ => [.lost]), .add "a" [.ready],
        .recheck (fun _ => [.ready]) none]
    decide +kernel
  refine ⟨?_, ?_, ?_⟩
  · obtain ⟨trace, repository, run, services, items⟩ := left
    refine ⟨trace, repository, run, ?_⟩
    intro consistent
    have same := consistent.items.length_eq
    rw [services, items] at same
    cases same
  · apply Transition.Run.exists_both_of_exec
      [.add "a" [.ready], .add "b" [.ready], .remove "a" [.ready],
        .scan (fun _ => [.ready]), .notifyConnectionLost 1,
        .scan (fun _ => [.lost]), .remove "a" [.lost],
        .recheck (fun _ => [.ready]) none]
    decide +kernel
  · apply Transition.Run.exists_both_of_exec
      [.add "a" [.ready], .add "b" [.ready], .remove "a" [.ready],
        .scan (fun _ => [.ready]), .notifyConnectionLost 1,
        .scan (fun _ => [.lost]), .recheck (fun _ => [.lost]) none]
    decide +kernel

end Repository

end Rpc

end TinyChat
