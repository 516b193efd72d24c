import Mathlib.Data.List.Rotate
import TinyChat.Rpc.StubRepository

/-!
# Routing through the round robin of a repository

`route` walks over the groups from a cursor of the round robin, and each group
walks over its stubs from a cursor of its own.  The first healthy stub ends
both walks; the cursors then stand behind what was tried.
-/

namespace TinyChat

namespace Rpc

/-- `max_channels` of the groups; no group is made without a stub. -/
structure StubCounts where
  count : Nat → Nat
  positive : ∀ group, 0 < count group

/-- A repository with the cursor of its round robin and those of the
groups. -/
structure Router (ρ : Type) where
  repository : Repository ρ
  index : Nat := 0
  roundRobinIndex : Nat → Nat := fun _ => 0

/-- `MAX_INT32`, which the source writes as `2 << 32 - 1`. -/
def maxIndex : Nat := 2 <<< (32 - 1)

namespace Router

variable {ρ : Type}

/-- `RoundRobin.items`. -/
def items (router : Router ρ) : List Nat := router.repository.roundRobin

/-- What `flick` would yield: `islice(cycle(items), pos, pos + num_items)`. -/
def flick (router : Router ρ) : List Nat :=
  router.items.rotate (router.index % router.items.length)

/-- `GrpcStubGroup.get` without a domain. -/
def get (counts : StubCounts) (healthy : Nat → Bool) (group : Nat)
    (router : Router ρ) : Option Nat × Router ρ :=
  let rbIdx := router.roundRobinIndex group
  let numStubs := counts.count group
  let leave := fun idx =>
    { router with
      roundRobinIndex :=
        Function.update router.roundRobinIndex group (idx + 1) }
  match (List.range numStubs).find?
      (fun tried => healthy ((rbIdx + tried) % numStubs)) with
  | some tried =>
      (some ((rbIdx + tried) % numStubs), leave (rbIdx + tried))
  | none => (none, leave (rbIdx + (numStubs - 1)))

def notifyAlive (group : Nat) (router : Router ρ) : Router ρ :=
  { router with
    repository := router.repository.notifyConnectionAlive group }

def notifyLost (group : Nat) (router : Router ρ) : Router ρ :=
  { router with
    repository := router.repository.notifyConnectionLost group }

/-- The loop of `route` over the groups that the generator yields; the
generator moves the cursor before it yields. -/
def tryGroups (counts : StubCounts) (health : Nat → Nat → Bool) :
    List Nat → Router ρ → Option (Nat × Nat) × Router ρ
  | [], router => (none, router)
  | group :: groups, router =>
      match get counts (health group) group
          { router with index := router.index + 1 } with
      | (some stub, router) => (some (group, stub), router.notifyAlive group)
      | (none, router) =>
          tryGroups counts health groups (router.notifyLost group)

/-- `LoadBalancer.route` without a key and a domain. -/
def route (counts : StubCounts) (health : Nat → Nat → Bool)
    (router : Router ρ) : Option (Nat × Nat) × Router ρ :=
  tryGroups counts health router.flick router

def decay (router : Router ρ) : Router ρ :=
  if router.index > maxIndex then
    { router with index := router.index - maxIndex }
  else router

def decayRb (group : Nat) (router : Router ρ) : Router ρ :=
  if router.roundRobinIndex group > maxIndex then
    { router with
      roundRobinIndex := Function.update router.roundRobinIndex group
        (router.roundRobinIndex group - maxIndex) }
  else router

end Router

/-- A route through the round robin or to the group of a key, with the health
of the stubs during the call, a decay of a cursor, or anything else that
happens to the repository. -/
inductive RouteAction (ρ : Type) where
  | route (health : Nat → Nat → Bool)
  | routeKey (group : Nat) (health : Nat → Nat → Bool)
  | decay
  | decayRb (group : Nat)
  | repository (next : Repository ρ)

inductive RouteEvent where
  | routed (result : Option (Nat × Nat))
  | keyed (group : Nat) (result : Option Nat)
  deriving DecidableEq

namespace RouteEvent

/-- The result of a call through the round robin. -/
def result : RouteEvent → Option (Option (Nat × Nat))
  | .routed result => some result
  | .keyed _ _ => none

/-- The stub that a use of the group has returned. -/
def use (group : Nat) : RouteEvent → Option (Option Nat)
  | .routed none => none
  | .routed (some (other, stub)) =>
      if other = group then some (some stub) else none
  | .keyed other result => if other = group then some result else none

end RouteEvent

/-- The groups of the calls through the round robin, in their order. -/
def routedGroups (trace : List RouteEvent) : List (Option Nat) :=
  (trace.filterMap RouteEvent.result).map (Option.map Prod.fst)

/-- The stubs that the uses of a group have returned, in their order. -/
def usedStubs (group : Nat) (trace : List RouteEvent) : List (Option Nat) :=
  trace.filterMap (RouteEvent.use group)

namespace Router

variable {ρ : Type}

def step (counts : StubCounts) :
    Transition.Step (Router ρ) (RouteAction ρ) RouteEvent
  | router, .route health =>
      let reached := router.route counts health
      some (reached.2, [.routed reached.1])
  | router, .routeKey group health =>
      let reached := router.get counts (health group) group
      some (reached.2, [.keyed group reached.1])
  | router, .decay => some (router.decay, [])
  | router, .decayRb group => some (router.decayRb group, [])
  | router, .repository next => some ({ router with repository := next }, [])

/-- All stubs are healthy, the membership does not change, and no cursor
decays. -/
def Undisturbed (router : Router ρ) : RouteAction ρ → Prop
  | .route health => ∀ group stub, health group stub = true
  | .routeKey _ health => ∀ group stub, health group stub = true
  | .decay => False
  | .decayRb _ => False
  | .repository next => next.roundRobin = router.items

/-! ## The walk over the stubs of a group -/

section

variable {counts : StubCounts} {router : Router ρ} {group : Nat}

theorem get_some {healthy : Nat → Bool} {stub : Nat}
    (found : (router.get counts healthy group).1 = some stub) :
    stub < counts.count group ∧ healthy stub = true := by
  unfold get at found
  dsimp only at found
  split at found
  · rename_i tried search
    have well := List.find?_some search
    cases found
    exact ⟨Nat.mod_lt _ (counts.positive group), well⟩
  · cases found

/-- The walk reaches every stub, wherever it begins. -/
theorem get_isSome_iff {healthy : Nat → Bool} :
    (router.get counts healthy group).1.isSome = true ↔
      ∃ stub < counts.count group, healthy stub = true := by
  constructor
  · intro found
    obtain ⟨stub, result⟩ := Option.isSome_iff_exists.mp found
    exact ⟨stub, get_some result⟩
  · rintro ⟨stub, bound, well⟩
    unfold get
    dsimp only
    split
    · rfl
    · rename_i search
      exfalso
      have position : stub ∈ (List.range (counts.count group)).rotate
          (router.roundRobinIndex group) :=
        List.mem_rotate.mpr (List.mem_range.mpr bound)
      obtain ⟨tried, place⟩ := List.getElem?_of_mem position
      have inside : tried < counts.count group := by
        have shorter := (List.getElem?_eq_some_iff.mp place).1
        simpa using shorter
      rw [List.getElem?_rotate (by simpa using inside), List.length_range,
        List.getElem?_range (Nat.mod_lt _ (counts.positive group)),
        Option.some.injEq, Nat.add_comm] at place
      have failed := List.find?_eq_none.mp search tried
        (List.mem_range.mpr inside)
      rw [place] at failed
      exact failed well

theorem get_healthy {healthy : Nat → Bool}
    (well : ∀ stub, healthy stub = true) :
    router.get counts healthy group =
      (some (router.roundRobinIndex group % counts.count group),
        { router with
          roundRobinIndex := Function.update router.roundRobinIndex group
            (router.roundRobinIndex group + 1) }) := by
  have first : (List.range (counts.count group)).find?
      (fun tried => healthy ((router.roundRobinIndex group + tried) %
        counts.count group)) = some 0 := by
    rw [List.find?_range_eq_some]
    refine ⟨well _, List.mem_range.mpr (counts.positive group), ?_⟩
    intro earlier before
    cases before
  unfold get
  dsimp only
  rw [first]
  rfl

/-! ## The walk over the groups -/

theorem tryGroups_some {health : Nat → Nat → Bool} {groups : List Nat}
    {found stub : Nat}
    (result : (tryGroups counts health groups router).1 =
      some (found, stub)) :
    found ∈ groups ∧ stub < counts.count found ∧
      health found stub = true := by
  induction groups generalizing router with
  | nil => cases result
  | cons group groups induction =>
      unfold tryGroups at result
      split at result
      · rename_i first next returned
        cases result
        exact ⟨List.mem_cons_self, get_some (congrArg Prod.fst returned)⟩
      · obtain ⟨member, well⟩ := induction result
        exact ⟨List.mem_cons_of_mem _ member, well⟩

theorem tryGroups_isSome_iff {health : Nat → Nat → Bool}
    {groups : List Nat} :
    (tryGroups counts health groups router).1.isSome = true ↔
      ∃ group ∈ groups, ∃ stub < counts.count group,
        health group stub = true := by
  induction groups generalizing router with
  | nil => simp [tryGroups]
  | cons group groups induction =>
      have own := @get_isSome_iff ρ counts
        { router with index := router.index + 1 } group (health group)
      unfold tryGroups
      simp only [List.mem_cons, exists_eq_or_imp]
      split
      · rename_i stub next returned
        rw [returned] at own
        exact iff_of_true rfl (.inl (own.mp rfl))
      · rename_i next returned
        rw [returned] at own
        rw [induction, ← own]
        simp

/-- Whatever is tried first, a healthy stub is found if there is one. -/
theorem route_isSome_iff {health : Nat → Nat → Bool} :
    (router.route counts health).1.isSome = true ↔
      ∃ group ∈ router.items, ∃ stub < counts.count group,
        health group stub = true := by
  unfold route
  rw [tryGroups_isSome_iff]
  simp only [flick, List.mem_rotate]

theorem route_healthy {health : Nat → Nat → Bool}
    (well : ∀ group stub, health group stub = true)
    (found : router.items[router.index % router.items.length]? =
      some group) :
    router.route counts health =
      (some (group, router.roundRobinIndex group % counts.count group),
        notifyAlive group
          { router with
            index := router.index + 1
            roundRobinIndex :=
              Function.update router.roundRobinIndex group
                (router.roundRobinIndex group + 1) }) := by
  have bound := (List.getElem?_eq_some_iff.mp found).1
  have first : router.flick.head? = some group := by
    rw [flick, List.head?_rotate bound, found]
  obtain ⟨groups, walk⟩ := List.head?_eq_some_iff.mp first
  rw [route, walk, tryGroups, get_healthy (well group)]

end

/-! ## Fairness -/

theorem map_range_snoc {α : Type} {members : List α} {member : Nat → α}
    (listed : members = (List.range members.length).map member) :
    members ++ [member members.length] =
      (List.range (members ++ [member members.length]).length).map
        member := by
  rw [List.length_append, List.length_singleton, List.range_succ,
    List.map_append, ← listed]
  rfl

theorem map_range_rotate {α : Type} (members : List α) (start : Nat) :
    (List.range members.length).map (fun place =>
        members[(start + place) % members.length]?) =
      (members.rotate start).map some := by
  apply List.ext_getElem?
  intro place
  by_cases bound : place < members.length
  · have inside : (start + place) % members.length < members.length :=
      Nat.mod_lt _ (by omega)
    rw [List.getElem?_map, List.getElem?_map, List.getElem?_range bound,
      List.getElem?_rotate bound, Nat.add_comm place,
      List.getElem?_eq_getElem inside, Option.map_some, Option.map_some,
      List.getElem?_eq_getElem inside]
  · rw [List.getElem?_eq_none, List.getElem?_eq_none]
    · simpa using bound
    · simpa using bound

/-- The cursors after a run, and what it has used. -/
structure Cycled (counts : StubCounts) (start : Router ρ)
    (trace : List RouteEvent) (router : Router ρ) : Prop where
  items : router.items = start.items
  index : router.index = start.index + (routedGroups trace).length
  cursor : ∀ group, router.roundRobinIndex group =
    start.roundRobinIndex group + (usedStubs group trace).length
  groups : routedGroups trace =
    (List.range (routedGroups trace).length).map (fun place =>
      start.items[(start.index + place) % start.items.length]?)
  stubs : ∀ group, usedStubs group trace =
    (List.range (usedStubs group trace).length).map (fun place =>
      some ((start.roundRobinIndex group + place) % counts.count group))

theorem routedGroups_append (trace events : List RouteEvent) :
    routedGroups (trace ++ events) =
      routedGroups trace ++ routedGroups events := by
  simp [routedGroups]

theorem usedStubs_append (group : Nat) (trace events : List RouteEvent) :
    usedStubs group (trace ++ events) =
      usedStubs group trace ++ usedStubs group events :=
  List.filterMap_append

section

variable {counts : StubCounts} {start router next : Router ρ}
  {trace events : List RouteEvent}

theorem Cycled.idle (cycled : Cycled counts start trace router)
    (items : next.items = router.items) (index : next.index = router.index)
    (cursor : next.roundRobinIndex = router.roundRobinIndex) :
    Cycled counts start (trace ++ []) next := by
  rw [List.append_nil]
  exact ⟨items.trans cycled.items, index.trans cycled.index,
    fun group => (congrFun cursor group).trans (cycled.cursor group),
    cycled.groups, cycled.stubs⟩

theorem Cycled.used (cycled : Cycled counts start trace router)
    {used : Nat} {event : RouteEvent}
    (uses : ∀ group, usedStubs group [event] =
      if used = group then
        [some (router.roundRobinIndex used % counts.count used)]
      else []) (group : Nat) :
    Function.update router.roundRobinIndex used
        (router.roundRobinIndex used + 1) group =
        start.roundRobinIndex group +
          (usedStubs group (trace ++ [event])).length ∧
      usedStubs group (trace ++ [event]) =
        (List.range (usedStubs group (trace ++ [event])).length).map
          (fun place =>
            some ((start.roundRobinIndex group + place) %
              counts.count group)) := by
  rw [usedStubs_append, uses]
  by_cases own : used = group
  · subst own
    rw [if_pos rfl, Function.update_self, cycled.cursor used]
    constructor
    · rw [List.length_append, List.length_singleton, Nat.add_assoc]
    · exact map_range_snoc (cycled.stubs used)
  · rw [if_neg own, Function.update_of_ne (Ne.symm own), List.append_nil]
    exact ⟨cycled.cursor group, cycled.stubs group⟩

theorem Cycled.step {action : RouteAction ρ} (some_group : start.items ≠ [])
    (cycled : Cycled counts start trace router)
    (undisturbed : router.Undisturbed action)
    (stepped : Router.step counts router action = some (next, events)) :
    Cycled counts start (trace ++ events) next := by
  cases action with
  | route health =>
      have inside : router.index % router.items.length <
          router.items.length := by
        rw [cycled.items]
        exact Nat.mod_lt _ (List.length_pos_of_ne_nil some_group)
      have found := List.getElem?_eq_getElem inside
      obtain ⟨group, taken⟩ : ∃ group,
          router.items[router.index % router.items.length]? = some group :=
        ⟨_, found⟩
      simp only [Router.step, route_healthy undisturbed taken] at stepped
      cases stepped
      have uses : ∀ other, usedStubs other [.routed (some (group,
          router.roundRobinIndex group % counts.count group))] =
          if group = other then
            [some (router.roundRobinIndex group % counts.count group)]
          else [] := by
        intro other
        by_cases own : group = other
        · simp [usedStubs, RouteEvent.use, own]
        · simp [usedStubs, RouteEvent.use, own]
      have member : some group =
          start.items[(start.index + (routedGroups trace).length) %
            start.items.length]? := by
        rw [← cycled.index, ← cycled.items]
        exact taken.symm
      refine ⟨cycled.items, ?_, fun other => (cycled.used uses other).1,
        ?_, fun other => (cycled.used uses other).2⟩
      · rw [routedGroups_append, List.length_append]
        exact congrArg (· + 1) cycled.index
      · have extended := map_range_snoc cycled.groups
        rw [← member] at extended
        rw [routedGroups_append]
        exact extended
  | routeKey group health =>
      simp only [Router.step, get_healthy (undisturbed group)] at stepped
      cases stepped
      have uses : ∀ other, usedStubs other [.keyed group
          (some (router.roundRobinIndex group % counts.count group))] =
          if group = other then
            [some (router.roundRobinIndex group % counts.count group)]
          else [] := by
        intro other
        by_cases own : group = other
        · simp [usedStubs, RouteEvent.use, own]
        · simp [usedStubs, RouteEvent.use, own]
      have silent : routedGroups [.keyed group (some
          (router.roundRobinIndex group % counts.count group))] = [] := rfl
      refine ⟨cycled.items, ?_, fun other => (cycled.used uses other).1,
        ?_, fun other => (cycled.used uses other).2⟩
      · rw [routedGroups_append, silent, List.append_nil]
        exact cycled.index
      · rw [routedGroups_append, silent, List.append_nil]
        exact cycled.groups
  | decay => exact undisturbed.elim
  | decayRb group => exact undisturbed.elim
  | repository other =>
      cases stepped
      exact cycled.idle undisturbed rfl rfl

theorem cycled_of_run (some_group : start.items ≠ [])
    (run : Transition.Run (Router.step counts) Undisturbed start trace
      router) : Cycled counts start trace router := by
  apply run.invariant
  · exact ⟨rfl, rfl, fun _ => rfl, rfl, fun _ => rfl⟩
  · intro trace events router next action cycled undisturbed stepped
    exact cycled.step some_group undisturbed stepped

theorem Cycled.groups_perm (cycled : Cycled counts start trace router)
    (round : (routedGroups trace).length = start.items.length) :
    (routedGroups trace).Perm (start.items.map some) := by
  have groups := cycled.groups
  rw [round, map_range_rotate] at groups
  rw [groups]
  exact (start.items.rotate_perm start.index).map some

theorem Cycled.stubs_perm (cycled : Cycled counts start trace router)
    {group : Nat}
    (round : (usedStubs group trace).length = counts.count group) :
    (usedStubs group trace).Perm
      ((List.range (counts.count group)).map some) := by
  have stubs := cycled.stubs group
  have around := map_range_rotate (List.range (counts.count group))
    (start.roundRobinIndex group)
  rw [List.length_range] at around
  have same : ∀ place ∈ List.range (counts.count group),
      (List.range (counts.count group))[(start.roundRobinIndex group +
        place) % counts.count group]? =
      some ((start.roundRobinIndex group + place) % counts.count group) := by
    intro place _
    exact List.getElem?_range (Nat.mod_lt _ (counts.positive group))
  rw [round, ← List.map_congr_left same, around] at stubs
  rw [stubs]
  exact (List.rotate_perm _ _).map some

end

/-- A route without a key and a domain finds a healthy stub exactly if some
group has one.  While all stubs are healthy and neither the membership nor a
cursor is changed by others, any `n` consecutive routes take each of the `n`
groups once, and any `m` consecutive uses of a group return each of its `m`
stubs once. -/
theorem route_complete_fair (counts : StubCounts) {start : Router ρ}
    (some_group : start.items ≠ []) :
    (∀ health,
      (∀ group stub, (start.route counts health).1 = some (group, stub) →
        group ∈ start.items ∧ stub < counts.count group ∧
          health group stub = true) ∧
      ((start.route counts health).1.isSome = true ↔
        ∃ group ∈ start.items, ∃ stub < counts.count group,
          health group stub = true)) ∧
    ∀ trace router,
      Transition.Run (step counts) Undisturbed start trace router →
      ((routedGroups trace).length = start.items.length →
        (routedGroups trace).Perm (start.items.map some)) ∧
      ∀ group, (usedStubs group trace).length = counts.count group →
        (usedStubs group trace).Perm
          ((List.range (counts.count group)).map some) := by
  constructor
  · intro health
    refine ⟨?_, route_isSome_iff⟩
    intro group stub result
    obtain ⟨member, found⟩ := tryGroups_some result
    exact ⟨List.mem_rotate.mp member, found⟩
  · intro trace router run
    have cycled := cycled_of_run some_group run
    exact ⟨cycled.groups_perm, fun group => cycled.stubs_perm⟩

theorem exists_routes (counts : StubCounts) (start : Router ρ)
    (number : Nat) :
    ∃ trace router,
      Transition.Run (step counts) Undisturbed start trace router ∧
        (routedGroups trace).length = number := by
  induction number with
  | zero => exact ⟨[], start, .refl, rfl⟩
  | succ number induction =>
      obtain ⟨trace, router, run, routes⟩ := induction
      refine ⟨_, _, run.act (.route (fun _ _ => true)) ?_ rfl, ?_⟩
      · exact fun _ _ => rfl
      · rw [routedGroups_append, List.length_append, routes]
        rfl

/-- Three groups, with two stubs each. -/
def threeGroups : Router (List ServiceAddr) where
  repository := { ring := [], roundRobin := [4, 7, 9] }
  index := 5

def twoStubs : StubCounts := ⟨fun _ => 2, fun _ => Nat.two_pos⟩

/-- The cursor starts behind the end of the round robin. -/
theorem route_complete_fair_three :
    (threeGroups.route twoStubs
      (fun group stub => decide (group = 4 ∧ stub = 1))).1.isSome = true ∧
    ∃ trace router,
      Transition.Run (step twoStubs) Undisturbed threeGroups trace router ∧
      (routedGroups trace).Perm ([4, 7, 9].map some) := by
  have some_group : threeGroups.items ≠ [] := List.cons_ne_nil 4 [7, 9]
  have both := route_complete_fair twoStubs some_group
  constructor
  · exact (both.1 _).2.mpr ⟨4, by decide, 1, by decide, rfl⟩
  · obtain ⟨trace, router, run, routes⟩ :=
      exists_routes twoStubs threeGroups 3
    exact ⟨trace, router, run, (both.2 trace router run).1 routes⟩

end Router

end Rpc

end TinyChat
