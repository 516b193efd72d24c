import TinyChat.Lib.Table
import TinyChat.Lib.Transition

/-!
# The sibling stubs of a group

A group has a stub over each of its channels.  The stubs of the sibling
classes are kept beside them and share their channels.  A reconnection may
replace the channel of a stub, and the second look of the monitor then renews
the siblings of the stub.
-/

namespace TinyChat

namespace Rpc

/-- An object of a generated stub class over a channel. -/
structure RawStub where
  stubCls : String
  channel : Nat
  deriving DecidableEq

/-- `bound` is the object whose methods `initialize` has set on the stub, and
`createBound` says that the stub has a `create_func`. -/
structure GrpcStub where
  channel : Option Nat
  stub : Option RawStub
  bound : Option RawStub := none
  isNewOne : Bool := false
  createBound : Bool := false
  retries : Int := 3
  inHibernate : Bool := false
  deriving DecidableEq

/-- What is found in the lists of `linked_stubs`. -/
inductive LinkedStub where
  | grpc (stub : GrpcStub)
  | raw (stub : RawStub)
  deriving DecidableEq

/-- `__bind_stub__`, with no siblings at all if it is not a sequence. -/
structure BindStub where
  main : String
  siblings : Option (List String)

/-- How the wait of a reconnection ends. -/
inductive Readiness where
  | ready
  | failed
  | timeout
  deriving DecidableEq

/-- What a reconnection meets: the channel that `create_func` makes if the
stub has none, how the wait ends, and the channel that is made after a
failure.  No channel means an exception. -/
structure Reconnection where
  created : Option Nat
  readiness : Readiness
  recreated : Option Nat

namespace GrpcStub

/-- `initialize`, which sets nothing without a stub. -/
def initializeStub (stub : GrpcStub) : GrpcStub :=
  match stub.stub with
  | none => stub
  | some raw => { stub with bound := some raw }

/-- `create_stub` with its decorator. -/
def createStub (stubCls : String) : Option Nat → GrpcStub
  | some channel =>
      { channel := some channel, stub := some { stubCls, channel } }
  | none => { channel := none, stub := none, createBound := true }

/-- The channel and the stub are replaced by new ones. -/
def replace (stub : GrpcStub) (stubCls : String) (channel : Nat) :
    GrpcStub :=
  { ({ stub with
        channel := some channel
        stub := some { stubCls, channel } }).initializeStub with
    isNewOne := true }

/-- `self.create_func(...)`, which only a stub has whose first creation has
failed, and what is done with its result. -/
def create (stub : GrpcStub) (stubCls : String) (created : Option Nat) :
    Option GrpcStub :=
  if stub.createBound then created.map (stub.replace stubCls) else none

/-- The wait for the channel and what follows it. -/
def awaitReady (stub : GrpcStub) (stubCls : String)
    (reconnection : Reconnection) : GrpcStub :=
  match reconnection.readiness with
  | .ready => if stub.retries < 3 then { stub with retries := 3 } else stub
  | .failed => (stub.create stubCls reconnection.recreated).getD stub
  | .timeout => stub

/-- An exception leaves the stub as it is then. -/
def reconnect (stub : GrpcStub) (stubCls : String)
    (reconnection : Reconnection) : GrpcStub :=
  if stub.inHibernate then stub
  else
    let tried := { stub with retries := stub.retries - 1 }
    if tried.retries = 0 then { tried with inHibernate := true }
    else
      match tried.channel with
      | some _ => tried.awaitReady stubCls reconnection
      | none =>
          match tried.create stubCls reconnection.created with
          | none => tried
          | some rebuilt => rebuilt.awaitReady stubCls reconnection

def exitHibernate (stub : GrpcStub) : GrpcStub :=
  { stub with inHibernate := false, retries := 3 }

end GrpcStub

/-- `stub._channel` of what the variable `stub` holds, as an argument of a
stub class: a generated object has no such attribute, and no stub class takes
`None`. -/
def LinkedStub.ownChannel : LinkedStub → Option Nat
  | .grpc stub => stub.channel
  | .raw _ => none

abbrev LinkedStubs := Table String (List LinkedStub)

/-- `copy_from`. -/
def copyFrom (stubs : List GrpcStub) (stubCls : String) : List LinkedStub :=
  stubs.map (fun source =>
    .grpc (GrpcStub.initializeStub
      { channel := source.channel
        stub := source.channel.map (fun channel => { stubCls, channel }) }))

/-- `linked_stubs[name][seq] = stub`. -/
def LinkedStubs.put (linked : LinkedStubs) (stubCls : String) (seq : Nat)
    (stub : LinkedStub) : LinkedStubs :=
  linked.assign stubCls (((linked.lookup stubCls).getD []).set seq stub)

structure GrpcStubGroup where
  stubs : List GrpcStub
  linkedStubs : Option LinkedStubs

namespace GrpcStubGroup

/-- `initialize`, with the channel that is made for each stub, if any. -/
def initializeGroup (bind : BindStub) (channels : List (Option Nat)) :
    GrpcStubGroup :=
  let stubs := channels.map (fun channel =>
    (GrpcStub.createStub bind.main channel).initializeStub)
  { stubs
    linkedStubs := bind.siblings.map (fun siblings =>
      siblings.foldl (fun linked stubCls =>
        linked.assign stubCls (copyFrom stubs stubCls)) []) }

/-- The loop over the sibling classes of one stub.  The variable `stub` is
assigned in its body; it is what the loop leaves, unless it raises. -/
def relink (seq : Nat) : List String → LinkedStub → LinkedStubs →
    LinkedStubs × Option LinkedStub
  | [], stub, linked => (linked, some stub)
  | destStubCls :: siblings, stub, linked =>
      match stub.ownChannel with
      | none => (linked, none)
      | some channel =>
          let raw : RawStub := { stubCls := destStubCls, channel }
          relink seq siblings (.raw raw)
            (linked.put destStubCls seq (.raw raw))

/-- `stub.is_new_one = False`, on what the variable holds then. -/
def markOld (group : GrpcStubGroup) (seq : Nat) :
    LinkedStub → GrpcStubGroup
  | .grpc stub =>
      { group with
        stubs := group.stubs.set seq { stub with isNewOne := false } }
  | .raw _ => group

/-- The loop over the stubs, and whether it came to its end. -/
def renewFrom (siblings : List String) :
    List GrpcStub → Nat → LinkedStubs → GrpcStubGroup →
      GrpcStubGroup × Bool
  | [], _, linked, group => ({ group with linkedStubs := some linked }, true)
  | stub :: stubs, seq, linked, group =>
      if stub.isNewOne then
        match relink seq siblings (.grpc stub) linked with
        | (linked, none) =>
            ({ group with linkedStubs := some linked }, false)
        | (linked, some last) =>
            renewFrom siblings stubs (seq + 1) linked
              (group.markOld seq last)
      else renewFrom siblings stubs (seq + 1) linked group

/-- What the second look of the monitor does to the linked stubs. -/
def renew (bind : BindStub) (group : GrpcStubGroup) :
    GrpcStubGroup × Bool :=
  match group.linkedStubs with
  | none => (group, true)
  | some linked =>
      renewFrom (bind.siblings.getD []) group.stubs 0 linked group

end GrpcStubGroup

/-- Whether the look at a group came to its end. -/
inductive RenewEvent where
  | renewed (completed : Bool)
  deriving DecidableEq

inductive StubAction where
  | reconnect (seq : Nat) (reconnection : Reconnection)
  | exitHibernate (seq : Nat)
  | recheck

namespace GrpcStubGroup

def setStub (group : GrpcStubGroup) (seq : Nat) (stub : GrpcStub) :
    GrpcStubGroup :=
  { group with stubs := group.stubs.set seq stub }

def step (bind : BindStub) :
    Transition.Step GrpcStubGroup StubAction RenewEvent
  | group, .reconnect seq reconnection =>
      match group.stubs[seq]? with
      | none => none
      | some stub =>
          some (group.setStub seq (stub.reconnect bind.main reconnection), [])
  | group, .exitHibernate seq =>
      match group.stubs[seq]? with
      | none => none
      | some stub =>
          if stub.inHibernate then
            some (group.setStub seq stub.exitHibernate, [])
          else none
  | group, .recheck =>
      some ((group.renew bind).1, [.renewed (group.renew bind).2])

/-- The stub is initialised for its class over the channel. -/
def InitialisedOver (stubCls : String) (channel : Nat) :
    LinkedStub → Prop
  | .grpc stub =>
      stub.channel = some channel ∧ stub.bound = some { stubCls, channel }
  | .raw _ => False

/-- Every stub has its siblings over its own channel, and none is new. -/
def Follows (siblings : List String) (group : GrpcStubGroup) : Prop :=
  ∀ (seq : Nat) (stub : GrpcStub), group.stubs[seq]? = some stub →
    stub.isNewOne = false ∧
      ∀ stubCls ∈ siblings, ∃ channel linked entries entry,
        stub.channel = some channel ∧ group.linkedStubs = some linked ∧
        linked.lookup stubCls = some entries ∧
        entries[seq]? = some entry ∧
        InitialisedOver stubCls channel entry

end GrpcStubGroup

/-! ## What a reconnection does to a stub -/

namespace GrpcStub

/-- The channel is the same, or it was replaced by one of `create_func`. -/
def Reconnected (stub after : GrpcStub) : Prop :=
  after.createBound = stub.createBound ∧
    ((after.channel = stub.channel ∧ after.isNewOne = stub.isNewOne) ∨
      (stub.createBound = true ∧ after.isNewOne = true))

variable {stub between after : GrpcStub} {stubCls : String}

theorem Reconnected.refl (stub : GrpcStub) : stub.Reconnected stub :=
  ⟨rfl, .inl ⟨rfl, rfl⟩⟩

theorem Reconnected.trans (first : stub.Reconnected between)
    (second : between.Reconnected after) : stub.Reconnected after := by
  obtain ⟨bound, first⟩ := first
  obtain ⟨boundAfter, second⟩ := second
  refine ⟨boundAfter.trans bound, ?_⟩
  rcases second with ⟨channel, new⟩ | ⟨rebuilt, new⟩
  · rw [channel, new]
    exact first
  · exact .inr ⟨bound ▸ rebuilt, new⟩

theorem create_reconnected {created : Option Nat}
    (result : stub.create stubCls created = some after) :
    stub.Reconnected after := by
  unfold create at result
  split at result
  · rename_i bound
    obtain ⟨channel, -, rfl⟩ := Option.map_eq_some_iff.mp result
    exact ⟨rfl, .inr ⟨bound, rfl⟩⟩
  · cases result

theorem awaitReady_reconnected (stub : GrpcStub) (stubCls : String)
    (reconnection : Reconnection) :
    stub.Reconnected (stub.awaitReady stubCls reconnection) := by
  unfold awaitReady
  cases reconnection.readiness with
  | ready =>
      change stub.Reconnected (if stub.retries < 3 then _ else stub)
      split
      · exact ⟨rfl, .inl ⟨rfl, rfl⟩⟩
      · exact .refl stub
  | failed =>
      cases result : stub.create stubCls reconnection.recreated with
      | none => exact .refl stub
      | some rebuilt => exact create_reconnected result
  | timeout => exact .refl stub

theorem reconnect_reconnected (stub : GrpcStub) (stubCls : String)
    (reconnection : Reconnection) :
    stub.Reconnected (stub.reconnect stubCls reconnection) := by
  unfold reconnect
  split
  · exact .refl stub
  · have tried : stub.Reconnected { stub with retries := stub.retries - 1 } :=
      ⟨rfl, .inl ⟨rfl, rfl⟩⟩
    dsimp only
    split
    · exact ⟨rfl, .inl ⟨rfl, rfl⟩⟩
    · split
      · exact tried.trans (awaitReady_reconnected _ _ _)
      · split
        · exact tried
        · rename_i rebuilt result
          exact (tried.trans (create_reconnected result)).trans
            (awaitReady_reconnected _ _ _)

end GrpcStub

/-! ## What the second look does to the linked stubs -/

namespace GrpcStubGroup

variable {bind : BindStub} {siblings : List String}
  {group next : GrpcStubGroup}

theorem relink_raw {seq : Nat} {stubCls : String} {stub last : LinkedStub}
    {linked after : LinkedStubs}
    (result : relink seq (stubCls :: siblings) stub linked =
      (after, some last)) :
    ∃ raw, last = .raw raw := by
  cases found : stub.ownChannel with
  | none =>
      rw [relink, found] at result
      cases result
  | some channel =>
      rw [relink, found] at result
      cases siblings with
      | nil =>
          cases result
          exact ⟨_, rfl⟩
      | cons other siblings => cases result

theorem renewFrom_stubs (nonempty : siblings ≠ []) (stubs : List GrpcStub)
    (seq : Nat) (linked : LinkedStubs) (group : GrpcStubGroup) :
    (renewFrom siblings stubs seq linked group).1.stubs = group.stubs := by
  induction stubs generalizing seq linked group with
  | nil => rfl
  | cons stub stubs induction =>
      unfold renewFrom
      split
      · split
        · rfl
        · rename_i after last result
          rw [induction]
          obtain ⟨stubCls, rest, rfl⟩ := List.exists_cons_of_ne_nil nonempty
          obtain ⟨raw, rfl⟩ := relink_raw result
          rfl
      · exact induction _ _ _

theorem renew_stubs (linked : bind.siblings = some siblings)
    (nonempty : siblings ≠ []) (group : GrpcStubGroup) :
    (group.renew bind).1.stubs = group.stubs := by
  unfold renew
  split
  · rfl
  · rw [linked]
    exact renewFrom_stubs nonempty _ _ _ _

theorem renewFrom_old {stubs : List GrpcStub}
    (old : ∀ stub ∈ stubs, stub.isNewOne = false) (seq : Nat)
    (linked : LinkedStubs) (group : GrpcStubGroup) :
    renewFrom siblings stubs seq linked group =
      ({ group with linkedStubs := some linked }, true) := by
  induction stubs generalizing seq with
  | nil => rfl
  | cons stub stubs induction =>
      unfold renewFrom
      rw [old stub List.mem_cons_self, if_neg Bool.false_ne_true]
      apply induction
      intro other member
      exact old other (List.mem_cons_of_mem _ member)

/-- Nothing is done to a group without new stubs. -/
theorem renew_old (old : ∀ stub ∈ group.stubs, stub.isNewOne = false) :
    group.renew bind = (group, true) := by
  unfold renew
  split
  · rfl
  · rename_i linked found
    rw [renewFrom_old old]
    cases group with
    | mk stubs linkedStubs =>
        cases found
        rfl

/-- What a step can do: look at the group, or replace one stub by what a
reconnection makes of it. -/
theorem step_cases {action : StubAction} {events : List RenewEvent}
    (stepped : step bind group action = some (next, events)) :
    next = (group.renew bind).1 ∨
      ∃ seq stub after, group.stubs[seq]? = some stub ∧
        stub.Reconnected after ∧ next = group.setStub seq after := by
  cases action with
  | reconnect seq reconnection =>
      simp only [step] at stepped
      split at stepped
      · cases stepped
      · rename_i stub found
        cases stepped
        exact .inr ⟨seq, stub, _, found,
          stub.reconnect_reconnected _ _, rfl⟩
  | exitHibernate seq =>
      simp only [step] at stepped
      split at stepped
      · cases stepped
      · rename_i stub found
        split at stepped
        · cases stepped
          exact .inr ⟨seq, stub, stub.exitHibernate, found,
            ⟨rfl, .inl ⟨rfl, rfl⟩⟩, rfl⟩
        · cases stepped
  | recheck =>
      cases stepped
      exact .inl rfl

theorem setStub_get {seq : Nat} {stub : GrpcStub}
    (found : group.stubs[seq]? = some stub) (after : GrpcStub) (other : Nat) :
    (group.setStub seq after).stubs[other]? =
      if other = seq then some after else group.stubs[other]? := by
  have bound := (List.getElem?_eq_some_iff.mp found).1
  by_cases same : other = seq
  · rw [if_pos same, same]
    exact List.getElem?_set_self bound
  · rw [if_neg same]
    exact List.getElem?_set_ne (Ne.symm same)

/-! ## Groups whose channels were all made at once -/

/-- The linked stubs are right, and no reconnection can replace a channel. -/
structure Steady (siblings : List String) (group : GrpcStubGroup) :
    Prop where
  follows : group.Follows siblings
  unbound : ∀ (seq : Nat) (stub : GrpcStub),
    group.stubs[seq]? = some stub → stub.createBound = false

theorem Steady.renew (steady : Steady siblings group) :
    (group.renew bind).1 = group := by
  rw [renew_old]
  intro stub member
  obtain ⟨seq, found⟩ := List.getElem?_of_mem member
  exact (steady.follows seq stub found).1

theorem Steady.setStub (steady : Steady siblings group) {seq : Nat}
    {stub after : GrpcStub} (found : group.stubs[seq]? = some stub)
    (reconnected : stub.Reconnected after) :
    Steady siblings (group.setStub seq after) := by
  obtain ⟨bound, same⟩ := reconnected
  have unbound := steady.unbound seq stub found
  rcases same with ⟨channel, new⟩ | ⟨rebuilt, -⟩
  · constructor
    · intro other current placed
      rw [setStub_get found] at placed
      split at placed
      · rename_i here
        cases placed
        subst here
        have before := steady.follows other stub found
        rw [channel, new]
        exact before
      · exact steady.follows other current placed
    · intro other current placed
      rw [setStub_get found] at placed
      split at placed
      · cases placed
        rw [bound, unbound]
      · exact steady.unbound other current placed
  · rw [unbound] at rebuilt
    cases rebuilt

/-! ## Groups with a channel that came later -/

/-- A stub has no channel yet, or a new one. -/
def Behind (group : GrpcStubGroup) : Prop :=
  ∃ (seq : Nat) (stub : GrpcStub), group.stubs[seq]? = some stub ∧
    (stub.channel = none ∨ stub.isNewOne = true)

theorem Behind.setStub (behind : group.Behind) {seq : Nat}
    {stub after : GrpcStub} (found : group.stubs[seq]? = some stub)
    (reconnected : stub.Reconnected after) :
    (group.setStub seq after).Behind := by
  obtain ⟨place, late, placed, lacks⟩ := behind
  by_cases here : place = seq
  · subst here
    rw [found, Option.some.injEq] at placed
    refine ⟨place, after, by rw [setStub_get found, if_pos rfl], ?_⟩
    rcases reconnected.2 with ⟨channel, new⟩ | ⟨-, new⟩
    · rw [channel, new, placed]
      exact lacks
    · exact .inr new
  · exact ⟨place, late, by rw [setStub_get found, if_neg here, placed],
      lacks⟩

theorem Behind.not_follows (behind : group.Behind)
    (nonempty : siblings ≠ []) : ¬ group.Follows siblings := by
  intro follows
  obtain ⟨seq, stub, found, lacks⟩ := behind
  obtain ⟨old, linked⟩ := follows seq stub found
  rcases lacks with missing | new
  · obtain ⟨stubCls, rest, rfl⟩ := List.exists_cons_of_ne_nil nonempty
    obtain ⟨channel, _, _, _, present, -⟩ :=
      linked stubCls List.mem_cons_self
    rw [missing] at present
    cases present
  · rw [old] at new
    cases new

/-! ## The group as it is made -/

theorem lookup_linked (lists : String → List LinkedStub)
    (siblings : List String) (linked : LinkedStubs) (stubCls : String) :
    (siblings.foldl (fun linked sibling =>
        linked.assign sibling (lists sibling)) linked).lookup stubCls =
      if stubCls ∈ siblings then some (lists stubCls)
      else linked.lookup stubCls := by
  induction siblings generalizing linked with
  | nil => rfl
  | cons sibling siblings induction =>
      rw [List.foldl_cons, induction, Table.lookup_assign]
      by_cases later : stubCls ∈ siblings
      · simp [later]
      · by_cases here : stubCls = sibling
        · simp [here]
        · simp [later, here]

theorem initializeGroup_get {channels : List (Option Nat)} {seq : Nat}
    {stub : GrpcStub}
    (found : (initializeGroup bind channels).stubs[seq]? = some stub) :
    ∃ channel, channels[seq]? = some channel ∧
      stub = (GrpcStub.createStub bind.main channel).initializeStub := by
  simp only [initializeGroup, List.getElem?_map] at found
  obtain ⟨channel, listed, rfl⟩ := Option.map_eq_some_iff.mp found
  exact ⟨channel, listed, rfl⟩

theorem initializeGroup_steady {channels : List (Option Nat)}
    (linked : bind.siblings = some siblings)
    (made : ∀ channel ∈ channels, channel.isSome = true) :
    Steady siblings (initializeGroup bind channels) := by
  constructor
  · intro seq stub found
    obtain ⟨channel, listed, rfl⟩ := initializeGroup_get found
    obtain ⟨number, rfl⟩ := Option.isSome_iff_exists.mp
      (made channel (List.mem_of_getElem? listed))
    refine ⟨rfl, ?_⟩
    intro stubCls member
    refine ⟨number, _, copyFrom (initializeGroup bind channels).stubs stubCls,
      .grpc (GrpcStub.initializeStub
        { channel := some number
          stub := some { stubCls, channel := number } }),
      rfl, congrArg (Option.map _) linked, ?_, ?_, ?_⟩
    · exact (lookup_linked _ _ _ _).trans (if_pos member)
    · simp only [copyFrom, List.getElem?_map, found]
      rfl
    · exact ⟨rfl, rfl⟩
  · intro seq stub found
    obtain ⟨channel, listed, rfl⟩ := initializeGroup_get found
    obtain ⟨number, rfl⟩ := Option.isSome_iff_exists.mp
      (made channel (List.mem_of_getElem? listed))
    rfl

theorem initializeGroup_behind {channels : List (Option Nat)}
    (missing : none ∈ channels) :
    (initializeGroup bind channels).Behind := by
  obtain ⟨seq, listed⟩ := List.getElem?_of_mem missing
  refine ⟨seq, (GrpcStub.createStub bind.main none).initializeStub, ?_,
    .inl rfl⟩
  simp only [initializeGroup, List.getElem?_map, listed]
  rfl

/-- After a look at a group with siblings, they are initialised over the
channels of its stubs and none of these is new, exactly if every channel was
made when the group was: a channel that a reconnection has put in place never
gets right siblings. -/
theorem recheck_follows_iff {channels : List (Option Nat)}
    {trace : List RenewEvent} (linked : bind.siblings = some siblings)
    (nonempty : siblings ≠ [])
    (run : Transition.AnyRun (step bind) (initializeGroup bind channels)
      trace group) :
    (group.renew bind).1.Follows siblings ↔
      ∀ channel ∈ channels, channel.isSome = true := by
  constructor
  · intro follows
    by_contra unmade
    have missing : none ∈ channels := by
      by_contra absent
      apply unmade
      intro channel member
      cases channel with
      | none => exact absurd member absent
      | some number => rfl
    have behind : group.Behind := by
      apply run.state_invariant
      · exact initializeGroup_behind missing
      · intro events group next action behind _ stepped
        rcases step_cases stepped with rfl |
          ⟨seq, stub, after, found, reconnected, rfl⟩
        · unfold Behind
          rw [renew_stubs linked nonempty]
          exact behind
        · exact behind.setStub found reconnected
    apply Behind.not_follows _ nonempty follows
    unfold Behind
    rw [renew_stubs linked nonempty]
    exact behind
  · intro made
    have steady : Steady siblings group := by
      apply run.state_invariant
      · exact initializeGroup_steady linked made
      · intro events group next action steady _ stepped
        rcases step_cases stepped with rfl |
          ⟨seq, stub, after, found, reconnected, rfl⟩
        · rw [steady.renew]
          exact steady
        · exact steady.setStub found reconnected
    rw [steady.renew]
    exact steady.follows

/-- The `UserService` of the HTTP gateway. -/
def userService : BindStub where
  main := "UserStub"
  siblings := some ["FriendStub"]

/-- A channel that was closed is not replaced. -/
theorem recheck_follows_iff_closed :
    ∃ trace group, Transition.AnyRun (step userService)
        (initializeGroup userService [some 0, some 1]) trace group ∧
      (group.stubs.map GrpcStub.channel) = [some 0, some 1] ∧
      (group.renew userService).1.Follows ["FriendStub"] := by
  have ran : ∃ trace group, Transition.AnyRun (step userService)
        (initializeGroup userService [some 0, some 1]) trace group ∧
      (group.stubs.map GrpcStub.channel) = [some 0, some 1] := by
    apply Transition.Run.exists_state_of_exec
      [.reconnect 0 ⟨none, .failed, some 2⟩, .recheck]
    decide
  obtain ⟨trace, group, run, kept⟩ := ran
  exact ⟨trace, group, run, kept,
    (recheck_follows_iff rfl (List.cons_ne_nil _ _) run).mpr (by decide)⟩

/-- The second stub gets its channel from a reconnection.  The look at the
group leaves a bare `FriendStub` in the list, and the stub remains new. -/
theorem renewed_sibling_raw : ¬ ∀ (bind : BindStub) (siblings : List String)
    (channels : List (Option Nat)) (trace : List RenewEvent)
    (group : GrpcStubGroup), bind.siblings = some siblings →
    siblings ≠ [] →
    Transition.AnyRun (step bind) (initializeGroup bind channels) trace
      group →
    (group.renew bind).1.Follows siblings := by
  intro always
  have ran : ∃ trace group, Transition.AnyRun (step userService)
        (initializeGroup userService [some 0, none]) trace group ∧
      (group.renew userService).2 = true ∧
      ((group.renew userService).1.stubs[1]?).map GrpcStub.isNewOne =
        some true ∧
      ((group.renew userService).1.linkedStubs.bind
        (List.lookup "FriendStub")).map (fun entries => entries[1]?) =
          some (some (.raw { stubCls := "FriendStub", channel := 2 })) := by
    apply Transition.Run.exists_state_of_exec
      [.reconnect 1 ⟨some 2, .ready, none⟩]
    decide
  obtain ⟨trace, group, run, -, marked, raw⟩ := ran
  obtain ⟨stub, found, -⟩ := Option.map_eq_some_iff.mp marked
  have follows := always userService _ _ trace group rfl
    (List.cons_ne_nil _ _) run
  obtain ⟨channel, linked, entries, entry, -, isLinked, listed, placed,
    initialised⟩ := (follows 1 stub found).2 "FriendStub" List.mem_cons_self
  rw [isLinked, Option.bind_some, listed, Option.map_some, placed,
    Option.some.injEq, Option.some.injEq] at raw
  rw [raw] at initialised
  exact initialised

end GrpcStubGroup

end Rpc

end TinyChat
