import TinyChat.Auth.Refresh

/-!
# Concurrent calls of `refresh`

The calls of one user read the stored token, generate a pair and write the
new token in separate steps.  A token is compared as the text that was stored;
a missing one is the empty text.
-/

namespace TinyChat

namespace Auth

/-- Where a call is: it waits for the stored token, for the pair, for its
write to be executed, or for the reply of the write. -/
inductive RefreshPhase where
  | reading (presented : String)
  | generating (presented : String)
  | writing (presented : String) (tokens : String × String)
  | written (presented : String) (tokens : String × String)
  | done
  deriving DecidableEq

namespace RefreshPhase

/-- The call has passed the comparison and has not returned. -/
def active : RefreshPhase → Bool
  | .reading _ | .done => false
  | .generating _ | .writing _ _ | .written _ _ => true

/-- The write of the call was executed, and its reply is awaited. -/
def waits : RefreshPhase → Bool
  | .written _ _ => true
  | _ => false

end RefreshPhase

/-- A pair that is returned for the token that was presented. -/
structure Exchange where
  presented : String
  tokens : String × String
  deriving DecidableEq

/-- The stored token of the user, all refresh tokens that were generated for
him, and the calls in the order in which they began. -/
structure Refreshes where
  stored : Option String
  issued : List String
  calls : List RefreshPhase := []

/-- A call begins, its read is answered or fails, its pair is generated, its
write is executed, it is told that the write failed, or it returns the
pair. -/
inductive RefreshAction where
  | call (presented : String)
  | read (index : Nat)
  | readFails (index : Nat)
  | generate (index : Nat) (generated : Generated)
  | write (index : Nat)
  | writeFails (index : Nat)
  | answer (index : Nat)

namespace Refreshes

/-- The token of the last login is the first one. -/
def start (login : Option Generated) : Refreshes where
  stored := login.map (fun generated => (generateToken generated).2)
  issued := (login.map (fun generated => (generateToken generated).2)).toList

/-- What a call compares with the token that was presented. -/
def retrieved (state : Refreshes) : String := state.stored.getD ""

def setPhase (state : Refreshes) (index : Nat) (phase : RefreshPhase) :
    Refreshes :=
  { state with calls := state.calls.set index phase }

/-- The source of random bytes does not yield a token twice. -/
def step : Transition.Step Refreshes RefreshAction Exchange
  | state, .call presented =>
      some ({ state with calls := state.calls ++ [.reading presented] }, [])
  | state, .read index =>
      match state.calls[index]? with
      | some (.reading presented) =>
          if state.retrieved ≠ presented then
            some (state.setPhase index .done, [])
          else some (state.setPhase index (.generating presented), [])
      | _ => none
  | state, .readFails index =>
      match state.calls[index]? with
      | some (.reading _) => some (state.setPhase index .done, [])
      | _ => none
  | state, .generate index generated =>
      match state.calls[index]? with
      | some (.generating presented) =>
          let tokens := generateToken generated
          if tokens.2 ∈ state.issued then none
          else
            some ({ state.setPhase index (.writing presented tokens) with
              issued := tokens.2 :: state.issued }, [])
      | _ => none
  | state, .write index =>
      match state.calls[index]? with
      | some (.writing presented tokens) =>
          some ({ state.setPhase index (.written presented tokens) with
            stored := some tokens.2 }, [])
      | _ => none
  | state, .writeFails index =>
      match state.calls[index]? with
      | some (.writing _ _) | some (.written _ _) =>
          some (state.setPhase index .done, [])
      | _ => none
  | state, .answer index =>
      match state.calls[index]? with
      | some (.written presented tokens) =>
          some (state.setPhase index .done, [⟨presented, tokens⟩])
      | _ => none

/-- No write is waiting for its reply. -/
def Quiet (state : Refreshes) : Prop :=
  ∀ phase ∈ state.calls, phase.waits = false

instance (state : Refreshes) : Decidable state.Quiet :=
  inferInstanceAs (Decidable (∀ phase ∈ state.calls, _))

/-- No call passes the comparison while another one has passed it and has not
returned, and no write that was executed is reported as failed. -/
def Alone (state : Refreshes) : RefreshAction → Prop
  | .read index =>
      state.calls[index]? = some (.reading state.retrieved) →
        ∀ phase ∈ state.calls, phase.active = false
  | .writeFails index =>
      (state.calls[index]?).map RefreshPhase.waits ≠ some true
  | _ => True

instance (state : Refreshes) : DecidablePred state.Alone := fun action =>
  match action with
  | .read index => inferInstanceAs (Decidable
      (state.calls[index]? = some (.reading state.retrieved) →
        ∀ phase ∈ state.calls, phase.active = false))
  | .writeFails index => inferInstanceAs (Decidable
      ((state.calls[index]?).map RefreshPhase.waits ≠ some true))
  | .call _ | .readFails _ | .generate _ _ | .write _ | .answer _ =>
      .isTrue trivial

end Refreshes

/-- The refresh token of the last pair that a client has got. -/
def lastReturned (login : Option Generated) (trace : List Exchange) :
    Option String :=
  match trace.getLast? with
  | some exchange => some exchange.tokens.2
  | none => login.map (fun generated => (generateToken generated).2)

/-- What is known about the token of a call that has passed the
comparison. -/
def RefreshPhase.Fits (trace : List Exchange) (state : Refreshes) :
    RefreshPhase → Prop
  | .reading _ | .done => True
  | .generating presented => presented = state.retrieved
  | .writing presented tokens =>
      presented = state.retrieved ∧ tokens.2 ≠ state.retrieved ∧
        tokens.2 ∈ state.issued ∧
        ∀ exchange ∈ trace, exchange.presented ≠ tokens.2
  | .written presented tokens =>
      state.stored = some tokens.2 ∧ presented ≠ tokens.2 ∧
        (presented ∈ state.issued ∨ presented = "") ∧
        ∀ exchange ∈ trace, exchange.presented ≠ presented

/-- No token that was exchanged is stored again. -/
structure Spent (login : Option Generated) (trace : List Exchange)
    (state : Refreshes) : Prop where
  known : ∀ exchange ∈ trace,
    exchange.presented ∈ state.issued ∨ exchange.presented = ""
  once : (trace.map Exchange.presented).Nodup
  unspent : ∀ exchange ∈ trace, exchange.presented ≠ state.retrieved
  stored : ∀ token, state.stored = some token → token ∈ state.issued
  nonempty : ∀ token ∈ state.issued, token ≠ ""

structure Rotated (login : Option Generated) (trace : List Exchange)
    (state : Refreshes) : Prop where
  spent : Spent login trace state
  single : ∀ (first second : Nat) (left right : RefreshPhase),
    state.calls[first]? = some left → state.calls[second]? = some right →
    left.active = true → right.active = true → first = second
  fits : ∀ (index : Nat) (phase : RefreshPhase),
    state.calls[index]? = some phase → phase.Fits trace state
  latest : state.Quiet → state.stored = lastReturned login trace

namespace Rotated

variable {login : Option Generated} {trace : List Exchange}
  {state next : Refreshes}

/-- No call but the one at `index` has passed the comparison. -/
def Idle (state : Refreshes) (index : Nat) : Prop :=
  ∀ (other : Nat) (phase : RefreshPhase),
    state.calls[other]? = some phase → other ≠ index → phase.active = false

theorem idle (rotated : Rotated login trace state) {index : Nat}
    {phase : RefreshPhase} (found : state.calls[index]? = some phase)
    (active : phase.active = true) : Idle state index := by
  intro other right placed different
  cases passed : right.active with
  | false => rfl
  | true =>
      have same : other = index :=
        rotated.single _ _ _ _ placed found passed active
      exact absurd same different

theorem fits_of_inactive {phase : RefreshPhase}
    (inactive : phase.active = false) (trace : List Exchange)
    (state : Refreshes) : phase.Fits trace state := by
  cases phase with
  | reading => trivial
  | done => trivial
  | generating | writing | written => cases inactive

theorem placed_set {calls : List RefreshPhase} {index other : Nat}
    {phase placed : RefreshPhase}
    (found : (calls.set index phase)[other]? = some placed) :
    other = index ∧ placed = phase ∨
      other ≠ index ∧ calls[other]? = some placed := by
  by_cases same : other = index
  · subst same
    rw [List.getElem?_set_self'] at found
    obtain ⟨_, -, rfl⟩ := Option.map_eq_some_iff.mp found
    exact Or.inl ⟨rfl, rfl⟩
  · rw [List.getElem?_set_ne (Ne.symm same)] at found
    exact Or.inr ⟨same, found⟩

/-- The only call that may be active goes on. -/
theorem replace {index : Nat} {phase : RefreshPhase}
    {later : List Exchange} (idle : Idle state index)
    (calls : next.calls = state.calls.set index phase)
    (spent : Spent login later next) (fits : phase.Fits later next)
    (latest : next.Quiet → next.stored = lastReturned login later) :
    Rotated login later next := by
  constructor
  case spent => exact spent
  case latest => exact latest
  case single =>
    intro first second left right one two leftActive rightActive
    rw [calls] at one two
    have only : ∀ {place : Nat} {member : RefreshPhase},
        (state.calls.set index phase)[place]? = some member →
        member.active = true → place = index := by
      intro place member found active
      rcases placed_set found with ⟨same, -⟩ | ⟨different, old⟩
      · exact same
      · rw [idle _ _ old different] at active
        cases active
    rw [only one leftActive, only two rightActive]
  case fits =>
    intro place member found
    rw [calls] at found
    rcases placed_set found with ⟨-, rfl⟩ | ⟨different, old⟩
    · exact fits
    · exact fits_of_inactive (idle _ _ old different) _ _

/-- A call that has not passed the comparison, or is over, changes nothing
for the others. -/
theorem settle (rotated : Rotated login trace state) {index : Nat}
    {phase : RefreshPhase}
    (inactive : phase.active = false)
    (quiet : (state.calls[index]?).map RefreshPhase.waits ≠ some true) :
    Rotated login trace (state.setPhase index phase) := by
  constructor
  case spent => exact ⟨rotated.spent.known, rotated.spent.once,
    rotated.spent.unspent, rotated.spent.stored, rotated.spent.nonempty⟩
  case single =>
    intro first second left right one two leftActive rightActive
    rcases placed_set one with ⟨-, rfl⟩ | ⟨-, old⟩
    · rw [inactive] at leftActive
      cases leftActive
    · rcases placed_set two with ⟨-, rfl⟩ | ⟨-, older⟩
      · rw [inactive] at rightActive
        cases rightActive
      · exact rotated.single _ _ _ _ old older leftActive rightActive
  case fits =>
    intro place member found
    rcases placed_set found with ⟨-, rfl⟩ | ⟨-, old⟩
    · exact fits_of_inactive inactive _ _
    · have kept := rotated.fits _ _ old
      cases member with
      | reading | generating | writing | written | done => exact kept
  case latest =>
    intro silent
    apply rotated.latest
    intro member listed
    obtain ⟨place, found⟩ := List.getElem?_of_mem listed
    by_cases same : place = index
    · rw [same] at found
      rw [found] at quiet
      cases waits : member.waits with
      | false => rfl
      | true => exact absurd (congrArg some waits) quiet
    · apply silent
      apply List.mem_of_getElem?
      rw [Refreshes.setPhase, List.getElem?_set_ne (Ne.symm same)]
      exact found

theorem start (login : Option Generated) :
    Rotated login [] (Refreshes.start login) := by
  constructor
  case spent =>
    constructor
    · intro exchange member
      cases member
    · exact List.nodup_nil
    · intro exchange member
      cases member
    · intro token stored
      exact Option.mem_toList.mpr stored
    · intro token member
      obtain ⟨generated, -, rfl⟩ :=
        Option.map_eq_some_iff.mp (Option.mem_toList.mp member)
      exact generateRefreshToken_ne generated.random
  case single =>
    intro first second left right one
    cases one
  case fits =>
    intro index phase found
    cases found
  case latest => exact fun _ => rfl

theorem call (rotated : Rotated login trace state) (presented : String) :
    Rotated login trace
      { state with calls := state.calls ++ [.reading presented] } := by
  have placed : ∀ {place : Nat} {member : RefreshPhase},
      (state.calls ++ [.reading presented])[place]? = some member →
      state.calls[place]? = some member ∨ member = .reading presented := by
    intro place member found
    rw [List.getElem?_append] at found
    split at found
    · exact Or.inl found
    · right
      exact List.mem_singleton.mp (List.mem_of_getElem? found)
  constructor
  case spent => exact ⟨rotated.spent.known, rotated.spent.once,
    rotated.spent.unspent, rotated.spent.stored, rotated.spent.nonempty⟩
  case single =>
    intro first second left right one two leftActive rightActive
    rcases placed one with old | rfl
    · rcases placed two with older | rfl
      · exact rotated.single _ _ _ _ old older leftActive rightActive
      · cases rightActive
    · cases leftActive
  case fits =>
    intro place member found
    rcases placed found with old | rfl
    · have kept := rotated.fits _ _ old
      cases member with
      | reading | generating | writing | written | done => exact kept
    · trivial
  case latest =>
    intro silent
    apply rotated.latest
    intro member listed
    exact silent member (List.mem_append_left _ listed)

theorem not_quiet {index : Nat} {phase : RefreshPhase}
    (found : state.calls[index]? = some phase) (waits : phase.waits = true) :
    ¬ state.Quiet := by
  intro quiet
  have silent := quiet phase (List.mem_of_getElem? found)
  rw [waits] at silent
  cases silent

theorem Spent.retrieved (spent : Spent login trace state) :
    state.retrieved ∈ state.issued ∨ state.retrieved = "" := by
  unfold Refreshes.retrieved
  cases stored : state.stored with
  | none => exact Or.inr rfl
  | some token => exact Or.inl (spent.stored token stored)

theorem pass (rotated : Rotated login trace state) (index : Nat)
    (alone : ∀ phase ∈ state.calls, phase.active = false) :
    Rotated login trace
      (state.setPhase index (.generating state.retrieved)) := by
  have idle : Idle state index := by
    intro other phase placed _
    exact alone phase (List.mem_of_getElem? placed)
  apply replace idle rfl
  case spent => exact ⟨rotated.spent.known, rotated.spent.once,
    rotated.spent.unspent, rotated.spent.stored, rotated.spent.nonempty⟩
  case fits => exact (rfl : state.retrieved = state.retrieved)
  case latest =>
    intro _
    apply rotated.latest
    intro phase member
    have inactive := alone phase member
    cases phase with
    | written => cases inactive
    | reading | generating | writing | done => rfl

theorem generate (rotated : Rotated login trace state) {index : Nat}
    {presented : String} (generated : Generated)
    (found : state.calls[index]? = some (.generating presented))
    (fresh : (generateToken generated).2 ∉ state.issued) :
    Rotated login trace
      { state.setPhase index (.writing presented (generateToken generated))
        with issued := (generateToken generated).2 :: state.issued } := by
  have worth := rotated.fits _ _ found
  have filled : (generateToken generated).2 ≠ "" :=
    generateRefreshToken_ne generated.random
  have unknown : ∀ text, text ∈ state.issued ∨ text = "" →
      text ≠ (generateToken generated).2 := by
    rintro text (member | rfl) same
    · exact fresh (same ▸ member)
    · exact filled same.symm
  have idle := rotated.idle found rfl
  apply replace idle rfl
  case spent =>
    constructor
    · intro exchange member
      exact (rotated.spent.known exchange member).imp
        (List.mem_cons_of_mem _) id
    · exact rotated.spent.once
    · exact rotated.spent.unspent
    · intro token stored
      exact List.mem_cons_of_mem _ (rotated.spent.stored token stored)
    · intro token member
      rcases List.mem_cons.mp member with rfl | old
      · exact filled
      · exact rotated.spent.nonempty token old
  case fits =>
    refine ⟨worth, ?_, List.mem_cons_self, ?_⟩
    · exact (unknown _ (Spent.retrieved rotated.spent)).symm
    · intro exchange member
      exact unknown _ (rotated.spent.known exchange member)
  case latest =>
    intro quiet
    apply rotated.latest
    intro phase member
    obtain ⟨place, placed⟩ := List.getElem?_of_mem member
    by_cases same : place = index
    · rw [same, found] at placed
      cases placed
      rfl
    · have inactive := idle _ _ placed same
      cases phase with
      | written => cases inactive
      | reading | generating | writing | done => rfl

theorem write (rotated : Rotated login trace state) {index : Nat}
    {presented : String} {tokens : String × String}
    (found : state.calls[index]? = some (.writing presented tokens)) :
    Rotated login trace
      { state.setPhase index (.written presented tokens) with
        stored := some tokens.2 } := by
  obtain ⟨worth, different, issued, unused⟩ := rotated.fits _ _ found
  apply replace (rotated.idle found rfl) rfl
  case spent =>
    constructor
    · exact rotated.spent.known
    · exact rotated.spent.once
    · exact unused
    · intro token stored
      cases stored
      exact issued
    · exact rotated.spent.nonempty
  case fits =>
    refine ⟨rfl, ?_, ?_, ?_⟩
    · rw [worth]
      exact different.symm
    · rw [worth]
      exact Spent.retrieved rotated.spent
    · rw [worth]
      exact rotated.spent.unspent
  case latest =>
    intro quiet
    have within : index < state.calls.length :=
      (List.getElem?_eq_some_iff.mp found).1
    have placed : (state.calls.set index (.written presented tokens))[index]? =
        some (.written presented tokens) := List.getElem?_set_self within
    exact absurd quiet (not_quiet placed rfl)

theorem lastReturned_append (login : Option Generated)
    (trace : List Exchange) (exchange : Exchange) :
    lastReturned login (trace ++ [exchange]) = some exchange.tokens.2 := by
  rw [lastReturned, List.getLast?_append]
  rfl

theorem answer (rotated : Rotated login trace state) {index : Nat}
    {presented : String} {tokens : String × String}
    (found : state.calls[index]? = some (.written presented tokens)) :
    Rotated login (trace ++ [⟨presented, tokens⟩])
      (state.setPhase index .done) := by
  obtain ⟨stored, different, issued, unused⟩ := rotated.fits _ _ found
  have retrieved : state.retrieved = tokens.2 := by
    rw [Refreshes.retrieved, stored]
    rfl
  apply replace (rotated.idle found rfl) rfl
  case spent =>
    constructor
    · intro exchange member
      rcases List.mem_append.mp member with old | new
      · exact rotated.spent.known exchange old
      · rw [List.mem_singleton.mp new]
        exact issued
    · rw [List.map_append, List.nodup_append]
      refine ⟨rotated.spent.once, List.nodup_singleton _, ?_⟩
      intro old member new last same
      obtain ⟨exchange, listed, rfl⟩ := List.mem_map.mp member
      rw [List.mem_singleton.mp last] at same
      exact unused exchange listed same
    · intro exchange member
      rcases List.mem_append.mp member with old | new
      · exact rotated.spent.unspent exchange old
      · rw [List.mem_singleton.mp new]
        change presented ≠ state.retrieved
        rw [retrieved]
        exact different
    · exact rotated.spent.stored
    · exact rotated.spent.nonempty
  case fits => trivial
  case latest =>
    intro _
    rw [lastReturned_append]
    exact stored

theorem step {events : List Exchange} {action : RefreshAction}
    (rotated : Rotated login trace state)
    (alone : state.Alone action)
    (stepped : Refreshes.step state action = some (next, events)) :
    Rotated login (trace ++ events) next := by
  cases action with
  | call presented =>
      cases stepped
      rw [List.append_nil]
      exact rotated.call presented
  | read index =>
      simp only [Refreshes.step] at stepped
      split at stepped
      · rename_i presented found
        have quiet : (state.calls[index]?).map RefreshPhase.waits ≠
            some true := by
          rw [found]
          intro waits
          cases waits
        split at stepped
        · cases stepped
          rw [List.append_nil]
          exact rotated.settle rfl quiet
        · rename_i same
          cases stepped
          rw [List.append_nil]
          rw [ne_eq, not_not] at same
          rw [← same] at found ⊢
          exact rotated.pass index (alone found)
      · cases stepped
  | readFails index =>
      simp only [Refreshes.step] at stepped
      split at stepped
      · rename_i presented found
        cases stepped
        rw [List.append_nil]
        apply rotated.settle rfl
        rw [found]
        intro waits
        cases waits
      · cases stepped
  | generate index generated =>
      simp only [Refreshes.step] at stepped
      split at stepped
      · rename_i presented found
        split at stepped
        · cases stepped
        · rename_i fresh
          cases stepped
          rw [List.append_nil]
          exact rotated.generate generated found fresh
      · cases stepped
  | write index =>
      simp only [Refreshes.step] at stepped
      split at stepped
      · rename_i presented tokens found
        cases stepped
        rw [List.append_nil]
        exact rotated.write found
      · cases stepped
  | writeFails index =>
      simp only [Refreshes.step] at stepped
      split at stepped
      · cases stepped
        rw [List.append_nil]
        exact rotated.settle rfl alone
      · cases stepped
        rw [List.append_nil]
        exact rotated.settle rfl alone
      · cases stepped
  | answer index =>
      simp only [Refreshes.step] at stepped
      split at stepped
      · rename_i presented tokens found
        cases stepped
        exact rotated.answer found
      · cases stepped

end Rotated

section

variable {login : Option Generated} {trace : List Exchange}
  {state : Refreshes}

end

/-- Different tokens for the fixed inputs below. -/
def numbered (number : UInt8) : Generated where
  accessToken := "access"
  random := Vector.replicate 24 number

end Auth

end TinyChat
