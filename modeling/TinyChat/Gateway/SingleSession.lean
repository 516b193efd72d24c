import TinyChat.Gateway.LoginTables

/-!
# A completed login leaves no reader of the session that it kicked off

A login that finds another session asks its gateway to cancel the reader.
The gateway takes the absence of a reader for the end of the session, but the
login lock is released before the reader is created.
-/

namespace TinyChat

namespace Gateway

open Redis Transition

namespace LoginPhase

/-- The gateway on which the login waits for the end of the former
session. -/
def target (gateway : Nat) : LoginPhase → Option Nat
  | .kicking addr => some addr
  | .askingHere | .waiting => some gateway
  | _ => none

/-- The login takes the former session for ended. -/
def cleared : LoginPhase → Bool
  | .acked | .activating | .greeting | .taking => true
  | _ => false

/-- The login has not looked for a former session. -/
def unasked : LoginPhase → Bool
  | .absent | .upgrading | .checking => true
  | _ => false

end LoginPhase

namespace Logins

/-- A kick finds no reader only where no other session is registered, the
push service finds the address of the former session as long as that is not
gone, and the lock is removed only for its holder. -/
def KicksReach (system : Logins) : LoginsAction → Prop
  | .deleteLock => False
  | .kick index =>
      match (system.logins index).kick with
      | none => True
      | some addr =>
          (system.gateways addr).task = none →
            (system.gateways addr).session = none ∨
              (system.gateways addr).session = some index
  | .lookup index =>
      match (system.logins index).former with
      | none => True
      | some former =>
          system.field = some (system.logins former).gateway ∨
            (system.logins former).phase.gone = true
  | _ => True

instance (system : Logins) : ∀ action, Decidable (system.KicksReach action)
  | .deleteLock => .isFalse id
  | .kick index =>
      match found : (system.logins index).kick with
      | none => .isTrue (by simp only [KicksReach, found])
      | some addr =>
          decidable_of_iff ((system.gateways addr).task = none →
            (system.gateways addr).session = none ∨
              (system.gateways addr).session = some index)
            (by simp only [KicksReach, found])
  | .lookup index =>
      match found : (system.logins index).former with
      | none => .isTrue (by simp only [KicksReach, found])
      | some former =>
          decidable_of_iff
            (system.field = some (system.logins former).gateway ∨
              (system.logins former).phase.gone = true)
            (by simp only [KicksReach, found])
  | .begin _ _ => .isTrue trivial
  | .upgraded _ => .isTrue trivial
  | .fail _ => .isTrue trivial
  | .checked _ => .isTrue trivial
  | .kickHere _ => .isTrue trivial
  | .recycled _ => .isTrue trivial
  | .unsent _ => .isTrue trivial
  | .move _ _ => .isTrue trivial
  | .execute _ _ => .isTrue trivial
  | .rollback _ => .isTrue trivial
  | .release _ => .isTrue trivial
  | .start _ => .isTrue trivial
  | .finish _ _ => .isTrue trivial
  | .callbacks _ => .isTrue trivial
  | .expire _ => .isTrue trivial

/-- What is known of the session that a login found. -/
structure Succession (system : Logins) : Prop where
  unasked : ∀ index, (system.logins index).phase.unasked = true →
    (system.logins index).former = none ∧
      (system.logins index).completed = false
  past : ∀ index former, (system.logins index).former = some former →
    former ≠ index ∧ (system.logins former).phase ≠ .absent ∧
      (system.logins former).phase.inBody = false
  target : ∀ index former addr,
    (system.logins index).former = some former →
    (system.logins index).phase.target (system.logins index).gateway =
      some addr →
    (system.logins former).phase.gone = true ∨
      (system.logins former).gateway = addr
  cleared : ∀ index former, (system.logins index).former = some former →
    (system.logins index).phase.cleared = true ∨
      (system.logins index).completed = true →
    (system.logins former).phase.gone = true

end Logins

/-- A change of a login that has no bearing on its former session. -/
structure Login.Quiet (before after : Login) : Prop where
  former : after.former = before.former
  unasked : after.phase.unasked = true →
    before.phase.unasked = true ∧ after.completed = before.completed
  target : ∀ addr, after.phase.target after.gateway = some addr →
    before.phase.target before.gateway = some addr
  cleared : after.phase.cleared = true ∨ after.completed = true →
    before.phase.cleared = true ∨ before.completed = true

namespace Login

variable {before after : Login}

theorem Quiet.of_idle (former : after.former = before.former)
    (completed : after.completed = before.completed)
    (asked : after.phase.unasked = false)
    (aimless : after.phase.target after.gateway = none)
    (uncleared : after.phase.cleared = false) : before.Quiet after := by
  refine ⟨former, ?_, ?_, ?_⟩
  · intro early
    rw [asked] at early
    cases early
  · intro addr aimed
    rw [aimless] at aimed
    cases aimed
  · rintro (done | done)
    · rw [uncleared] at done
      cases done
    · rw [completed] at done
      exact Or.inr done

theorem Quiet.of_cleared (former : after.former = before.former)
    (cleared : before.phase.cleared = true)
    (asked : after.phase.unasked = false)
    (aimless : after.phase.target after.gateway = none) :
    before.Quiet after := by
  refine ⟨former, ?_, ?_, fun _ => Or.inl cleared⟩
  · intro early
    rw [asked] at early
    cases early
  · intro addr aimed
    rw [aimless] at aimed
    cases aimed

theorem Quiet.of_phase (former : after.former = before.former)
    (gateway : after.gateway = before.gateway)
    (phase : after.phase = before.phase)
    (completed : after.completed = before.completed) :
    before.Quiet after := by
  refine ⟨former, ?_, ?_, ?_⟩
  · rw [phase]
    exact fun early => ⟨early, completed⟩
  · rw [phase, gateway]
    exact fun _ => id
  · rw [phase, completed]
    exact id

theorem withTask_quiet (login : Login) (task : RedisTask)
    (command : FieldCommand) : login.Quiet (login.withTask task command) := by
  apply Quiet.of_phase
  · cases command <;> rfl
  · exact withTask_gateway ..
  · exact withTask_phase ..
  · cases command <;> rfl

theorem Moved.quiet {move : LoginMove} (moved : Moved before move after) :
    before.Quiet after := by
  cases moved with
  | confirm phase => exact .of_idle rfl rfl rfl rfl rfl
  | activate phase => exact .of_cleared rfl (by rw [phase]; rfl) rfl rfl
  | activated phase stored =>
      exact .of_cleared rfl (by rw [phase]; rfl) rfl rfl
  | greeted phase => exact .of_cleared rfl (by rw [phase]; rfl) rfl rfl
  | withdrawn phase issued origin => exact .of_idle rfl rfl rfl rfl rfl
  | taken phase => exact .of_cleared rfl (by rw [phase]; rfl) rfl rfl
  | quit phase => exact .of_idle rfl rfl rfl rfl rfl
  | closed phase => exact .of_idle rfl rfl rfl rfl rfl
  | kept phase other => exact .of_idle rfl rfl rfl rfl rfl
  | deactivated phase issued origin => exact .of_idle rfl rfl rfl rfl rfl
  | task present changed => exact withTask_quiet ..

end Login

namespace Logins

variable {system next : Logins} {action : LoginsAction} {index : Nat}
  {login : Login}

theorem KicksReach.lookup (reach : system.KicksReach (.lookup index))
    {former : Nat} (found : (system.logins index).former = some former) :
    system.field = some (system.logins former).gateway ∨
      (system.logins former).phase.gone = true := by
  simpa only [KicksReach, found] using reach

theorem Succession.change (succession : Succession system)
    (later : ∀ other, (system.logins other).Later (next.logins other))
    (changes : Changes system.logins next.logins index login)
    (unasked : login.phase.unasked = true →
      login.former = none ∧ login.completed = false)
    (past : ∀ former, login.former = some former →
      former ≠ index ∧ (system.logins former).phase ≠ .absent ∧
        (system.logins former).phase.inBody = false)
    (target : ∀ former addr, login.former = some former →
      login.phase.target login.gateway = some addr →
      (system.logins former).phase.gone = true ∨
        (system.logins former).gateway = addr)
    (cleared : ∀ former, login.former = some former →
      login.phase.cleared = true ∨ login.completed = true →
      (system.logins former).phase.gone = true) :
    Succession next := by
  have own := changes.own
  have others {other : Nat} (different : other ≠ index) :=
    changes.others other different
  have before : ∀ other former,
      (next.logins other).former = some former →
        former ≠ other ∧ (system.logins former).phase ≠ .absent ∧
          (system.logins former).phase.inBody = false := by
    intro other former found
    by_cases same : other = index
    · subst same
      rw [own] at found
      exact past former found
    · rw [others same] at found
      exact succession.past other former found
  constructor
  · intro other early
    by_cases same : other = index
    · subst same
      rw [own] at early ⊢
      exact unasked early
    · rw [others same] at early ⊢
      exact succession.unasked other early
  · intro other former found
    obtain ⟨different, begun, outside⟩ := before other former found
    exact ⟨different, (later former).past begun outside⟩
  · intro other former addr found aimed
    have begun := (before other former found).2.1
    rw [(later former).gateway begun]
    have earlier : (system.logins former).phase.gone = true ∨
        (system.logins former).gateway = addr := by
      by_cases same : other = index
      · subst same
        rw [own] at found aimed
        exact target former addr found aimed
      · rw [others same] at found aimed
        exact succession.target other former addr found aimed
    exact earlier.imp_left (later former).gone
  · intro other former found done
    apply (later former).gone
    by_cases same : other = index
    · subst same
      rw [own] at found done
      exact cleared former found done
    · rw [others same] at found done
      exact succession.cleared other former found done

theorem Succession.quiet (succession : Succession system)
    (later : ∀ other, (system.logins other).Later (next.logins other))
    (changes : Changes system.logins next.logins index login)
    (quiet : (system.logins index).Quiet login) :
    Succession next := by
  apply succession.change later changes
  · intro early
    obtain ⟨before, completed⟩ := quiet.unasked early
    rw [quiet.former, completed]
    exact succession.unasked index before
  · intro former found
    rw [quiet.former] at found
    exact succession.past index former found
  · intro former addr found aimed
    rw [quiet.former] at found
    exact succession.target index former addr found (quiet.target addr aimed)
  · intro former found done
    rw [quiet.former] at found
    exact succession.cleared index former found (quiet.cleared done)

/-- A login that has left the body and is not in the session table of its
gateway is gone. -/
theorem gone_of_unlisted (coherent : Coherent system) {former : Nat}
    (begun : (system.logins former).phase ≠ .absent)
    (outside : (system.logins former).phase.inBody = false)
    (unlisted : (system.tablesOf former).session ≠ some former) :
    (system.logins former).phase.gone = true := by
  apply LoginPhase.gone_of_unregistered begun outside
  rw [← Bool.not_eq_true]
  exact fun registered => unlisted (coherent.session_eq registered)

/-- Where no session but its own is registered, the former session of a login
is gone. -/
theorem Succession.gone_of_target (succession : Succession system)
    (coherent : Coherent system) {former addr : Nat}
    (found : (system.logins index).former = some former)
    (aimed : (system.logins index).phase.target
      (system.logins index).gateway = some addr)
    (alone : ∀ other, (system.gateways addr).session = some other →
      other = index) :
    (system.logins former).phase.gone = true := by
  obtain ⟨different, begun, outside⟩ := succession.past index former found
  rcases succession.target index former addr found aimed with gone | home
  · exact gone
  · apply gone_of_unlisted coherent begun outside
    intro listed
    unfold tablesOf at listed
    rw [home] at listed
    exact different (alone former listed)

theorem past_of_listed (coherent : Coherent system) {addr former : Nat}
    (inside : (system.logins index).phase.inBody = true)
    (listed : (system.gateways addr).session = some former)
    (different : former ≠ index) :
    former ≠ index ∧ (system.logins former).phase ≠ .absent ∧
      (system.logins former).phase.inBody = false := by
  obtain ⟨_, registered⟩ := (coherent.listed addr former).mp listed
  refine ⟨different, ?_, ?_⟩
  · intro absent
    rw [absent] at registered
    cases registered
  · rw [← Bool.not_eq_true]
    intro other
    have held := coherent.inside index inside
    rw [coherent.inside former other] at held
    exact different (Option.some.inj held)

/-- The login takes its former session for ended, because where it waits no
other session is registered. -/
theorem Succession.clears (succession : Succession system)
    (coherent : Coherent system)
    (later : ∀ other, (system.logins other).Later (next.logins other))
    (changes : Changes system.logins next.logins index login) {addr : Nat}
    (aimed : (system.logins index).phase.target
      (system.logins index).gateway = some addr)
    (alone : ∀ other, (system.gateways addr).session = some other →
      other = index)
    (same : login.former = (system.logins index).former)
    (asked : login.phase.unasked = false)
    (aimless : login.phase.target login.gateway = none) :
    Succession next := by
  refine succession.change later changes ?_ ?_ ?_ ?_
  · intro early
    rw [asked] at early
    cases early
  · rw [same]
    exact succession.past index
  · intro _ _ _ target
    rw [aimless] at target
    cases target
  · rw [same]
    intro former found _
    exact succession.gone_of_target coherent found aimed alone

theorem KicksReach.alone (reach : system.KicksReach (.kick index))
    {addr : Nat} (sent : (system.logins index).kick = some addr)
    (unstarted : (system.gateways addr).task = none) (other : Nat)
    (listed : (system.gateways addr).session = some other) :
    other = index := by
  simp only [KicksReach, sent] at reach
  rcases reach unstarted with empty | own
  · rw [empty] at listed
    cases listed
  · rw [own] at listed
    exact (Option.some.inj listed).symm

theorem Succession.finds (succession : Succession system)
    (coherent : Coherent system)
    (later : ∀ other, (system.logins other).Later (next.logins other))
    {found : Nat} (phase : (system.logins index).phase = .upgrading)
    (listed : (system.tablesOf index).session = some found)
    (changes : Changes system.logins next.logins index
      { system.logins index with
        phase := .askingHere
        former := some found }) : Succession next := by
  have inside : (system.logins index).phase.inBody = true := by
    rw [phase]
    rfl
  have different : found ≠ index := by
    rintro rfl
    exact coherent.unlisted (by rw [phase]; rfl) listed
  obtain ⟨_, incomplete⟩ := succession.unasked index (by rw [phase]; rfl)
  refine succession.change later changes nofun ?_ ?_ ?_
  · rintro former ⟨⟩
    exact past_of_listed coherent inside listed different
  · rintro former addr ⟨⟩ ⟨⟩
    exact Or.inr ((coherent.listed _ found).mp listed).1
  · rintro former ⟨⟩ (done | done)
    · cases done
    · rw [incomplete] at done
      cases done

theorem Succession.stepped (succession : Succession system)
    (coherent : Coherent system) (reach : system.KicksReach action)
    (stepped : Stepped system action next) : Succession next := by
  have later := stepped.later
  cases stepped with
  | begin absent free =>
      exact succession.change later (changes_update _ _ _)
        (fun _ => ⟨rfl, rfl⟩) nofun nofun nofun
  | deleteLock => exact reach.elim
  | registers phase free =>
      refine succession.quiet later (changes_update _ _ _) ?_
      refine ⟨rfl, fun _ => ⟨?_, rfl⟩, nofun, ?_⟩
      · rw [phase]
        rfl
      · exact fun done => Or.inr (done.resolve_left nofun)
  | finds phase listed =>
      exact succession.finds coherent later phase listed
        (changes_update _ _ _)
  | failsEarly phase =>
      exact succession.quiet later (changes_update _ _ _)
        (.of_idle rfl rfl rfl rfl rfl)
  | failsWaiting phase =>
      exact succession.quiet later (changes_update _ _ _)
        (.of_idle rfl rfl rfl rfl rfl)
  | failsRegistered recycles =>
      exact succession.quiet later (changes_update _ _ _)
        (.of_idle rfl rfl rfl rfl rfl)
  | failsTaking phase =>
      exact succession.quiet later (changes_update _ _ _)
        (.of_idle rfl rfl rfl rfl rfl)
  | @checkedFree index phase free =>
      obtain ⟨none, _⟩ := succession.unasked index (by rw [phase]; rfl)
      have never : ∀ former, (system.logins index).former ≠ some former := by
        rw [none]
        nofun
      refine succession.change later (changes_update _ _ _) nofun ?_ nofun ?_
      · exact fun former found => absurd found (never former)
      · exact fun former found => absurd found (never former)
  | @checkedFound index addr phase found =>
      have inside : (system.logins index).phase.inBody = true := by
        rw [phase]
        rfl
      obtain ⟨_, incomplete⟩ := succession.unasked index (by rw [phase]; rfl)
      refine succession.change later (changes_update _ _ _) nofun ?_ nofun ?_
      · intro former filtered
        obtain ⟨listed, different⟩ := Option.filter_eq_some_iff.mp filtered
        exact past_of_listed coherent inside listed
          (of_decide_eq_true different)
      · rintro former _ (done | done)
        · cases done
        · rw [incomplete] at done
          cases done
  | kickHereGone phase free =>
      exact succession.quiet later (changes_update _ _ _)
        (.of_idle rfl rfl rfl rfl rfl)
  | kickHere phase found =>
      refine succession.quiet later (changes_update _ _ _) ?_
      refine ⟨rfl, nofun, ?_, ?_⟩
      · rw [phase]
        exact fun addr aimed => aimed
      · exact fun done => Or.inr (done.resolve_left nofun)
  | @lookupGone index phase free =>
      refine succession.change later (changes_update _ _ _) nofun
        (succession.past index) nofun ?_
      intro former found _
      rcases reach.lookup found with home | gone
      · rw [free] at home
        cases home
      · exact gone
  | @lookup index addr phase found =>
      refine succession.change later (changes_update _ _ _) nofun
        (succession.past index) ?_ ?_
      · rintro former target former_eq ⟨⟩
        rcases reach.lookup former_eq with home | gone
        · exact Or.inr (Option.some.inj (home.symm.trans found))
        · exact Or.inl gone
      · rintro former found (done | done)
        · cases done
        · exact succession.cleared index former found (Or.inr done)
  | kickAcked sent unstarted phase =>
      exact succession.clears coherent later (changes_update _ _ _)
        (by rw [phase]; rfl) (reach.alone sent unstarted) rfl rfl rfl
  | kickVain sent =>
      exact succession.quiet later (changes_update _ _ _)
        (.of_phase rfl rfl rfl rfl)
  | kick sent running found =>
      exact succession.quiet later (changes_update _ _ _)
        (.of_phase rfl rfl rfl rfl)
  | takes phase told =>
      exact succession.clears coherent later (changes_update _ _ _)
        (by rw [phase]; rfl)
        (coherent.resolved _ _ told (by rw [phase]; rfl)) rfl rfl rfl
  | acked phase told =>
      exact succession.clears coherent later (changes_update _ _ _)
        (by rw [phase]; rfl)
        (coherent.resolved _ _ told (by rw [phase]; rfl)) rfl rfl rfl
  | unsent phase =>
      exact succession.quiet later (changes_update _ _ _)
        (.of_idle rfl rfl rfl rfl rfl)
  | move moved =>
      exact succession.quiet later (changes_update _ _ _) moved.quiet
  | hset present sent =>
      exact succession.quiet later (changes_update _ _ _)
        (.of_phase rfl rfl rfl rfl)
  | hdel different present sent =>
      exact succession.quiet later (changes_update _ _ _)
        (Login.withTask_quiet ..)
  | rollback owed =>
      exact succession.quiet later (changes_update _ _ _)
        (.of_phase rfl rfl rfl rfl)
  | release held outside =>
      exact ⟨succession.unasked, succession.past, succession.target,
        succession.cleared⟩
  | start phase =>
      exact succession.quiet later (changes_update _ _ _)
        (.of_idle rfl rfl rfl rfl rfl)
  | finish phase agreed =>
      exact succession.quiet later (changes_update _ _ _)
        (.of_idle rfl rfl rfl rfl rfl)
  | callbacks phase =>
      exact succession.quiet later (changes_update _ _ _)
        (.of_idle rfl rfl rfl rfl rfl)
  | expire =>
      exact ⟨succession.unasked, succession.past, succession.target,
        succession.cleared⟩

theorem KicksReach.lawful (reach : system.KicksReach action) :
    action ≠ .deleteLock := by
  rintro rfl
  exact reach

/-- The `HSET` of a login is executed, and the client is greeted. -/
def announces (index : Nat) : List LoginsAction :=
  [.move index (.task .hset .take), .execute index .hset,
    .move index (.task .hset .reply), .move index .activated,
    .move index .greeted, .release index]

end Logins

end Gateway

end TinyChat
