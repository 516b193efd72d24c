import TinyChat.Gateway.FieldCommands
import TinyChat.Gateway.SingleSession

/-!
# The owner of the field of a device

In every orderly run the field holds the gateway of the login for which its
entry was made, every login that has announced itself and not ended owns the
entry, and a login that is about to announce itself is the only one with a
session.
-/

namespace TinyChat

namespace Gateway

open Redis Transition

/-- What is known of the login for which the entry of the field was made. -/
structure Login.Entry (login : Login) : Prop where
  late : login.phase.early = false
  source : ∀ task, login.hset = some task →
    ∃ reply, task.stage = .executed reply
  present : ∀ command task, command ≠ .hset →
    login.task command = some task → ∀ reply, task.stage ≠ .executed reply
  unrolled : login.rolledBack = false
  sent : login.phase = .activating → login.hset ≠ none

namespace LoginPhase

variable {phase : LoginPhase}

theorem owns_of_registered (registered : phase.registered = true)
    (outside : phase.inBody = false) : phase.owns = true := by
  revert registered outside
  cases phase with
  | leaving success => cases success <;> exact fun registered _ => registered
  | reading => exact fun _ _ => rfl
  | ended cause => exact fun _ _ => rfl
  | _ => nofun

theorem inBody_of_target {gateway addr : Nat}
    (aimed : phase.target gateway = some addr) : phase.inBody = true := by
  revert aimed
  cases phase <;> intro aimed
  all_goals first | rfl | cases aimed

end LoginPhase

namespace Logins

structure Owned (system : Logins) : Prop where
  field : system.field =
    system.owner.map (fun owner => (system.logins owner).gateway)
  entry : ∀ index, system.owner = some index → (system.logins index).Entry
  owns : ∀ index, (system.logins index).phase.owns = true →
    system.owner = some index
  stored : ∀ index task reply,
    (system.logins index).phase = .activating →
    (system.logins index).hset = some task →
    task.stage = .executed reply →
    (system.logins index).rolledBack = false → system.owner = some index

end Logins

/-- A change of a login that has no bearing on the field. -/
structure Login.Passive (before after : Login) : Prop where
  gateway : after.gateway = before.gateway
  hset : after.hset = before.hset
  rolledBack : after.rolledBack = before.rolledBack
  hdel : after.hdel = before.hdel ∨ after.hdel = some {}
  retry : after.retry = before.retry ∨ after.retry = some {}
  late : before.phase.early = false → after.phase.early = false
  owns : after.phase.owns = true → before.phase.owns = true
  activating : after.phase = .activating → before.phase = .activating

namespace Login

variable {before after : Login}

theorem Entry.passive (entry : before.Entry)
    (passive : before.Passive after) : after.Entry := by
  refine ⟨passive.late entry.late, ?_, ?_, ?_, ?_⟩
  · rw [passive.hset]
    exact entry.source
  · intro command task other found reply executed
    cases command with
    | hset => exact other rfl
    | hdel =>
        rcases passive.hdel with same | fresh
        · exact entry.present .hdel task other (same.symm.trans found) reply
            executed
        · cases fresh.symm.trans found
          cases executed
    | retry =>
        rcases passive.retry with same | fresh
        · exact entry.present .retry task other (same.symm.trans found) reply
            executed
        · cases fresh.symm.trans found
          cases executed
  · rw [passive.rolledBack]
    exact entry.unrolled
  · rw [passive.hset]
    exact fun activating => entry.sent (passive.activating activating)

theorem passive_of_unowned (login : Login) {phase : LoginPhase}
    (late : phase.early = false) (unowned : phase.owns = false)
    (inactive : phase ≠ .activating) :
    login.Passive { login with phase := phase } := by
  refine ⟨rfl, rfl, rfl, Or.inl rfl, Or.inl rfl, fun _ => late, ?_, ?_⟩
  · intro owns
    rw [unowned] at owns
    cases owns
  · exact fun activating => absurd activating inactive

theorem Passive.of_owns (owns : before.phase.owns = true)
    (late : after.phase.early = false)
    (inactive : after.phase ≠ .activating)
    (gateway : after.gateway = before.gateway)
    (hset : after.hset = before.hset)
    (rolledBack : after.rolledBack = before.rolledBack)
    (hdel : after.hdel = before.hdel) (retry : after.retry = before.retry) :
    before.Passive after :=
  ⟨gateway, hset, rolledBack, Or.inl hdel, Or.inl retry, fun _ => late,
    fun _ => owns, fun activating => absurd activating inactive⟩

theorem Entry.withTask (entry : before.Entry) {command : FieldCommand}
    {task changed : RedisTask} (found : before.task command = some task)
    (executed : ∀ reply, changed.stage = .executed reply ↔
      task.stage = .executed reply) :
    (before.withTask changed command).Entry := by
  refine ⟨?_, ?_, ?_, ?_, ?_⟩
  · rw [withTask_phase]
    exact entry.late
  · intro other present
    cases command with
    | hset =>
        cases present
        obtain ⟨reply, done⟩ := entry.source task found
        exact ⟨reply, (executed reply).mpr done⟩
    | hdel => exact entry.source other present
    | retry => exact entry.source other present
  · intro named other different present reply done
    by_cases same : named = command
    · subst same
      rw [task_withTask_same] at present
      cases present
      exact entry.present named task different found reply
        ((executed reply).mp done)
    · rw [task_withTask_of_ne _ _ same] at present
      exact entry.present named other different present reply done
  · cases command <;> exact entry.unrolled
  · rw [withTask_phase]
    intro activating
    cases command with
    | hset => nofun
    | hdel => exact entry.sent activating
    | retry => exact entry.sent activating

theorem Sound.issued_of_task (sound : before.Sound) {command : FieldCommand}
    {task : RedisTask} (found : before.task command = some task)
    (different : command ≠ .hset) : before.hdel ≠ none := by
  cases command with
  | hset => exact absurd rfl different
  | hdel => exact Option.ne_none_iff_exists'.mpr ⟨task, found⟩
  | retry =>
      exact sound.retried (Option.ne_none_iff_exists'.mpr ⟨task, found⟩)

theorem Sound.unowned_of_issued (sound : before.Sound)
    (issued : before.hdel ≠ none) :
    before.phase.owns = false ∧ before.phase ≠ .activating := by
  constructor
  · rw [← Bool.not_eq_true]
    intro owns
    obtain ⟨_, present, _, other⟩ := LoginPhase.owns_spec owns
    exact issued (sound.hdel_eq_none present other)
  · intro activating
    refine issued (sound.hdel_eq_none ?_ ?_)
    · rw [activating]
      rfl
    · rw [activating]
      nofun

/-- No move announces a login but the one that comes after the
acknowledgement. -/
theorem Moved.announces {move : LoginMove} (moved : Moved before move after)
    (phase : after.phase = .acked ∨ after.phase = .activating) :
    before.phase = .acked ∨ before.phase = .activating := by
  cases moved with
  | activate acked => exact Or.inl acked
  | task present changed =>
      rw [withTask_phase] at phase
      exact phase
  | _ => exact phase.elim nofun nofun

end Login

namespace Logins

variable {system next : Logins} {action : LoginsAction} {index : Nat}
  {login : Login}

theorem Owned.change (owned : Owned system)
    (field : next.field = system.field) (owner : next.owner = system.owner)
    (changes : Changes system.logins next.logins index login)
    (entry : system.owner = some index →
      login.gateway = (system.logins index).gateway ∧ login.Entry)
    (owns : login.phase.owns = true → system.owner = some index)
    (stored : ∀ task reply, login.phase = .activating →
      login.hset = some task → task.stage = .executed reply →
      login.rolledBack = false → system.owner = some index) :
    Owned next := by
  have own := changes.own
  have others {other : Nat} (different : other ≠ index) :=
    changes.others other different
  constructor
  · rw [field, owner, owned.field]
    cases held : system.owner with
    | none => rfl
    | some holder =>
        simp only [Option.map_some, Option.some.injEq]
        by_cases same : holder = index
        · subst same
          rw [own, (entry held).1]
        · rw [others same]
  · intro other held
    rw [owner] at held
    by_cases same : other = index
    · subst same
      rw [own]
      exact (entry held).2
    · rw [others same]
      exact owned.entry other held
  · intro other holds
    rw [owner]
    by_cases same : other = index
    · subst same
      rw [own] at holds
      exact owns holds
    · rw [others same] at holds
      exact owned.owns other holds
  · intro other task reply activating found executed unrolled
    rw [owner]
    by_cases same : other = index
    · subst same
      rw [own] at activating found unrolled
      exact stored task reply activating found executed unrolled
    · rw [others same] at activating found unrolled
      exact owned.stored other task reply activating found executed unrolled

theorem Owned.passive (owned : Owned system)
    (field : next.field = system.field) (owner : next.owner = system.owner)
    (changes : Changes system.logins next.logins index login)
    (passive : (system.logins index).Passive login) : Owned next := by
  refine owned.change field owner changes ?_ ?_ ?_
  · intro held
    exact ⟨passive.gateway, (owned.entry index held).passive passive⟩
  · exact fun owns => owned.owns index (passive.owns owns)
  · intro task reply activating found executed unrolled
    rw [passive.hset] at found
    rw [passive.rolledBack] at unrolled
    exact owned.stored index task reply (passive.activating activating) found
      executed unrolled

/-- A session of another login owns the entry while a login is in the
body. -/
theorem Owned.owner_of_registered (owned : Owned system)
    (coherent : Coherent system) {other : Nat}
    (inside : (system.logins index).phase.inBody = true)
    (different : other ≠ index)
    (registered : (system.logins other).phase.registered = true) :
    system.owner = some other := by
  have listed := (coherent.listed _ other).mpr ⟨rfl, registered⟩
  have outside := (past_of_listed coherent inside listed different).2.2
  exact owned.owns other
    (LoginPhase.owns_of_registered registered outside)

/-- A login that is about to announce itself is the only one with a session,
and a login that waits for the end of a session waits where it is. -/
structure Cleared (system : Logins) : Prop where
  alone : ∀ index,
    (system.logins index).phase = .acked ∨
      (system.logins index).phase = .activating →
    ∀ other, other ≠ index →
      (system.logins other).phase.registered = false
  aimed : ∀ index addr,
    (system.logins index).phase.target (system.logins index).gateway =
      some addr →
    ∀ other, other ≠ index →
      (system.logins other).phase.registered = true →
      (system.logins other).gateway = addr

theorem Cleared.change (cleared : Cleared system)
    (coherent : Coherent system)
    (later : ∀ other, (system.logins other).Later (next.logins other))
    (changes : Changes system.logins next.logins index login)
    (registers : login.phase.registered = true →
      (system.logins index).phase.registered = true ∨
        (system.logins index).phase.inBody = true)
    (alone : login.phase = .acked ∨ login.phase = .activating →
      ∀ other, other ≠ index →
        (system.logins other).phase.registered = false)
    (aimed : ∀ addr, login.phase.target login.gateway = some addr →
      ∀ other, other ≠ index →
        (system.logins other).phase.registered = true →
        (system.logins other).gateway = addr) :
    Cleared next := by
  have own := changes.own
  have others {other : Nat} (different : other ≠ index) :=
    changes.others other different
  have earlier : ∀ waiting other, waiting ≠ index →
      (system.logins waiting).phase.inBody = true →
      (next.logins other).phase.registered = true →
      (system.logins other).phase.registered = true := by
    intro waiting other different inside registered
    by_cases same : other = index
    · subst same
      rw [own] at registered
      rcases registers registered with before | both
      · exact before
      · have held := coherent.inside waiting inside
        rw [coherent.inside other both] at held
        exact absurd (Option.some.inj held).symm different
    · rwa [others same] at registered
  constructor
  · intro waiting phase other different
    by_cases same : waiting = index
    · subst same
      rw [own] at phase
      rw [others different]
      exact alone phase other different
    · rw [others same] at phase
      have inside : (system.logins waiting).phase.inBody = true := by
        rcases phase with acked | activating
        · rw [acked]
          rfl
        · rw [activating]
          rfl
      rw [← Bool.not_eq_true]
      intro registered
      have before := earlier waiting other same inside registered
      rw [cleared.alone waiting phase other different] at before
      cases before
  · intro waiting addr target other different registered
    by_cases same : waiting = index
    · subst same
      rw [own] at target
      rw [others different] at registered ⊢
      exact aimed addr target other different registered
    · rw [others same] at target
      have before := earlier waiting other same
        (LoginPhase.inBody_of_target target) registered
      have begun : (system.logins other).phase ≠ .absent := by
        intro absent
        rw [absent] at before
        cases before
      rw [(later other).gateway begun]
      exact cleared.aimed waiting addr target other different before

theorem Cleared.quiet (cleared : Cleared system) (coherent : Coherent system)
    (later : ∀ other, (system.logins other).Later (next.logins other))
    (changes : Changes system.logins next.logins index login)
    (registers : login.phase.registered = true →
      (system.logins index).phase.registered = true ∨
        (system.logins index).phase.inBody = true)
    (alone : login.phase = .acked ∨ login.phase = .activating →
      (system.logins index).phase = .acked ∨
        (system.logins index).phase = .activating)
    (aimed : ∀ addr, login.phase.target login.gateway = some addr →
      (system.logins index).phase.target (system.logins index).gateway =
        some addr) : Cleared next :=
  cleared.change coherent later changes registers
    (fun phase => cleared.alone index (alone phase))
    (fun addr target => cleared.aimed index addr (aimed addr target))

/-- A login without a session that waits for nobody. -/
theorem Cleared.withdraw (cleared : Cleared system)
    (coherent : Coherent system)
    (later : ∀ other, (system.logins other).Later (next.logins other))
    (changes : Changes system.logins next.logins index login)
    (unregistered : login.phase.registered = false)
    (idle : login.phase.target login.gateway = none) : Cleared next := by
  refine cleared.change coherent later changes ?_ ?_ ?_
  · intro registered
    rw [unregistered] at registered
    cases registered
  · rintro (acked | activating)
    · rw [acked] at unregistered
      cases unregistered
    · rw [activating] at unregistered
      cases unregistered
  · intro addr aimed
    rw [idle] at aimed
    cases aimed

theorem Cleared.announces (cleared : Cleared system)
    (coherent : Coherent system)
    (later : ∀ other, (system.logins other).Later (next.logins other))
    (changes : Changes system.logins next.logins index login)
    (inside : (system.logins index).phase.inBody = true)
    (alone : ∀ other, other ≠ index →
      (system.logins other).phase.registered = false)
    (idle : login.phase.target login.gateway = none) : Cleared next := by
  refine cleared.change coherent later changes (fun _ => Or.inr inside)
    (fun _ => alone) ?_
  intro addr aimed
  rw [idle] at aimed
  cases aimed

/-- Without an entry there is no other session. -/
theorem Owned.alone_of_free (owned : Owned system)
    (coherent : Coherent system)
    (inside : (system.logins index).phase.inBody = true)
    (free : system.field = none) (other : Nat) (different : other ≠ index) :
    (system.logins other).phase.registered = false := by
  rw [← Bool.not_eq_true]
  intro registered
  have held := owned.owner_of_registered coherent inside different registered
  rw [owned.field, held] at free
  cases free

theorem Cleared.alone_of_target (cleared : Cleared system)
    (coherent : Coherent system) {addr : Nat}
    (aimed : (system.logins index).phase.target
      (system.logins index).gateway = some addr)
    (empty : ∀ other, (system.gateways addr).session = some other →
      other = index) (other : Nat) (different : other ≠ index) :
    (system.logins other).phase.registered = false := by
  rw [← Bool.not_eq_true]
  intro registered
  have home := cleared.aimed index addr aimed other different registered
  exact different
    (empty other ((coherent.listed addr other).mpr ⟨home, registered⟩))

theorem Orderly.kickAcked (orderly : system.Orderly (.kick index))
    {addr : Nat} (sent : (system.logins index).kick = some addr)
    (unstarted : (system.gateways addr).task = none) (other : Nat)
    (listed : (system.gateways addr).session = some other) :
    other = index := by
  simp only [Orderly, sent, unstarted] at orderly
  rcases orderly with empty | own
  · rw [empty] at listed
    cases listed
  · rw [own] at listed
    exact (Option.some.inj listed).symm

theorem Orderly.kick (orderly : system.Orderly (.kick index))
    {addr reader : Nat} (sent : (system.logins index).kick = some addr)
    (running : (system.gateways addr).task = some reader) :
    (system.logins index).phase = .kicking addr := by
  simpa only [Orderly, sent, running] using orderly

theorem Cleared.finds (cleared : Cleared system)
    (coherent : Coherent system) (owned : Owned system)
    (later : ∀ other, (system.logins other).Later (next.logins other))
    {found : Nat} (phase : (system.logins index).phase = .upgrading)
    (listed : (system.tablesOf index).session = some found)
    (changes : Changes system.logins next.logins index
      { system.logins index with
        phase := .askingHere
        former := some found }) : Cleared next := by
  have inside : (system.logins index).phase.inBody = true := by
    rw [phase]
    rfl
  have elsewhere : found ≠ index := by
    rintro rfl
    exact coherent.unlisted (by rw [phase]; rfl) listed
  obtain ⟨home, present⟩ := (coherent.listed _ found).mp listed
  refine cleared.change coherent later changes nofun
    (fun phase => phase.elim nofun nofun) ?_
  rintro addr ⟨⟩ other different registered
  have first := owned.owner_of_registered coherent inside elsewhere present
  have second := owned.owner_of_registered coherent inside different
    registered
  cases first.symm.trans second
  exact home

theorem Cleared.stepped (cleared : Cleared system)
    (coherent : Coherent system) (owned : Owned system)
    (orderly : system.Orderly action)
    (stepped : Stepped system action next) : Cleared next := by
  have later := stepped.later
  cases stepped with
  | begin absent free =>
      exact cleared.withdraw coherent later (changes_update _ _ _) rfl rfl
  | deleteLock => exact orderly.elim
  | registers phase free =>
      refine cleared.change coherent later (changes_update _ _ _)
        (fun _ => Or.inr ?_) (fun phase => phase.elim nofun nofun) nofun
      rw [phase]
      rfl
  | finds phase listed =>
      exact cleared.finds coherent owned later phase listed
        (changes_update _ _ _)
  | failsEarly phase =>
      exact cleared.withdraw coherent later (changes_update _ _ _) rfl rfl
  | failsWaiting phase =>
      exact cleared.withdraw coherent later (changes_update _ _ _) rfl rfl
  | failsRegistered recycles =>
      exact cleared.withdraw coherent later (changes_update _ _ _) rfl rfl
  | failsTaking phase =>
      exact cleared.withdraw coherent later (changes_update _ _ _) rfl rfl
  | @checkedFree index phase free =>
      have inside : (system.logins index).phase.inBody = true := by
        rw [phase]
        rfl
      exact cleared.announces coherent later (changes_update _ _ _) inside
        (owned.alone_of_free coherent inside free) rfl
  | checkedFound phase found =>
      refine cleared.change coherent later (changes_update _ _ _)
        (fun _ => Or.inr ?_) (fun phase => phase.elim nofun nofun) nofun
      rw [phase]
      rfl
  | kickHereGone phase free =>
      exact cleared.withdraw coherent later (changes_update _ _ _) rfl rfl
  | kickHere phase found =>
      refine cleared.quiet coherent later (changes_update _ _ _) nofun
        (fun phase => phase.elim nofun nofun) ?_
      rw [phase]
      exact fun addr aimed => aimed
  | @lookupGone index phase free =>
      have inside : (system.logins index).phase.inBody = true := by
        rw [phase]
        rfl
      exact cleared.announces coherent later (changes_update _ _ _) inside
        (owned.alone_of_free coherent inside free) rfl
  | @lookup index addr phase found =>
      have inside : (system.logins index).phase.inBody = true := by
        rw [phase]
        rfl
      refine cleared.change coherent later (changes_update _ _ _)
        (fun _ => Or.inr inside) (fun phase => phase.elim nofun nofun) ?_
      rintro target ⟨⟩ other different registered
      have held := owned.owner_of_registered coherent inside different
        registered
      rw [owned.field, held] at found
      exact Option.some.inj found
  | kickAcked sent unstarted phase =>
      exact cleared.announces coherent later (changes_update _ _ _)
        (by rw [phase]; rfl)
        (cleared.alone_of_target coherent (by rw [phase]; rfl)
          (orderly.kickAcked sent unstarted)) rfl
  | kickVain sent =>
      exact cleared.quiet coherent later (changes_update _ _ _) Or.inl
        id (fun _ aimed => aimed)
  | kick sent running found =>
      exact cleared.quiet coherent later (changes_update _ _ _) Or.inl
        id (fun _ aimed => aimed)
  | takes phase told =>
      refine cleared.change coherent later (changes_update _ _ _)
        (fun _ => Or.inr ?_) (fun phase => phase.elim nofun nofun) nofun
      rw [phase]
      rfl
  | @acked index addr phase told =>
      have inside : (system.logins index).phase.inBody = true := by
        rw [phase]
        rfl
      exact cleared.announces coherent later (changes_update _ _ _) inside
        (cleared.alone_of_target coherent (by rw [phase]; rfl)
          (coherent.resolved addr index told inside)) rfl
  | unsent phase =>
      exact cleared.withdraw coherent later (changes_update _ _ _) rfl rfl
  | move moved =>
      refine cleared.quiet coherent later (changes_update _ _ _)
        (fun registered => Or.inl ?_) moved.announces moved.quiet.target
      rwa [moved.steady.registered] at registered
  | hset present sent =>
      exact cleared.quiet coherent later (changes_update _ _ _) Or.inl
        id (fun _ aimed => aimed)
  | @hdel index command task reply different present sent =>
      have quiet := (system.logins index).withTask_quiet
        { task with stage := .executed reply } command
      refine cleared.quiet coherent later (changes_update _ _ _) ?_ ?_
        quiet.target
      · rw [Login.withTask_phase]
        exact Or.inl
      · rw [Login.withTask_phase]
        exact id
  | rollback owed =>
      exact cleared.quiet coherent later (changes_update _ _ _) Or.inl
        id (fun _ aimed => aimed)
  | release held outside => exact ⟨cleared.alone, cleared.aimed⟩
  | start phase =>
      refine cleared.change coherent later (changes_update _ _ _)
        (fun _ => Or.inl ?_) (fun phase => phase.elim nofun nofun) nofun
      rw [phase]
      rfl
  | finish phase agreed =>
      refine cleared.change coherent later (changes_update _ _ _)
        (fun _ => Or.inl ?_) (fun phase => phase.elim nofun nofun) nofun
      rw [phase]
      rfl
  | callbacks phase =>
      exact cleared.withdraw coherent later (changes_update _ _ _) rfl rfl
  | expire => exact ⟨cleared.alone, cleared.aimed⟩

theorem Owned.unowned (owned : Owned system)
    (early : (system.logins index).phase.early = true) :
    system.owner ≠ some index := by
  intro held
  have late := (owned.entry index held).late
  rw [early] at late
  cases late

/-- A login goes on before it announces itself. -/
theorem Owned.early (owned : Owned system)
    (early : (system.logins index).phase.early = true)
    (field : next.field = system.field) (owner : next.owner = system.owner)
    (changes : Changes system.logins next.logins index login)
    (unowned : login.phase.owns = false)
    (inactive : login.phase ≠ .activating) : Owned next := by
  refine owned.change field owner changes ?_ ?_ ?_
  · exact fun held => absurd held (owned.unowned early)
  · intro owns
    rw [unowned] at owns
    cases owns
  · exact fun _ _ activating => absurd activating inactive

theorem Owned.activate (owned : Owned system)
    (early : (system.logins index).phase.early = true)
    (field : next.field = system.field) (owner : next.owner = system.owner)
    (changes : Changes system.logins next.logins index login)
    (phase : login.phase = .activating) (hset : login.hset = some {}) :
    Owned next := by
  refine owned.change field owner changes ?_ ?_ ?_
  · exact fun held => absurd held (owned.unowned early)
  · rw [phase]
    nofun
  · intro task reply _ found executed _
    rw [hset] at found
    cases found
    cases executed

theorem Owned.task (owned : Owned system) {command : FieldCommand}
    {task changed : RedisTask}
    (found : (system.logins index).task command = some task)
    (executed : ∀ reply, changed.stage = .executed reply ↔
      task.stage = .executed reply) :
    Owned (system.withLogin index
      ((system.logins index).withTask changed command)) := by
  refine owned.change rfl rfl (changes_update _ _ _) ?_ ?_ ?_
  · intro held
    exact ⟨Login.withTask_gateway ..,
      (owned.entry index held).withTask found executed⟩
  · rw [Login.withTask_phase]
    exact owned.owns index
  · rw [Login.withTask_phase]
    intro other reply activating present done unrolled
    cases command with
    | hset =>
        cases present
        exact owned.stored index task reply activating found
          ((executed reply).mp done) unrolled
    | hdel =>
        exact owned.stored index other reply activating present done unrolled
    | retry =>
        exact owned.stored index other reply activating present done unrolled

theorem Owned.move (owned : Owned system)
    (sound : (system.logins index).Sound) {move : LoginMove}
    (moved : Login.Moved (system.logins index) move login) :
    Owned (system.withLogin index login) := by
  cases moved with
  | confirm phase =>
      exact owned.early (by rw [phase]; rfl) rfl rfl (changes_update _ _ _)
        rfl nofun
  | activate phase =>
      exact owned.activate (by rw [phase]; rfl) rfl rfl (changes_update _ _ _)
        rfl rfl
  | activated phase stored =>
      obtain ⟨task, found⟩ := Login.hset_of_stored stored
      obtain ⟨reply, rfl⟩ := sound.told_of_stored stored found
      have unrolled := sound.unrolled found (fun _ _ => nofun)
      have held := owned.stored index _ reply phase found rfl unrolled
      have entry := owned.entry index held
      refine owned.change rfl rfl (changes_update _ _ _) ?_ (fun _ => held)
        nofun
      exact fun _ =>
        ⟨rfl, rfl, entry.source, entry.present, entry.unrolled, nofun⟩
  | greeted phase =>
      exact owned.passive rfl rfl (changes_update _ _ _)
        (.of_owns (by rw [phase]; rfl) rfl nofun rfl rfl rfl rfl rfl)
  | withdrawn phase issued origin =>
      refine owned.passive rfl rfl (changes_update _ _ _) ?_
      exact ⟨rfl, rfl, rfl, Or.inl rfl, origin, fun _ => rfl, nofun, nofun⟩
  | taken phase =>
      exact owned.passive rfl rfl (changes_update _ _ _)
        (.of_owns (by rw [phase]; rfl) rfl nofun rfl rfl rfl rfl rfl)
  | quit phase =>
      exact owned.passive rfl rfl (changes_update _ _ _)
        (Login.passive_of_unowned _ rfl rfl nofun)
  | closed phase =>
      refine owned.passive rfl rfl (changes_update _ _ _) ?_
      exact ⟨rfl, rfl, rfl, Or.inr rfl, Or.inl rfl, fun _ => rfl, nofun,
        nofun⟩
  | kept phase other =>
      exact owned.passive rfl rfl (changes_update _ _ _)
        (Login.passive_of_unowned _ rfl rfl nofun)
  | deactivated phase issued origin =>
      refine owned.passive rfl rfl (changes_update _ _ _) ?_
      exact ⟨rfl, rfl, rfl, Or.inl rfl, origin, fun _ => rfl, nofun, nofun⟩
  | task present changed =>
      exact owned.task present (fun _ => changed.executed_iff)

theorem Owned.acquire (owned : Owned system)
    (changes : Changes system.logins next.logins index login)
    (field : next.field = some login.gateway)
    (owner : next.owner = some index) (entry : login.Entry)
    (others : ∀ other, other ≠ index → system.owner = some other →
      (system.logins other).phase.registered = false) : Owned next := by
  have own := changes.own
  have elsewhere {other : Nat} (different : other ≠ index) :=
    changes.others other different
  constructor
  · rw [field, owner, Option.map_some, own]
  · intro other held
    rw [owner] at held
    cases held
    rw [own]
    exact entry
  · intro other owns
    rw [owner]
    by_cases same : other = index
    · rw [same]
    · rw [elsewhere same] at owns
      have alone := others other same (owned.owns other owns)
      rw [(LoginPhase.owns_spec owns).1] at alone
      cases alone
  · intro other task reply activating found executed unrolled
    rw [owner]
    by_cases same : other = index
    · rw [same]
    · rw [elsewhere same] at activating found unrolled
      have alone := others other same
        (owned.stored other task reply activating found executed unrolled)
      rw [activating] at alone
      cases alone

theorem Owned.remove (owned : Owned system)
    (changes : Changes system.logins next.logins index login)
    (field : next.field = none) (owner : next.owner = none)
    (ownEntry : system.OwnEntry index) (phase : login.phase =
      (system.logins index).phase)
    (absent : (system.logins index).phase.owns = false)
    (stored : ∀ task reply, login.phase = .activating →
      login.hset = some task → task.stage = .executed reply →
      login.rolledBack = false → False) : Owned next := by
  have own := changes.own
  have elsewhere {other : Nat} (different : other ≠ index) :=
    changes.others other different
  have never : ∀ other, other ≠ index → system.owner ≠ some other := by
    intro other different held
    rcases ownEntry with none | mine
    · rw [none] at held
      cases held
    · rw [mine] at held
      exact different (Option.some.inj held).symm
  constructor
  · rw [field, owner]
    rfl
  · intro other held
    rw [owner] at held
    cases held
  · intro other owns
    by_cases same : other = index
    · subst same
      rw [own, phase, absent] at owns
      cases owns
    · rw [elsewhere same] at owns
      exact absurd (owned.owns other owns) (never other same)
  · intro other task reply activating found executed unrolled
    by_cases same : other = index
    · subst same
      rw [own] at activating found unrolled
      exact (stored task reply activating found executed unrolled).elim
    · rw [elsewhere same] at activating found unrolled
      exact absurd
        (owned.stored other task reply activating found executed unrolled)
        (never other same)

theorem Orderly.overwrites (orderly : system.Orderly (.execute index .hset))
    (cleared : Cleared system) (other : Nat) (different : other ≠ index)
    (held : system.owner = some other) :
    (system.logins other).phase.registered = false := by
  simp only [Orderly, held] at orderly
  rcases orderly with activating | gone
  · exact cleared.alone index (Or.inr activating) other different
  · exact (LoginPhase.gone_spec gone).2.2.1

theorem Owned.executeHset (owned : Owned system) (cleared : Cleared system)
    (sound : (system.logins index).Sound)
    (orderly : system.Orderly (.execute index .hset)) {task : RedisTask}
    {reply : Bool} (found : (system.logins index).hset = some task)
    (sent : task.stage = .sent) :
    Owned { system.withLogin index
        { system.logins index with
          hset := some { task with stage := .executed reply } } with
      field := some (system.logins index).gateway
      owner := some index } := by
  have untold : ¬ task.Told := by
    rintro ⟨other, rfl⟩
    cases sent
  have unissued : (system.logins index).hdel = none := by
    by_contra issued
    exact untold (sound.told task found (Or.inr issued))
  have unretried : (system.logins index).retry = none := by
    by_contra retried
    exact sound.retried retried unissued
  refine owned.acquire (changes_update _ _ _) rfl rfl ?_
    (orderly.overwrites cleared)
  refine ⟨?_, ?_, ?_, ?_, fun _ => nofun⟩
  · rw [← Bool.not_eq_true]
    intro early
    have unset := (sound.unset early).1
    rw [found] at unset
    cases unset
  · rintro other ⟨⟩
    exact ⟨reply, rfl⟩
  · intro command other different present
    cases command with
    | hset => exact absurd rfl different
    | hdel => cases unissued.symm.trans present
    | retry => cases unretried.symm.trans present
  · refine sound.unrolled found ?_
    intro other executed
    rw [sent] at executed
    cases executed

theorem Orderly.ownEntry {command : FieldCommand}
    (orderly : system.Orderly (.execute index command))
    (different : command ≠ .hset) : system.OwnEntry index := by
  cases command with
  | hset => exact absurd rfl different
  | hdel => exact orderly
  | retry => exact orderly

theorem Owned.stepped (owned : Owned system) (coherent : Coherent system)
    (cleared : Cleared system) (sound : ∀ other, (system.logins other).Sound)
    (orderly : system.Orderly action)
    (stepped : Stepped system action next) : Owned next := by
  cases stepped with
  | begin absent free =>
      exact owned.early (by rw [absent]; rfl) rfl rfl (changes_update _ _ _)
        rfl nofun
  | deleteLock => exact orderly.elim
  | registers phase free =>
      exact owned.early (by rw [phase]; rfl) rfl rfl (changes_update _ _ _)
        rfl nofun
  | finds phase found =>
      exact owned.early (by rw [phase]; rfl) rfl rfl (changes_update _ _ _)
        rfl nofun
  | failsEarly phase =>
      exact owned.passive rfl rfl (changes_update _ _ _)
        (Login.passive_of_unowned _ rfl rfl nofun)
  | failsWaiting phase =>
      exact owned.passive rfl rfl (changes_update _ _ _)
        (Login.passive_of_unowned _ rfl rfl nofun)
  | failsRegistered recycles =>
      exact owned.passive rfl rfl (changes_update _ _ _)
        (Login.passive_of_unowned _ rfl rfl nofun)
  | failsTaking phase => exact absurd phase orderly.2.1
  | checkedFree phase free =>
      exact owned.activate (by rw [phase]; rfl) rfl rfl (changes_update _ _ _)
        rfl rfl
  | checkedFound phase found =>
      exact owned.early (by rw [phase]; rfl) rfl rfl (changes_update _ _ _)
        rfl nofun
  | kickHereGone phase free =>
      exact owned.passive rfl rfl (changes_update _ _ _)
        (Login.passive_of_unowned _ rfl rfl nofun)
  | kickHere phase found =>
      exact owned.early (by rw [phase]; rfl) rfl rfl (changes_update _ _ _)
        rfl nofun
  | lookupGone phase free =>
      exact owned.early (by rw [phase]; rfl) rfl rfl (changes_update _ _ _)
        rfl nofun
  | lookup phase found =>
      exact owned.early (by rw [phase]; rfl) rfl rfl (changes_update _ _ _)
        rfl nofun
  | kickAcked sent unstarted phase =>
      exact owned.early (by rw [phase]; rfl) rfl rfl (changes_update _ _ _)
        rfl nofun
  | kickVain sent =>
      refine owned.passive rfl rfl (changes_update _ _ _) ?_
      exact ⟨rfl, rfl, rfl, Or.inl rfl, Or.inl rfl, id, id, id⟩
  | kick sent running found =>
      refine owned.passive rfl rfl (changes_update _ _ _) ?_
      exact ⟨rfl, rfl, rfl, Or.inl rfl, Or.inl rfl, id, id, id⟩
  | @takes index phase told =>
      have early : (system.logins index).phase.early = true := by
        rw [phase]
        rfl
      obtain ⟨unset, unissued, unretried, unrolled⟩ :=
        (sound index).unissued early
      refine owned.acquire (changes_update _ _ _) (orderly phase) rfl ?_ ?_
      · refine ⟨rfl, ?_, ?_, unrolled, nofun⟩
        · intro task found
          cases unset.symm.trans found
        · intro command task different found
          cases command with
          | hset => exact absurd rfl different
          | hdel => cases unissued.symm.trans found
          | retry => cases unretried.symm.trans found
      · intro other different _
        exact cleared.alone_of_target coherent (by rw [phase]; rfl)
          (coherent.resolved _ index told (by rw [phase]; rfl)) other
          different
  | acked phase told =>
      exact owned.early (by rw [phase]; rfl) rfl rfl (changes_update _ _ _)
        rfl nofun
  | unsent phase =>
      refine owned.passive rfl rfl (changes_update _ _ _) ?_
      exact ⟨rfl, rfl, rfl, Or.inr rfl, Or.inl rfl, fun _ => rfl, nofun,
        nofun⟩
  | @move index _ _ moved => exact owned.move (sound index) moved
  | @hset index _ _ found sent =>
      exact owned.executeHset cleared (sound index) orderly found sent
  | @hdel index command task reply different found sent =>
      have issued := (sound index).issued_of_task found different
      obtain ⟨unowned, inactive⟩ := (sound index).unowned_of_issued issued
      refine owned.remove (changes_update _ _ _) rfl rfl
        (orderly.ownEntry different) (Login.withTask_phase ..) unowned ?_
      intro _ _ activating
      rw [Login.withTask_phase] at activating
      exact absurd activating inactive
  | @rollback index owed =>
      obtain ⟨reply, found⟩ := rollbackOwed_hset owed
      refine owned.remove (changes_update _ _ _) rfl rfl orderly rfl ?_ nofun
      rw [← Bool.not_eq_true]
      intro owns
      have holds := (LoginPhase.owns_spec owns).2.2.1
      obtain ⟨other, same⟩ := (sound index).told _ found (Or.inl holds)
      cases same
  | release held outside =>
      exact ⟨owned.field, owned.entry, owned.owns, owned.stored⟩
  | start phase =>
      exact owned.passive rfl rfl (changes_update _ _ _)
        (.of_owns (by rw [phase]; rfl) rfl nofun rfl rfl rfl rfl rfl)
  | finish phase agreed =>
      exact owned.passive rfl rfl (changes_update _ _ _)
        (.of_owns (by rw [phase]; rfl) rfl nofun rfl rfl rfl rfl rfl)
  | callbacks phase =>
      exact owned.passive rfl rfl (changes_update _ _ _)
        (Login.passive_of_unowned _ rfl rfl nofun)
  | expire => exact ⟨owned.field, owned.entry, owned.owns, owned.stored⟩

end Logins

end Gateway

end TinyChat
