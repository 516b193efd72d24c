import TinyChat.Gateway.LoginTables

/-!
# The commands of a login on the field of its device

A login announces its gateway with one `HSET`, and withdraws it with an
`HDEL` that may be repeated.  This file follows the commands of one login at
a time, in runs in which the login is not misled about its own commands.
-/

namespace TinyChat

namespace Redis

namespace RedisTask

/-- The caller has got the reply of the command. -/
def Told (task : RedisTask) : Prop :=
  ∃ reply, task = { stage := .executed reply, waiter := .result (some reply) }

theorem Moved.pending_of_executed {task next : RedisTask} {move : TaskMove}
    {reply : Bool} (moved : Moved task move next)
    (executed : task.stage = .executed reply) : task.waiter = .pending := by
  cases moved with
  | taken queued pending => exact pending
  | skipped queued done =>
      rw [executed] at queued
      cases queued
  | lost sent =>
      rw [executed] at sent
      cases sent
  | replied _ pending => exact pending
  | failed _ pending => exact pending
  | refused _ pending => exact pending
  | timedOut pending => exact pending

theorem Told.not_moved {task next : RedisTask} {move : TaskMove}
    (told : task.Told) (moved : Moved task move next) : False := by
  obtain ⟨reply, rfl⟩ := told
  cases moved.pending_of_executed rfl

theorem Moved.dropped {task next : RedisTask} {move : TaskMove}
    (moved : Moved task move next) (dropped : task.stage = .dropped) :
    next.stage = .dropped := by
  rcases moved.stage_eq with same | lost | ⟨queued, _⟩
  · rw [same, dropped]
  · exact lost
  · rw [dropped] at queued
    cases queued

theorem Moved.cancelled {task next : RedisTask} {move : TaskMove}
    (moved : Moved task move next) (cancelled : task.waiter = .cancelled) :
    next.waiter = .cancelled := by
  cases moved with
  | taken _ _ => exact cancelled
  | skipped _ _ => exact cancelled
  | lost _ => exact cancelled
  | replied _ pending =>
      rw [cancelled] at pending
      cases pending
  | failed _ pending =>
      rw [cancelled] at pending
      cases pending
  | refused _ pending =>
      rw [cancelled] at pending
      cases pending
  | timedOut _ => rfl

end RedisTask

end Redis

namespace Gateway

open Redis Transition

namespace LoginPhase

/-- The login has sent no command. -/
def early : LoginPhase → Bool
  | .absent | .upgrading | .checking | .asking | .pushing | .kicking _
  | .acked | .askingHere | .waiting => true
  | _ => false

/-- The field is meant to hold the gateway of the login. -/
def owns : LoginPhase → Bool
  | .greeting | .taking | .leaving true | .reading | .ended _ => true
  | _ => false

/-- The login has owned the field and has not given it back. -/
def holds : LoginPhase → Bool
  | .greeting | .taking | .leaving true | .reading | .ended _
  | .closing _ => true
  | _ => false

theorem owns_spec {phase : LoginPhase} (owns : phase.owns = true) :
    phase.registered = true ∧ phase.gone = false ∧ phase.holds = true ∧
      phase ≠ .withdrawing := by
  revert owns
  cases phase with
  | leaving success =>
      cases success
      · nofun
      · exact fun _ => ⟨rfl, rfl, rfl, nofun⟩
  | greeting => exact fun _ => ⟨rfl, rfl, rfl, nofun⟩
  | taking => exact fun _ => ⟨rfl, rfl, rfl, nofun⟩
  | reading => exact fun _ => ⟨rfl, rfl, rfl, nofun⟩
  | ended cause => exact fun _ => ⟨rfl, rfl, rfl, nofun⟩
  | _ => nofun

theorem early_of_recycles {phase : LoginPhase}
    (recycles : phase.recycles = true) (other : phase ≠ .activating) :
    phase.early = true := by
  revert recycles
  cases phase <;> intro recycles
  all_goals first | rfl | exact absurd rfl other | cases recycles

theorem late_of_gone {phase : LoginPhase} (gone : phase.gone = true) :
    phase.early = false := by
  revert gone
  cases phase <;> intro gone
  all_goals first | rfl | cases gone

end LoginPhase

/-- What the commands of a login have to do with its phase. -/
structure Login.Sound (login : Login) : Prop where
  unset : login.phase.early = true →
    login.hset = none ∧ login.hdel = none ∧ login.rolledBack = false
  honest : ∀ task, login.hset = some task → task.Honest
  abandoned : ∀ task, login.hset = some task → login.phase ≠ .activating →
    task.stage = .dropped ∨ task.waiter = .cancelled ∨ task.Told
  told : ∀ task, login.hset = some task →
    login.phase.holds = true ∨ login.hdel ≠ none → task.Told
  issued : login.hdel ≠ none →
    login.phase.gone = true ∨ login.phase = .withdrawing
  retried : login.retry ≠ none → login.hdel ≠ none
  rolled : login.rolledBack = true → ∃ reply,
    login.hset = some { stage := .executed reply, waiter := .cancelled }

namespace Login

variable {login next : Login}

theorem Sound.of_unset (hset : login.hset = none) (hdel : login.hdel = none)
    (retry : login.retry = none) (rolledBack : login.rolledBack = false) :
    login.Sound := by
  refine ⟨fun _ => ⟨hset, hdel, rolledBack⟩, ?_, ?_, ?_, ?_, ?_, ?_⟩
  · intro task found
    rw [hset] at found
    cases found
  · intro task found
    rw [hset] at found
    cases found
  · intro task found
    rw [hset] at found
    cases found
  · exact fun issued => absurd hdel issued
  · exact fun retried => absurd retry retried
  · intro rolled
    rw [rolledBack] at rolled
    cases rolled

theorem Sound.unissued (sound : login.Sound)
    (early : login.phase.early = true) :
    login.hset = none ∧ login.hdel = none ∧ login.retry = none ∧
      login.rolledBack = false := by
  obtain ⟨hset, hdel, rolledBack⟩ := sound.unset early
  refine ⟨hset, hdel, ?_, rolledBack⟩
  by_contra retried
  exact sound.retried retried hdel

/-- Before the first command. -/
theorem Sound.early (sound : login.Sound) (early : login.phase.early = true)
    (hset : next.hset = login.hset) (hdel : next.hdel = login.hdel)
    (retry : next.retry = login.retry)
    (rolledBack : next.rolledBack = login.rolledBack) : next.Sound := by
  obtain ⟨unset, unissued, unretried, unrolled⟩ := sound.unissued early
  apply Sound.of_unset
  · rw [hset, unset]
  · rw [hdel, unissued]
  · rw [retry, unretried]
  · rw [rolledBack, unrolled]

theorem Sound.activate (sound : login.Sound)
    (early : login.phase.early = true) (phase : next.phase = .activating)
    (hset : next.hset = some {}) (hdel : next.hdel = login.hdel)
    (retry : next.retry = login.retry)
    (rolledBack : next.rolledBack = login.rolledBack) : next.Sound := by
  obtain ⟨_, unissued, unretried, unrolled⟩ := sound.unissued early
  rw [unissued] at hdel
  rw [unretried] at retry
  rw [unrolled] at rolledBack
  refine ⟨?_, ?_, ?_, ?_, ?_, ?_, ?_⟩
  · rw [phase]
    nofun
  · intro task found
    rw [hset] at found
    cases found
    exact RedisTask.honest_fresh
  · exact fun _ _ other => absurd phase other
  · rintro task _ (holds | issued)
    · rw [phase] at holds
      cases holds
    · exact absurd hdel issued
  · exact fun issued => absurd hdel issued
  · exact fun retried => absurd retry retried
  · intro rolled
    rw [rolledBack] at rolled
    cases rolled

/-- A login that goes on without a new command. -/
theorem Sound.goesOn (sound : login.Sound)
    (hset : next.hset = login.hset)
    (rolledBack : next.rolledBack = login.rolledBack)
    (late : next.phase.early = false)
    (abandoned : login.phase = .activating → ∀ task,
      login.hset = some task →
      task.stage = .dropped ∨ task.waiter = .cancelled ∨ task.Told)
    (told : ∀ task, login.hset = some task →
      next.phase.holds = true ∨ next.hdel ≠ none → task.Told)
    (issued : next.hdel ≠ none →
      next.phase.gone = true ∨ next.phase = .withdrawing)
    (retried : next.retry ≠ none → next.hdel ≠ none) : next.Sound := by
  refine ⟨?_, ?_, ?_, ?_, issued, retried, ?_⟩
  · intro early
    rw [late] at early
    cases early
  · rw [hset]
    exact sound.honest
  · rw [hset]
    intro task found _
    by_cases activating : login.phase = .activating
    · exact abandoned activating task found
    · exact sound.abandoned task found activating
  · rw [hset]
    exact told
  · rw [hset, rolledBack]
    exact sound.rolled

/-- `activate` has failed without a doubt about its `HSET`: the command was
dropped, or the rollback takes it back. -/
def Undone (login : Login) : Prop :=
  match login.hset with
  | none => True
  | some task => task.stage = .dropped ∨ task.waiter = .cancelled

instance (login : Login) : Decidable login.Undone :=
  match found : login.hset with
  | none => .isTrue (by simp only [Undone, found])
  | some task =>
      decidable_of_iff (task.stage = .dropped ∨ task.waiter = .cancelled)
        (by simp only [Undone, found])

theorem Undone.task (undone : login.Undone) {task : RedisTask}
    (found : login.hset = some task) :
    task.stage = .dropped ∨ task.waiter = .cancelled := by
  simpa only [Undone, found] using undone

theorem Sound.fails (sound : login.Sound) (undone : login.Undone)
    (phase : next.phase = .leaving false) (hset : next.hset = login.hset)
    (hdel : next.hdel = login.hdel) (retry : next.retry = login.retry)
    (rolledBack : next.rolledBack = login.rolledBack) : next.Sound := by
  refine sound.goesOn hset rolledBack ?_ ?_ ?_ ?_ ?_
  · rw [phase]
    rfl
  · exact fun _ task found => (undone.task found).imp_right Or.inl
  · rintro task found (holds | issued)
    · rw [phase] at holds
      cases holds
    · rw [hdel] at issued
      exact sound.told task found (Or.inr issued)
  · rw [phase]
    exact fun _ => Or.inl rfl
  · rw [hdel, retry]
    exact sound.retried

theorem Sound.hdel_eq_none (sound : login.Sound)
    (present : login.phase.gone = false)
    (other : login.phase ≠ .withdrawing) : login.hdel = none := by
  by_contra issued
  rcases sound.issued issued with gone | withdrawing
  · rw [present] at gone
    cases gone
  · exact other withdrawing

theorem hset_of_stored (stored : login.stored = true) :
    ∃ task, login.hset = some task := by
  unfold Login.stored at stored
  split at stored
  · rename_i found
    exact ⟨_, found⟩
  · cases stored

theorem Sound.told_of_stored (sound : login.Sound)
    (stored : login.stored = true) {task : RedisTask}
    (found : login.hset = some task) : task.Told := by
  have honest := sound.honest task found
  unfold Login.stored at stored
  rw [found] at stored
  split at stored
  · rename_i stage reply same
    cases same
    have executed := honest reply rfl
    subst executed
    exact ⟨reply, rfl⟩
  · cases stored

theorem Sound.keeps (sound : login.Sound) (holds : login.phase.holds = true)
    (hset : next.hset = login.hset)
    (rolledBack : next.rolledBack = login.rolledBack)
    (late : next.phase.early = false)
    (issued : next.hdel ≠ none →
      next.phase.gone = true ∨ next.phase = .withdrawing)
    (retried : next.retry ≠ none → next.hdel ≠ none) : next.Sound := by
  have told : ∀ task, login.hset = some task → task.Told :=
    fun task found => sound.told task found (Or.inl holds)
  exact sound.goesOn hset rolledBack late
    (fun _ task found => Or.inr (Or.inr (told task found)))
    (fun task found _ => told task found) issued retried

/-- A login that owns the field goes on without a new command. -/
theorem Sound.stays (sound : login.Sound) (owns : login.phase.owns = true)
    (late : next.phase.early = false) (hset : next.hset = login.hset)
    (hdel : next.hdel = login.hdel) (retry : next.retry = login.retry)
    (rolledBack : next.rolledBack = login.rolledBack) : next.Sound := by
  obtain ⟨_, present, holds, other⟩ := LoginPhase.owns_spec owns
  refine sound.keeps holds hset rolledBack late ?_ ?_
  · rw [hdel]
    exact fun issued => absurd (sound.hdel_eq_none present other) issued
  · rw [hdel, retry]
    exact sound.retried

theorem Sound.deactivate (sound : login.Sound) (issued : login.hdel ≠ none)
    (gone : next.phase.gone = true) (hset : next.hset = login.hset)
    (hdel : next.hdel = login.hdel)
    (rolledBack : next.rolledBack = login.rolledBack) : next.Sound := by
  have told : ∀ task, login.hset = some task → task.Told :=
    fun task found => sound.told task found (Or.inr issued)
  refine sound.goesOn hset rolledBack ?_
    (fun _ task found => Or.inr (Or.inr (told task found)))
    (fun task found _ => told task found) (fun _ => Or.inl gone) ?_
  · exact LoginPhase.late_of_gone gone
  · rw [hdel]
    exact fun _ => issued

theorem Sound.withHset (sound : login.Sound) {task changed : RedisTask}
    (found : login.hset = some task) (honest : changed.Honest)
    (untold : ¬ task.Told) (unrolled : login.rolledBack = false)
    (kept : task.stage = .dropped ∨ task.waiter = .cancelled →
      changed.stage = .dropped ∨ changed.waiter = .cancelled) :
    Sound { login with hset := some changed } := by
  refine ⟨?_, ?_, ?_, ?_, sound.issued, sound.retried, ?_⟩
  · intro early
    have unset := (sound.unset early).1
    rw [found] at unset
    cases unset
  · rintro other ⟨⟩
    exact honest
  · rintro other ⟨⟩ inactive
    rcases sound.abandoned task found inactive with dropped | cancelled | told
    · exact (kept (Or.inl dropped)).imp_right Or.inl
    · exact (kept (Or.inr cancelled)).imp_right Or.inl
    · exact absurd told untold
  · intro other _ owned
    exact absurd (sound.told task found owned) untold
  · intro rolled
    rw [unrolled] at rolled
    cases rolled

theorem Sound.unrolled (sound : login.Sound) {task : RedisTask}
    (found : login.hset = some task)
    (unfinished : ∀ reply, task.stage = .executed reply →
      task.waiter ≠ .cancelled) : login.rolledBack = false := by
  rw [← Bool.not_eq_true]
  intro rolled
  obtain ⟨reply, same⟩ := sound.rolled rolled
  rw [found] at same
  cases same
  exact unfinished reply rfl rfl

theorem Sound.withHdel (sound : login.Sound) {command : FieldCommand}
    {task : RedisTask} (found : login.task command = some task)
    (other : command ≠ .hset) (changed : RedisTask) :
    (login.withTask changed command).Sound := by
  cases command with
  | hset => exact absurd rfl other
  | hdel =>
      have issued : login.hdel ≠ none := by
        intro absent
        cases found.symm.trans absent
      refine ⟨?_, sound.honest, sound.abandoned, ?_,
        fun _ => sound.issued issued, fun _ => nofun, sound.rolled⟩
      · intro early
        exact absurd (sound.unset early).2.1 issued
      · exact fun task found _ => sound.told task found (Or.inr issued)
  | retry =>
      have retried : login.retry ≠ none := by
        intro absent
        cases found.symm.trans absent
      exact ⟨sound.unset, sound.honest, sound.abandoned, sound.told,
        sound.issued, fun _ => sound.retried retried, sound.rolled⟩

theorem Moved.sound {move : LoginMove} (moved : Moved login move next)
    (sound : login.Sound) : next.Sound := by
  cases moved with
  | confirm phase =>
      exact sound.early (by rw [phase]; rfl) rfl rfl rfl rfl
  | activate phase =>
      exact sound.activate (by rw [phase]; rfl) rfl rfl rfl rfl rfl
  | activated phase stored =>
      have unissued := sound.hdel_eq_none (by rw [phase]; rfl)
        (by rw [phase]; nofun)
      have told : ∀ task, login.hset = some task → task.Told :=
        fun task found => sound.told_of_stored stored found
      exact sound.goesOn rfl rfl rfl
        (fun _ task found => Or.inr (Or.inr (told task found)))
        (fun task found _ => told task found)
        (fun issued => absurd unissued issued) sound.retried
  | greeted phase =>
      exact sound.stays (by rw [phase]; rfl) rfl rfl rfl rfl rfl
  | withdrawn phase issued origin =>
      exact sound.deactivate issued rfl rfl rfl rfl
  | taken phase =>
      exact sound.stays (by rw [phase]; rfl) rfl rfl rfl rfl rfl
  | quit phase =>
      refine sound.goesOn rfl rfl rfl ?_ ?_ (fun _ => Or.inl rfl)
        sound.retried
      · rw [phase]
        nofun
      · rintro task found (holds | issued)
        · cases holds
        · exact sound.told task found (Or.inr issued)
  | closed phase =>
      exact sound.keeps (by rw [phase]; rfl) rfl rfl rfl
        (fun _ => Or.inl rfl) (fun _ => nofun)
  | kept phase other =>
      exact sound.keeps (by rw [phase]; rfl) rfl rfl rfl
        (fun _ => Or.inl rfl) sound.retried
  | deactivated phase issued origin =>
      exact sound.deactivate issued rfl rfl rfl rfl
  | @task command move task changed present moved =>
      cases command with
      | hset =>
          refine sound.withHset present ((sound.honest _ present).moved moved)
            (fun told => told.not_moved moved)
            (sound.unrolled present ?_) ?_
          · intro reply executed
            rw [moved.pending_of_executed executed]
            nofun
          · exact Or.imp moved.dropped moved.cancelled
      | hdel => exact sound.withHdel present nofun changed
      | retry => exact sound.withHdel present nofun changed

end Login

namespace Logins

variable {system next : Logins} {action : LoginsAction} {index : Nat}
  {login : Login}

/-- The entry of the field, if there is one, was made for the login. -/
def OwnEntry (system : Logins) (index : Nat) : Prop :=
  system.owner = none ∨ system.owner = some index

/-- What keeps the field of a device in line with its sessions:
* the lock is removed only for its holder;
* a kick finds no reader only where no other session is registered, and it
  cancels a reader only for a login that still waits;
* a login that has cancelled a reader, or has taken over a session, does not
  fail, and `activate` fails only without a doubt;
* a session is taken over only with its entry;
* an `HDEL` removes only an entry of its own login, and an `HSET` of a login
  that has given up overwrites no entry of a session that is not gone;
* an endpoint whose reader failed still reads the state of its own
  session. -/
def Orderly (system : Logins) : LoginsAction → Prop
  | .deleteLock => False
  | .kick index =>
      match (system.logins index).kick with
      | none => True
      | some addr =>
          match (system.gateways addr).task with
          | none =>
              (system.gateways addr).session = none ∨
                (system.gateways addr).session = some index
          | some _ => (system.logins index).phase = .kicking addr
  | .fail index =>
      (system.logins index).kicked = false ∧
        (system.logins index).phase ≠ .taking ∧
        ((system.logins index).phase = .activating →
          (system.logins index).Undone)
  | .recycled index =>
      (system.logins index).phase = .waiting →
        system.field = some (system.logins index).gateway
  | .execute index .hset =>
      (system.logins index).phase = .activating ∨
        match system.owner with
        | none => True
        | some owner => (system.logins owner).phase.gone = true
  | .execute index .hdel => system.OwnEntry index
  | .execute index .retry => system.OwnEntry index
  | .rollback index => system.OwnEntry index
  | .move index (.close closed) =>
      (system.logins index).phase = .closing .failed → closed = true
  | _ => True

instance ownEntry_decidable (system : Logins) (index : Nat) :
    Decidable (system.OwnEntry index) :=
  decidable_of_iff (system.owner = none ∨ system.owner = some index) Iff.rfl

instance orderly_decidable (system : Logins) :
    ∀ action, Decidable (system.Orderly action)
  | .deleteLock => .isFalse id
  | .kick index =>
      match sent : (system.logins index).kick with
      | none => .isTrue (by simp only [Orderly, sent])
      | some addr =>
          match running : (system.gateways addr).task with
          | none =>
              decidable_of_iff ((system.gateways addr).session = none ∨
                (system.gateways addr).session = some index)
                (by simp only [Orderly, sent, running])
          | some _ =>
              decidable_of_iff ((system.logins index).phase = .kicking addr)
                (by simp only [Orderly, sent, running])
  | .fail index =>
      decidable_of_iff ((system.logins index).kicked = false ∧
        (system.logins index).phase ≠ .taking ∧
        ((system.logins index).phase = .activating →
          (system.logins index).Undone)) Iff.rfl
  | .recycled index =>
      decidable_of_iff ((system.logins index).phase = .waiting →
        system.field = some (system.logins index).gateway) Iff.rfl
  | .execute index .hset =>
      match held : system.owner with
      | none => .isTrue (by simp only [Orderly, held, or_true])
      | some owner =>
          decidable_of_iff ((system.logins index).phase = .activating ∨
            (system.logins owner).phase.gone = true)
            (by simp only [Orderly, held])
  | .execute index .hdel => system.ownEntry_decidable index
  | .execute index .retry => system.ownEntry_decidable index
  | .rollback index => system.ownEntry_decidable index
  | .move index (.close closed) =>
      decidable_of_iff ((system.logins index).phase = .closing .failed →
        closed = true) Iff.rfl
  | .move _ .confirm => .isTrue trivial
  | .move _ .activate => .isTrue trivial
  | .move _ .activated => .isTrue trivial
  | .move _ .greeted => .isTrue trivial
  | .move _ .withdrawn => .isTrue trivial
  | .move _ .taken => .isTrue trivial
  | .move _ .quit => .isTrue trivial
  | .move _ .deactivated => .isTrue trivial
  | .move _ (.task _ _) => .isTrue trivial
  | .begin _ _ => .isTrue trivial
  | .upgraded _ => .isTrue trivial
  | .checked _ => .isTrue trivial
  | .kickHere _ => .isTrue trivial
  | .lookup _ => .isTrue trivial
  | .unsent _ => .isTrue trivial
  | .release _ => .isTrue trivial
  | .start _ => .isTrue trivial
  | .finish _ _ => .isTrue trivial
  | .callbacks _ => .isTrue trivial
  | .expire _ => .isTrue trivial

theorem Orderly.lawful (orderly : system.Orderly action) :
    action ≠ .deleteLock := by
  rintro rfl
  exact orderly

theorem rollbackOwed_hset (owed : rollbackOwed login = true) :
    ∃ reply, login.hset =
      some { stage := .executed reply, waiter := .cancelled } := by
  unfold rollbackOwed at owed
  split at owed
  · rename_i reply found
    exact ⟨reply, found⟩
  · cases owed

theorem sound_change (sound : ∀ other, (system.logins other).Sound)
    (changes : Changes system.logins next.logins index login)
    (changed : login.Sound) (other : Nat) : (next.logins other).Sound := by
  by_cases same : other = index
  · rw [same, changes.own]
    exact changed
  · rw [changes.others other same]
    exact sound other

theorem sound_stepped (sound : ∀ other, (system.logins other).Sound)
    (orderly : system.Orderly action)
    (stepped : Stepped system action next) :
    ∀ other, (next.logins other).Sound := by
  cases stepped with
  | begin absent free =>
      exact sound_change sound (changes_update _ _ _)
        (.of_unset rfl rfl rfl rfl)
  | deleteLock => exact sound
  | registers phase free =>
      refine sound_change sound (changes_update _ _ _) ?_
      exact (sound _).early (by rw [phase]; rfl) rfl rfl rfl rfl
  | finds phase found =>
      refine sound_change sound (changes_update _ _ _) ?_
      exact (sound _).early (by rw [phase]; rfl) rfl rfl rfl rfl
  | failsEarly phase =>
      refine sound_change sound (changes_update _ _ _) ?_
      refine (sound _).early ?_ rfl rfl rfl rfl
      rcases phase with upgrading | asking
      · rw [upgrading]
        rfl
      · rw [asking]
        rfl
  | failsWaiting phase =>
      refine sound_change sound (changes_update _ _ _) ?_
      exact (sound _).early (by rw [phase]; rfl) rfl rfl rfl rfl
  | @failsRegistered index recycles =>
      refine sound_change sound (changes_update _ _ _) ?_
      by_cases activating : (system.logins index).phase = .activating
      · exact (sound index).fails (orderly.2.2 activating) rfl rfl rfl rfl
          rfl
      · exact (sound index).early
          (LoginPhase.early_of_recycles recycles activating) rfl rfl rfl rfl
  | failsTaking phase => exact absurd phase orderly.2.1
  | checkedFree phase free =>
      refine sound_change sound (changes_update _ _ _) ?_
      exact (sound _).activate (by rw [phase]; rfl) rfl rfl rfl rfl rfl
  | checkedFound phase found =>
      refine sound_change sound (changes_update _ _ _) ?_
      exact (sound _).early (by rw [phase]; rfl) rfl rfl rfl rfl
  | kickHereGone phase free =>
      refine sound_change sound (changes_update _ _ _) ?_
      exact (sound _).early (by rw [phase]; rfl) rfl rfl rfl rfl
  | kickHere phase found =>
      refine sound_change sound (changes_update _ _ _) ?_
      exact (sound _).early (by rw [phase]; rfl) rfl rfl rfl rfl
  | lookupGone phase free =>
      refine sound_change sound (changes_update _ _ _) ?_
      exact (sound _).early (by rw [phase]; rfl) rfl rfl rfl rfl
  | lookup phase found =>
      refine sound_change sound (changes_update _ _ _) ?_
      exact (sound _).early (by rw [phase]; rfl) rfl rfl rfl rfl
  | kickAcked sent unstarted phase =>
      refine sound_change sound (changes_update _ _ _) ?_
      exact (sound _).early (by rw [phase]; rfl) rfl rfl rfl rfl
  | @kickVain index _ sent =>
      have before := sound index
      refine sound_change sound (changes_update _ _ _) ?_
      exact ⟨before.unset, before.honest, before.abandoned, before.told,
        before.issued, before.retried, before.rolled⟩
  | @kick index _ _ _ sent running found =>
      have before := sound index
      refine sound_change sound (changes_update _ _ _) ?_
      exact ⟨before.unset, before.honest, before.abandoned, before.told,
        before.issued, before.retried, before.rolled⟩
  | takes phase told =>
      refine sound_change sound (changes_update _ _ _) ?_
      exact (sound _).early (by rw [phase]; rfl) rfl rfl rfl rfl
  | acked phase told =>
      refine sound_change sound (changes_update _ _ _) ?_
      exact (sound _).early (by rw [phase]; rfl) rfl rfl rfl rfl
  | unsent phase =>
      refine sound_change sound (changes_update _ _ _) ?_
      exact (sound _).keeps (by rw [phase]; rfl) rfl rfl rfl
        (fun _ => Or.inr rfl) (fun _ => nofun)
  | move moved =>
      exact sound_change sound (changes_update _ _ _) (moved.sound (sound _))
  | @hset index task reply present sent =>
      refine sound_change sound (changes_update _ _ _) ?_
      have honest := (sound index).honest task present
      refine (sound index).withHset present (honest.executed sent reply) ?_
        ((sound index).unrolled present ?_) ?_
      · rintro ⟨other, rfl⟩
        cases sent
      · intro other executed
        rw [sent] at executed
        cases executed
      · refine Or.imp_left ?_
        intro dropped
        rw [sent] at dropped
        cases dropped
  | hdel different present sent =>
      exact sound_change sound (changes_update _ _ _)
        ((sound _).withHdel present different _)
  | @rollback index owed =>
      have before := sound index
      obtain ⟨reply, found⟩ := rollbackOwed_hset owed
      refine sound_change sound (changes_update _ _ _) ?_
      refine ⟨?_, before.honest, before.abandoned, before.told,
        before.issued, before.retried, fun _ => ⟨reply, found⟩⟩
      intro early
      have unset := (before.unset early).1
      rw [found] at unset
      cases unset
  | release held outside => exact sound
  | start phase =>
      refine sound_change sound (changes_update _ _ _) ?_
      exact (sound _).stays (by rw [phase]; rfl) rfl rfl rfl rfl rfl
  | finish phase agreed =>
      refine sound_change sound (changes_update _ _ _) ?_
      exact (sound _).stays (by rw [phase]; rfl) rfl rfl rfl rfl rfl
  | callbacks phase =>
      refine sound_change sound (changes_update _ _ _) ?_
      exact (sound _).keeps (by rw [phase]; rfl) rfl rfl rfl
        (fun _ => Or.inl rfl) (sound _).retried
  | expire => exact sound

end Logins

end Gateway

end TinyChat
