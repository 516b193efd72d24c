import TinyChat.Gateway.FieldOwner

/-!
# The field of a device and its live session

The entry of a session that was kicked off stays in Redis until the login
that kicked it off overwrites it; every other session withdraws its entry
when it ends.  So once nothing is on its way, an orderly run leaves exactly
the gateway of the live session in the field.
-/

namespace TinyChat

namespace Gateway

open Redis Transition

namespace LoginPhase

/-- A login that may have cancelled a reader, until its own `HSET` or its
takeover. -/
def replacing : LoginPhase → Bool
  | .kicking _ | .acked | .activating | .waiting => true
  | _ => false

/-- The end of a reader that a kick has cancelled, or a reader that a kick
may have cancelled. -/
def exposed : LoginPhase → Bool
  | .reading | .ended .kicked | .closing .kicked => true
  | _ => false

theorem holds_of_exposed {phase : LoginPhase}
    (exposed : phase.exposed = true) : phase.holds = true := by
  revert exposed
  cases phase with
  | reading => exact fun _ => rfl
  | ended cause => exact fun _ => rfl
  | closing cause => exact fun _ => rfl
  | _ => nofun

end LoginPhase

/-- The entry of the login is withdrawn when its session ends, or by the
rollback. -/
def Login.Held (login : Login) : Prop :=
  login.phase = .activating ∨ login.phase.holds = true ∨
    login.hdel ≠ none ∨ Logins.rollbackOwed login = true

namespace Login

/-- Redis has executed a command of the login. -/
def executed (login : Login) (command : FieldCommand) : Bool :=
  match login.task command with
  | some { stage := .executed _, .. } => true
  | _ => false

end Login

/-- The endpoint reads or has returned, no command is in flight, one `HDEL`
was executed if there was any, and so was the rollback. -/
structure Login.Settled (login : Login) : Prop where
  phase : login.phase = .absent ∨ login.phase = .reading ∨
    login.phase = .returned
  hset : ∀ task ∈ login.hset, ¬ task.InFlight
  hdel : ∀ task ∈ login.hdel, ¬ task.InFlight
  retry : ∀ task ∈ login.retry, ¬ task.InFlight
  executed : login.hdel = none ∨ login.executed .hdel = true ∨
    login.executed .retry = true
  rolledBack : Logins.rollbackOwed login = false

instance (login : Login) : Decidable login.Settled :=
  decidable_of_iff
    ((login.phase = .absent ∨ login.phase = .reading ∨
        login.phase = .returned) ∧
      (∀ task ∈ login.hset, ¬ task.InFlight) ∧
      (∀ task ∈ login.hdel, ¬ task.InFlight) ∧
      (∀ task ∈ login.retry, ¬ task.InFlight) ∧
      (login.hdel = none ∨ login.executed .hdel = true ∨
        login.executed .retry = true) ∧
      Logins.rollbackOwed login = false)
    ⟨fun ⟨phase, hset, hdel, retry, executed, rolledBack⟩ =>
      ⟨phase, hset, hdel, retry, executed, rolledBack⟩,
     fun ⟨phase, hset, hdel, retry, executed, rolledBack⟩ =>
      ⟨phase, hset, hdel, retry, executed, rolledBack⟩⟩

namespace Login.Settled

variable {login : Login}

end Login.Settled

theorem Login.Moved.exposed {login next : Login} {move : LoginMove}
    (moved : Login.Moved login move next)
    (exposed : next.phase.exposed = true) : next.phase = login.phase := by
  cases moved with
  | task present changed => exact Login.withTask_phase ..
  | _ => cases exposed

namespace Logins

/-- A login has cancelled a reader and will overwrite the entry. -/
def Replaced (system : Logins) : Prop :=
  ∃ index, (system.logins index).kicked = true ∧
    (system.logins index).phase.replacing = true

/-- The session was kicked off and will not withdraw its entry. -/
def Doomed (system : Logins) (index : Nat) : Prop :=
  (system.logins index).phase = .ended .kicked ∨
    (system.logins index).phase = .closing .kicked ∨
    ((system.logins index).phase = .reading ∧
      (system.tablesOf index).cancelled = true)

structure Accounted (system : Logins) : Prop where
  held : ∀ index, system.owner = some index →
    (system.logins index).Held ∨ Replaced system
  doomed : ∀ index, system.owner = some index → Doomed system index →
    Replaced system

/-- The entry was just made or taken over. -/
def Renewed (system : Logins) : Prop :=
  ∃ index, system.owner = some index ∧
    ((system.logins index).phase = .greeting ∨
      (system.logins index).phase = .taking)

variable {system next : Logins} {action : LoginsAction} {index : Nat}
  {login : Login}

/-! ## A login that replaces a session -/

theorem replaced_change
    (changes : Changes system.logins next.logins index login)
    (own : (system.logins index).kicked = true →
      (system.logins index).phase.replacing = true →
      (login.kicked = true ∧ login.phase.replacing = true) ∨ Renewed next)
    (replaced : Replaced system) : Replaced next ∨ Renewed next := by
  obtain ⟨other, kicked, replacing⟩ := replaced
  by_cases same : other = index
  · subst same
    rcases own kicked replacing with still | renewed
    · rw [← changes.own] at still
      exact Or.inl ⟨other, still⟩
    · exact Or.inr renewed
  · rw [← changes.others other same] at kicked replacing
    exact Or.inl ⟨other, kicked, replacing⟩

theorem replaced_idle
    (changes : Changes system.logins next.logins index login)
    (idle : (system.logins index).phase.replacing = false)
    (replaced : Replaced system) : Replaced next ∨ Renewed next := by
  refine replaced_change changes ?_ replaced
  intro _ replacing
  rw [idle] at replacing
  cases replacing

theorem replaced_move (owned : Owned system)
    (sound : (system.logins index).Sound) {move : LoginMove}
    (moved : Login.Moved (system.logins index) move login)
    (replaced : Replaced system) :
    Replaced (system.withLogin index login) ∨
      Renewed (system.withLogin index login) := by
  have changes : Changes system.logins
      (system.withLogin index login).logins index login :=
    changes_update _ _ _
  cases moved with
  | activate phase =>
      exact replaced_change changes (fun kicked _ => Or.inl ⟨kicked, rfl⟩)
        replaced
  | activated phase stored =>
      refine Or.inr ⟨index, ?_, Or.inl (by rw [changes.own])⟩
      obtain ⟨task, found⟩ := Login.hset_of_stored stored
      obtain ⟨reply, rfl⟩ := sound.told_of_stored stored found
      exact owned.stored index _ reply phase found rfl
        (sound.unrolled found (fun _ _ => nofun))
  | task present changed =>
      refine replaced_change changes ?_ replaced
      rw [Login.withTask_kicked, Login.withTask_phase]
      exact fun kicked replacing => Or.inl ⟨kicked, replacing⟩
  | confirm phase => exact replaced_idle changes (by rw [phase]; rfl) replaced
  | greeted phase => exact replaced_idle changes (by rw [phase]; rfl) replaced
  | withdrawn phase _ _ =>
      exact replaced_idle changes (by rw [phase]; rfl) replaced
  | taken phase => exact replaced_idle changes (by rw [phase]; rfl) replaced
  | quit phase => exact replaced_idle changes (by rw [phase]; rfl) replaced
  | closed phase => exact replaced_idle changes (by rw [phase]; rfl) replaced
  | kept phase _ => exact replaced_idle changes (by rw [phase]; rfl) replaced
  | deactivated phase _ _ =>
      exact replaced_idle changes (by rw [phase]; rfl) replaced

/-- A login that has cancelled a reader goes on until the entry is its
own. -/
theorem replaced_stepped (owned : Owned system)
    (sound : ∀ other, (system.logins other).Sound)
    (orderly : system.Orderly action)
    (stepped : Stepped system action next) (replaced : Replaced system) :
    Replaced next ∨ Renewed next := by
  have fails {index : Nat} {login : Login}
      (changes : Changes system.logins next.logins index login)
      (spared : (system.logins index).kicked = false) :
      Replaced next ∨ Renewed next := by
    refine replaced_change changes ?_ replaced
    intro kicked
    rw [spared] at kicked
    cases kicked
  cases stepped with
  | begin absent free =>
      exact replaced_idle (changes_update _ _ _) (by rw [absent]; rfl)
        replaced
  | deleteLock => exact orderly.elim
  | registers phase free =>
      exact replaced_idle (changes_update _ _ _) (by rw [phase]; rfl) replaced
  | finds phase found =>
      exact replaced_idle (changes_update _ _ _) (by rw [phase]; rfl) replaced
  | failsEarly phase => exact fails (changes_update _ _ _) orderly.1
  | failsWaiting phase => exact fails (changes_update _ _ _) orderly.1
  | failsRegistered recycles => exact fails (changes_update _ _ _) orderly.1
  | failsTaking phase => exact fails (changes_update _ _ _) orderly.1
  | checkedFree phase free =>
      exact replaced_idle (changes_update _ _ _) (by rw [phase]; rfl) replaced
  | checkedFound phase found =>
      exact replaced_idle (changes_update _ _ _) (by rw [phase]; rfl) replaced
  | kickHereGone phase free =>
      exact replaced_idle (changes_update _ _ _) (by rw [phase]; rfl) replaced
  | kickHere phase found =>
      exact replaced_idle (changes_update _ _ _) (by rw [phase]; rfl) replaced
  | lookupGone phase free =>
      exact replaced_idle (changes_update _ _ _) (by rw [phase]; rfl) replaced
  | lookup phase found =>
      exact replaced_idle (changes_update _ _ _) (by rw [phase]; rfl) replaced
  | kickAcked sent unstarted phase =>
      exact replaced_change (changes_update _ _ _)
        (fun kicked _ => Or.inl ⟨kicked, rfl⟩) replaced
  | kickVain sent =>
      exact replaced_change (changes_update _ _ _)
        (fun kicked replacing => Or.inl ⟨kicked, replacing⟩) replaced
  | kick sent running found =>
      refine replaced_change (changes_update _ _ _) ?_ replaced
      intro kicked replacing
      refine Or.inl ⟨?_, replacing⟩
      rw [kicked]
      rfl
  | @takes index phase told =>
      have changes := changes_update system.logins index
        { system.logins index with phase := .taking }
      exact Or.inr ⟨index, rfl, Or.inr (congrArg Login.phase changes.own)⟩
  | acked phase told =>
      exact replaced_change (changes_update _ _ _)
        (fun kicked _ => Or.inl ⟨kicked, rfl⟩) replaced
  | unsent phase =>
      exact replaced_idle (changes_update _ _ _) (by rw [phase]; rfl) replaced
  | @move index _ _ moved =>
      exact replaced_move owned (sound index) moved replaced
  | hset present sent =>
      exact replaced_change (changes_update _ _ _)
        (fun kicked replacing => Or.inl ⟨kicked, replacing⟩) replaced
  | hdel different present sent =>
      refine replaced_change (changes_update _ _ _) ?_ replaced
      rw [Login.withTask_kicked, Login.withTask_phase]
      exact fun kicked replacing => Or.inl ⟨kicked, replacing⟩
  | rollback owed =>
      exact replaced_change (changes_update _ _ _)
        (fun kicked replacing => Or.inl ⟨kicked, replacing⟩) replaced
  | release held outside => exact Or.inl replaced
  | start phase =>
      exact replaced_idle (changes_update _ _ _) (by rw [phase]; rfl) replaced
  | finish phase agreed =>
      exact replaced_idle (changes_update _ _ _) (by rw [phase]; rfl) replaced
  | callbacks phase =>
      exact replaced_idle (changes_update _ _ _) (by rw [phase]; rfl) replaced
  | expire => exact Or.inl replaced

/-! ## A session that was kicked off -/

theorem Doomed.exposed {system : Logins} {index : Nat}
    (doomed : Doomed system index) :
    (system.logins index).phase.exposed = true := by
  rcases doomed with ended | closing | ⟨reading, _⟩
  · rw [ended]
    rfl
  · rw [closing]
    rfl
  · rw [reading]
    rfl

/-- Nobody cancels the reader. -/
theorem Doomed.of_same {other : Nat} (doomed : Doomed next other)
    (phase : (next.logins other).phase = (system.logins other).phase)
    (gateway : (next.logins other).gateway = (system.logins other).gateway)
    (flags : ∀ gateway, (next.gateways gateway).cancelled = true →
      (system.gateways gateway).cancelled = true) :
    Doomed system other := by
  rcases doomed with ended | closing | ⟨reading, cancelled⟩
  · exact Or.inl (phase.symm.trans ended)
  · exact Or.inr (Or.inl (phase.symm.trans closing))
  · refine Or.inr (Or.inr ⟨phase.symm.trans reading, ?_⟩)
    unfold tablesOf at cancelled ⊢
    rw [gateway] at cancelled
    exact flags _ cancelled

/-- Only the login that takes the step needs an argument of its own. -/
theorem Doomed.atStep {other : Nat} (doomed : Doomed next other)
    (changes : Changes system.logins next.logins index login)
    (flags : ∀ gateway, (next.gateways gateway).cancelled = true →
      (system.gateways gateway).cancelled = true)
    (own : Doomed next index → Doomed system index) :
    Doomed system other := by
  by_cases actor : other = index
  · rw [actor] at doomed ⊢
    exact own doomed
  · have same := changes.others other actor
    exact doomed.of_same (by rw [same]) (by rw [same]) flags

/-- Only the steps of its own reader change the login of such a session. -/
theorem Doomed.unchanged {other : Nat} (doomed : Doomed next other)
    (changes : Changes system.logins next.logins index login)
    (own : login.phase.exposed = true →
      login.phase = (system.logins index).phase ∧
        login.gateway = (system.logins index).gateway) :
    (next.logins other).phase = (system.logins other).phase ∧
      (next.logins other).gateway = (system.logins other).gateway := by
  by_cases actor : other = index
  · subst actor
    have exposed := doomed.exposed
    rw [changes.own] at exposed ⊢
    exact own exposed
  · rw [changes.others other actor]
    exact ⟨rfl, rfl⟩

theorem Doomed.change {other : Nat} (doomed : Doomed next other)
    (changes : Changes system.logins next.logins index login)
    (flags : ∀ gateway, (next.gateways gateway).cancelled = true →
      (system.gateways gateway).cancelled = true)
    (own : login.phase.exposed = true →
      login.phase = (system.logins index).phase ∧
        login.gateway = (system.logins index).gateway) :
    Doomed system other := by
  obtain ⟨phase, gateway⟩ := doomed.unchanged changes own
  exact doomed.of_same phase gateway flags

theorem flags_withTables {gateway : Nat} {tables : GatewayTables}
    (flag : tables.cancelled = true →
      (system.gateways gateway).cancelled = true) (place : Nat)
    (cancelled : (Function.update system.gateways gateway tables
      place).cancelled = true) :
    (system.gateways place).cancelled = true := by
  by_cases here : place = gateway
  · subst here
    rw [Function.update_self] at cancelled
    exact flag cancelled
  · rwa [Function.update_of_ne here] at cancelled

/-- A gateway that cancels the reader of a session does so for a login that
replaces the session. -/
theorem Doomed.cancel {other : Nat} (doomed : Doomed next other)
    (coherent : Coherent system) {addr : Nat}
    (changes : Changes system.logins next.logins index login)
    (gateways : next.gateways = Function.update system.gateways addr
      ((system.gateways addr).cancelAndWait index))
    (gateway : login.gateway = (system.logins index).gateway)
    (own : login.phase.exposed = true →
      login.phase = (system.logins index).phase)
    (kicked : system.runs addr = true → login.kicked = true)
    (replacing : login.phase.replacing = true) :
    Doomed system other ∨ Replaced next := by
  obtain ⟨samePhase, sameGateway⟩ :=
    doomed.unchanged changes (fun exposed => ⟨own exposed, gateway⟩)
  rcases doomed with ended | closing | ⟨reading, cancelled⟩
  · exact Or.inl (Or.inl (samePhase.symm.trans ended))
  · exact Or.inl (Or.inr (Or.inl (samePhase.symm.trans closing)))
  · rw [samePhase] at reading
    by_cases here : (system.logins other).gateway = addr
    · right
      have running := coherent.task_eq (by rw [reading]; rfl)
      refine ⟨index, ?_, ?_⟩
      · rw [changes.own]
        apply kicked
        unfold tablesOf at running
        rw [here] at running
        simp only [runs, running, reading, decide_true]
      · rw [changes.own]
        exact replacing
    · refine Or.inl (Or.inr (Or.inr ⟨reading, ?_⟩))
      unfold tablesOf at cancelled ⊢
      rw [sameGateway, gateways, Function.update_of_ne here] at cancelled
      exact cancelled

theorem Doomed.start {other : Nat} (doomed : Doomed next other)
    (changes : Changes system.logins next.logins index
      { system.logins index with phase := .reading })
    (spared : (next.tablesOf index).cancelled = false)
    (flags : ∀ gateway, (next.gateways gateway).cancelled = true →
      (system.gateways gateway).cancelled = true) :
    Doomed system other := by
  apply doomed.atStep changes flags
  intro doomed
  have reading := congrArg Login.phase changes.own
  rcases doomed with ended | closing | ⟨_, cancelled⟩
  · cases reading.symm.trans ended
  · cases reading.symm.trans closing
  · rw [spared] at cancelled
    cases cancelled

theorem Doomed.finish {other : Nat} (doomed : Doomed next other)
    {cause : EndCause}
    (changes : Changes system.logins next.logins index
      { system.logins index with phase := .ended cause })
    (reading : (system.logins index).phase = .reading)
    (agreed : (system.tablesOf index).cancelled = decide (cause = .kicked))
    (flags : ∀ gateway, (next.gateways gateway).cancelled = true →
      (system.gateways gateway).cancelled = true) :
    Doomed system other := by
  apply doomed.atStep changes flags
  intro doomed
  have ended := congrArg Login.phase changes.own
  rcases doomed with kicked | closing | ⟨again, _⟩
  · cases ended.symm.trans kicked
    exact Or.inr (Or.inr ⟨reading, agreed⟩)
  · cases ended.symm.trans closing
  · cases ended.symm.trans again

theorem Doomed.callbacks {other : Nat} (doomed : Doomed next other)
    {cause : EndCause}
    (changes : Changes system.logins next.logins index
      { system.logins index with phase := .closing cause })
    (ended : (system.logins index).phase = .ended cause)
    (flags : ∀ gateway, (next.gateways gateway).cancelled = true →
      (system.gateways gateway).cancelled = true) :
    Doomed system other := by
  apply doomed.atStep changes flags
  intro doomed
  have closing := congrArg Login.phase changes.own
  rcases doomed with again | kicked | ⟨reading, _⟩
  · cases closing.symm.trans again
  · cases closing.symm.trans kicked
    exact Or.inl ended
  · cases closing.symm.trans reading

theorem Doomed.stepped {other : Nat} (doomed : Doomed next other)
    (coherent : Coherent system)
    (orderly : system.Orderly action)
    (stepped : Stepped system action next) :
    Doomed system other ∨ Replaced next := by
  cases stepped with
  | begin absent free =>
      exact Or.inl
        (doomed.change (changes_update _ _ _) (fun _ => id) nofun)
  | deleteLock => exact orderly.elim
  | registers phase free =>
      refine Or.inl (doomed.change (changes_update _ _ _)
        (flags_withTables ?_) nofun)
      exact id
  | finds phase found =>
      exact Or.inl
        (doomed.change (changes_update _ _ _) (fun _ => id) nofun)
  | failsEarly phase =>
      exact Or.inl
        (doomed.change (changes_update _ _ _) (fun _ => id) nofun)
  | failsWaiting phase =>
      refine Or.inl (doomed.change (changes_update _ _ _)
        (flags_withTables ?_) nofun)
      exact id
  | failsRegistered recycles =>
      refine Or.inl (doomed.change (changes_update _ _ _)
        (flags_withTables ?_) nofun)
      rw [GatewayTables.recycle_cancelled]
      exact id
  | failsTaking phase =>
      refine Or.inl (doomed.change (changes_update _ _ _)
        (flags_withTables ?_) nofun)
      exact id
  | checkedFree phase free =>
      exact Or.inl
        (doomed.change (changes_update _ _ _) (fun _ => id) nofun)
  | checkedFound phase found =>
      exact Or.inl
        (doomed.change (changes_update _ _ _) (fun _ => id) nofun)
  | kickHereGone phase free =>
      exact Or.inl
        (doomed.change (changes_update _ _ _) (fun _ => id) nofun)
  | kickHere phase found =>
      refine doomed.cancel coherent (changes_update _ _ _) rfl rfl nofun ?_
        rfl
      intro running
      rw [running]
      exact Bool.or_true _
  | lookupGone phase free =>
      exact Or.inl
        (doomed.change (changes_update _ _ _) (fun _ => id) nofun)
  | lookup phase found =>
      exact Or.inl
        (doomed.change (changes_update _ _ _) (fun _ => id) nofun)
  | kickAcked sent unstarted phase =>
      exact Or.inl
        (doomed.change (changes_update _ _ _) (fun _ => id) nofun)
  | kickVain sent =>
      exact Or.inl (doomed.change (changes_update _ _ _) (fun _ => id)
        (fun _ => ⟨rfl, rfl⟩))
  | @kick index addr reader found sent running listed =>
      have phase := orderly.kick sent running
      refine doomed.cancel coherent (changes_update _ _ _) rfl rfl
        (fun _ => rfl) ?_ ?_
      · intro running
        rw [running]
        exact Bool.or_true _
      · rw [phase]
        rfl
  | takes phase told =>
      refine Or.inl (doomed.change (changes_update _ _ _)
        (flags_withTables ?_) nofun)
      exact id
  | acked phase told =>
      refine Or.inl (doomed.change (changes_update _ _ _)
        (flags_withTables ?_) nofun)
      exact id
  | unsent phase =>
      refine Or.inl (doomed.change (changes_update _ _ _)
        (flags_withTables ?_) nofun)
      rw [GatewayTables.recycle_cancelled]
      exact id
  | move moved =>
      exact Or.inl (doomed.change (changes_update _ _ _) (fun _ => id)
        (fun exposed => ⟨moved.exposed exposed, moved.gateway⟩))
  | hset present sent =>
      exact Or.inl (doomed.change (changes_update _ _ _) (fun _ => id)
        (fun _ => ⟨rfl, rfl⟩))
  | hdel different present sent =>
      exact Or.inl (doomed.change (changes_update _ _ _) (fun _ => id)
        (fun _ => ⟨Login.withTask_phase .., Login.withTask_gateway ..⟩))
  | rollback owed =>
      exact Or.inl (doomed.change (changes_update _ _ _) (fun _ => id)
        (fun _ => ⟨rfl, rfl⟩))
  | release held outside => exact Or.inl doomed
  | start phase =>
      refine Or.inl (doomed.start (changes_update _ _ _) ?_
        (flags_withTables nofun))
      simp only [tablesOf, advance, withTables, withLogin,
        Function.update_self]
  | finish phase agreed =>
      exact Or.inl
        (doomed.finish (changes_update _ _ _) phase agreed (fun _ => id))
  | callbacks phase =>
      refine Or.inl (doomed.callbacks (changes_update _ _ _) phase
        (flags_withTables ?_))
      dsimp only
      rw [GatewayTables.recycle_cancelled]
      exact id
  | expire =>
      refine Or.inl (doomed.of_same rfl rfl (flags_withTables ?_))
      exact id

/-! ## The owner of the entry -/

theorem rollbackOwed_of_undone {task : RedisTask} {reply : Bool}
    (undone : login.Undone) (found : login.hset = some task)
    (executed : task.stage = .executed reply)
    (unrolled : login.rolledBack = false) : rollbackOwed login = true := by
  obtain ⟨stage, waiter⟩ := task
  cases executed
  rcases undone.task found with dropped | cancelled
  · cases dropped
  · cases cancelled
    simp only [rollbackOwed, found, unrolled, Bool.not_false]

theorem rollbackOwed_of_sent (sound : login.Sound) {task : RedisTask}
    (found : login.hset = some task) (sent : task.stage = .sent)
    (inactive : login.phase ≠ .activating) (reply : Bool) :
    rollbackOwed
      { login with hset := some { task with stage := .executed reply } } =
        true := by
  have unrolled := sound.unrolled found (by
    intro other executed
    rw [sent] at executed
    cases executed)
  obtain ⟨stage, waiter⟩ := task
  cases sent
  rcases sound.abandoned _ found inactive with dropped | cancelled | told
  · cases dropped
  · cases cancelled
    simp only [rollbackOwed, unrolled, Bool.not_false]
  · obtain ⟨other, same⟩ := told
    cases same

theorem Accounted.change (accounted : Accounted system)
    (owner : next.owner = system.owner)
    (changes : Changes system.logins next.logins index login)
    (replaced : Replaced system → Replaced next ∨ Renewed next)
    (doomed : ∀ other, Doomed next other →
      Doomed system other ∨ Replaced next)
    (held : system.owner = some index → (system.logins index).Held →
      login.Held ∨ Replaced system) : Accounted next := by
  constructor
  · intro other mine
    have before : (next.logins other).Held ∨ Replaced system := by
      rw [owner] at mine
      rcases accounted.held other mine with kept | replacing
      · by_cases actor : other = index
        · subst actor
          rw [changes.own]
          exact held mine kept
        · rw [changes.others other actor]
          exact Or.inl kept
      · exact Or.inr replacing
    rcases before with kept | replacing
    · exact Or.inl kept
    · rcases replaced replacing with still | ⟨renewed, theirs, phase⟩
      · exact Or.inr still
      · cases mine.symm.trans theirs
        refine Or.inl (Or.inr (Or.inl ?_))
        rcases phase with greeting | taking
        · rw [greeting]
          rfl
        · rw [taking]
          rfl
  · intro other mine ended
    rcases doomed other ended with before | replacing
    · rcases replaced (accounted.doomed other (owner.symm.trans mine) before)
        with still | ⟨renewed, theirs, phase⟩
      · exact still
      · cases mine.symm.trans theirs
        have exposed := ended.exposed
        rcases phase with greeting | taking
        · rw [greeting] at exposed
          cases exposed
        · rw [taking] at exposed
          cases exposed
    · exact replacing

theorem held_keeps {before after : Login} (held : before.Held)
    (phase : after.phase = before.phase ∨ after.phase.holds = true ∨
      before.phase ≠ .activating ∧ before.phase.holds = false)
    (hdel : before.hdel ≠ none → after.hdel ≠ none)
    (hset : after.hset = before.hset)
    (rolledBack : after.rolledBack = before.rolledBack) : after.Held := by
  rcases held with activating | holds | issued | owed
  · rcases phase with same | holds | ⟨other, _⟩
    · exact Or.inl (same.trans activating)
    · exact Or.inr (Or.inl holds)
    · exact absurd activating other
  · rcases phase with same | holds | ⟨_, free⟩
    · rw [← same] at holds
      exact Or.inr (Or.inl holds)
    · exact Or.inr (Or.inl holds)
    · rw [free] at holds
      cases holds
  · exact Or.inr (Or.inr (Or.inl (hdel issued)))
  · refine Or.inr (Or.inr (Or.inr ?_))
    unfold rollbackOwed at owed ⊢
    rw [hset, rolledBack]
    exact owed

theorem held_withTask {before : Login} (held : before.Held)
    {command : FieldCommand} {move : TaskMove} {task changed : RedisTask}
    (found : before.task command = some task)
    (moved : RedisTask.Moved task move changed) :
    (before.withTask changed command).Held := by
  cases command with
  | hset =>
      rcases held with activating | holds | issued | owed
      · exact Or.inl activating
      · exact Or.inr (Or.inl holds)
      · exact Or.inr (Or.inr (Or.inl issued))
      · obtain ⟨reply, done⟩ := rollbackOwed_hset owed
        cases done.symm.trans found
        cases moved.pending_of_executed rfl
  | hdel => exact held_keeps held (Or.inl rfl) (fun _ => nofun) rfl rfl
  | retry => exact held_keeps held (Or.inl rfl) id rfl rfl

theorem Accounted.held_move (accounted : Accounted system)
    (owned : Owned system) {move : LoginMove}
    (orderly : system.Orderly (.move index move))
    (moved : Login.Moved (system.logins index) move login)
    (mine : system.owner = some index) (held : (system.logins index).Held) :
    login.Held ∨ Replaced system := by
  cases moved with
  | confirm phase =>
      exact absurd mine (owned.unowned (by rw [phase]; rfl))
  | activate phase =>
      exact absurd mine (owned.unowned (by rw [phase]; rfl))
  | activated phase stored => exact Or.inl (Or.inr (Or.inl rfl))
  | greeted phase => exact Or.inl (Or.inr (Or.inl rfl))
  | withdrawn phase issued origin =>
      exact Or.inl (Or.inr (Or.inr (Or.inl issued)))
  | taken phase => exact Or.inl (Or.inr (Or.inl rfl))
  | quit phase =>
      refine Or.inl (held_keeps held (Or.inr (Or.inr ?_)) id rfl rfl)
      rw [phase]
      exact ⟨nofun, rfl⟩
  | closed phase => exact Or.inl (Or.inr (Or.inr (Or.inl nofun)))
  | @kept cause phase connected =>
      refine Or.inr (accounted.doomed index mine ?_)
      cases cause with
      | disconnected => exact absurd rfl connected
      | failed => cases orderly phase
      | kicked => exact Or.inr (Or.inl phase)
  | deactivated phase issued origin =>
      exact Or.inl (Or.inr (Or.inr (Or.inl issued)))
  | task present changed => exact Or.inl (held_withTask held present changed)

theorem Owned.held_fails (owned : Owned system)
    (orderly : system.Orderly (.fail index))
    (recycles : (system.logins index).phase.recycles = true)
    (mine : system.owner = some index) :
    Login.Held { system.logins index with phase := .leaving false } := by
  have entry := owned.entry index mine
  have activating : (system.logins index).phase = .activating := by
    by_contra other
    have early := LoginPhase.early_of_recycles recycles other
    exact owned.unowned early mine
  obtain ⟨task, found⟩ :=
    Option.ne_none_iff_exists'.mp (entry.sent activating)
  obtain ⟨reply, executed⟩ := entry.source task found
  have owed := rollbackOwed_of_undone (orderly.2.2 activating) found executed
    entry.unrolled
  exact Or.inr (Or.inr (Or.inr owed))

theorem accounted_acquire
    (changes : Changes system.logins next.logins index login)
    (owner : next.owner = some index) (held : login.Held)
    (unexposed : login.phase.exposed = false) : Accounted next := by
  constructor
  · intro other mine
    cases owner.symm.trans mine
    rw [changes.own]
    exact Or.inl held
  · intro other mine doomed
    cases owner.symm.trans mine
    have exposed := doomed.exposed
    rw [changes.own, unexposed] at exposed
    cases exposed

theorem Accounted.stepped (accounted : Accounted system)
    (coherent : Coherent system) (owned : Owned system)
    (sound : ∀ other, (system.logins other).Sound)
    (orderly : system.Orderly action)
    (stepped : Stepped system action next) : Accounted next := by
  have replaced := replaced_stepped owned sound orderly stepped
  have doomed := fun other (doomed : Doomed next other) =>
    doomed.stepped coherent orderly stepped
  have early {index : Nat} {login : Login}
      (phase : (system.logins index).phase.early = true)
      (owner : next.owner = system.owner)
      (changes : Changes system.logins next.logins index login) :
      Accounted next :=
    accounted.change owner changes replaced doomed
      (fun mine => absurd mine (owned.unowned phase))
  cases stepped with
  | begin absent free =>
      exact early (by rw [absent]; rfl) rfl (changes_update _ _ _)
  | deleteLock => exact orderly.elim
  | registers phase free =>
      exact early (by rw [phase]; rfl) rfl (changes_update _ _ _)
  | finds phase found =>
      exact early (by rw [phase]; rfl) rfl (changes_update _ _ _)
  | failsEarly phase =>
      refine early ?_ rfl (changes_update _ _ _)
      rcases phase with upgrading | asking
      · rw [upgrading]
        rfl
      · rw [asking]
        rfl
  | failsWaiting phase =>
      exact early (by rw [phase]; rfl) rfl (changes_update _ _ _)
  | @failsRegistered index recycles =>
      refine accounted.change rfl (changes_update _ _ _) replaced doomed ?_
      exact fun mine _ =>
        Or.inl (owned.held_fails orderly recycles mine)
  | failsTaking phase => exact absurd phase orderly.2.1
  | checkedFree phase free =>
      exact early (by rw [phase]; rfl) rfl (changes_update _ _ _)
  | checkedFound phase found =>
      exact early (by rw [phase]; rfl) rfl (changes_update _ _ _)
  | kickHereGone phase free =>
      exact early (by rw [phase]; rfl) rfl (changes_update _ _ _)
  | kickHere phase found =>
      exact early (by rw [phase]; rfl) rfl (changes_update _ _ _)
  | lookupGone phase free =>
      exact early (by rw [phase]; rfl) rfl (changes_update _ _ _)
  | lookup phase found =>
      exact early (by rw [phase]; rfl) rfl (changes_update _ _ _)
  | kickAcked sent unstarted phase =>
      exact early (by rw [phase]; rfl) rfl (changes_update _ _ _)
  | kickVain sent =>
      refine accounted.change rfl (changes_update _ _ _) replaced doomed ?_
      exact fun _ held => Or.inl (held_keeps held (Or.inl rfl) id rfl rfl)
  | kick sent running found =>
      refine accounted.change rfl (changes_update _ _ _) replaced doomed ?_
      exact fun _ held => Or.inl (held_keeps held (Or.inl rfl) id rfl rfl)
  | takes phase told =>
      exact accounted_acquire (changes_update _ _ _) rfl
        (Or.inr (Or.inl rfl)) rfl
  | acked phase told =>
      exact early (by rw [phase]; rfl) rfl (changes_update _ _ _)
  | unsent phase =>
      refine accounted.change rfl (changes_update _ _ _) replaced doomed ?_
      exact fun _ _ => Or.inl (Or.inr (Or.inr (Or.inl nofun)))
  | move moved =>
      exact accounted.change rfl (changes_update _ _ _) replaced doomed
        (accounted.held_move owned orderly moved)
  | @hset index task reply found sent =>
      have untold : ¬ task.Told := by
        rintro ⟨other, rfl⟩
        cases sent
      refine accounted_acquire (changes_update _ _ _) rfl ?_ ?_
      · by_cases activating : (system.logins index).phase = .activating
        · exact Or.inl activating
        · refine Or.inr (Or.inr (Or.inr ?_))
          exact rollbackOwed_of_sent (sound index) found sent activating reply
      · rw [← Bool.not_eq_true]
        intro exposed
        have holds := LoginPhase.holds_of_exposed exposed
        exact untold ((sound index).told task found (Or.inl holds))
  | hdel different present sent => exact ⟨nofun, nofun⟩
  | rollback owed => exact ⟨nofun, nofun⟩
  | release held outside => exact ⟨accounted.held, accounted.doomed⟩
  | start phase =>
      refine accounted.change rfl (changes_update _ _ _) replaced doomed ?_
      exact fun _ _ => Or.inl (Or.inr (Or.inl rfl))
  | finish phase agreed =>
      refine accounted.change rfl (changes_update _ _ _) replaced doomed ?_
      exact fun _ _ => Or.inl (Or.inr (Or.inl rfl))
  | callbacks phase =>
      refine accounted.change rfl (changes_update _ _ _) replaced doomed ?_
      exact fun _ _ => Or.inl (Or.inr (Or.inl rfl))
  | expire =>
      refine ⟨accounted.held, ?_⟩
      intro other mine ended
      rcases doomed other ended with before | replacing
      · exact accounted.doomed other mine before
      · exact replacing

/-! ## Quiescent points -/

/-- Everything that holds in every orderly run. -/
structure Registry (system : Logins) : Prop where
  coherent : Coherent system
  sound : ∀ index, (system.logins index).Sound
  owned : Owned system
  cleared : Cleared system
  accounted : Accounted system

theorem Registry.stepped (registry : Registry system)
    (orderly : system.Orderly action)
    (stepped : Stepped system action next) : Registry next := by
  obtain ⟨coherent, sound, owned, cleared, accounted⟩ := registry
  exact ⟨coherent.stepped stepped orderly.lawful,
    sound_stepped sound orderly stepped,
    owned.stepped coherent cleared sound orderly stepped,
    cleared.stepped coherent owned orderly stepped,
    accounted.stepped coherent owned sound orderly stepped⟩

/-- Nothing is on its way. -/
def Quiescent (system : Logins) : Prop :=
  ∀ index, (system.logins index).Settled

theorem untouched {trace : List Empty} {bound : Nat}
    (run : Run step (fun _ action => action.actor < bound) {} trace system)
    (large : bound ≤ index) : system.logins index = {} := by
  induction run with
  | refl => rfl
  | snoc _ small done same =>
      rw [(step_stepped done).others (by omega), same]

/-- If only the first two logins took steps, they decide whether the system
is quiescent. -/
theorem quiescent_of_settled {trace : List Empty}
    (run : Run step (fun _ action => action.actor < 2) {} trace system)
    (first : (system.logins 0).Settled)
    (second : (system.logins 1).Settled) : system.Quiescent := by
  intro index
  match index with
  | 0 => exact first
  | 1 => exact second
  | index + 2 =>
      rw [untouched run (Nat.le_add_left 2 index)]
      decide

end Logins

end Gateway

end TinyChat
