import TinyChat.Gateway.Logins

/-!
# What a step of the logins can do

One relation lists the moves of an endpoint and one the steps of the whole
system, with the guards of each; every invariant is proved by cases on them.
-/

namespace TinyChat

namespace Gateway

open Redis

/-- A step of an endpoint that touches no table: it stays registered or
unregistered, it may leave the body, and it does not come back. -/
structure LoginPhase.Steady (before after : LoginPhase) : Prop where
  registered : after.registered = before.registered
  hasTask : after.hasTask = before.hasTask
  inBody : after.inBody = true → before.inBody = true
  absent : after = .absent → before = .absent
  gone : before.gone = true → after.gone = true

theorem LoginPhase.Steady.refl (phase : LoginPhase) : phase.Steady phase :=
  ⟨rfl, rfl, id, id, id⟩

namespace Login

variable {login next : Login}

@[simp]
theorem withTask_phase (login : Login) (task : RedisTask)
    (command : FieldCommand) :
    (login.withTask task command).phase = login.phase := by
  cases command <;> rfl

@[simp]
theorem withTask_gateway (login : Login) (task : RedisTask)
    (command : FieldCommand) :
    (login.withTask task command).gateway = login.gateway := by
  cases command <;> rfl

@[simp]
theorem withTask_kick (login : Login) (task : RedisTask)
    (command : FieldCommand) :
    (login.withTask task command).kick = login.kick := by
  cases command <;> rfl

@[simp]
theorem withTask_kicked (login : Login) (task : RedisTask)
    (command : FieldCommand) :
    (login.withTask task command).kicked = login.kicked := by
  cases command <;> rfl

@[simp]
theorem task_withTask_same (login : Login) (task : RedisTask)
    (command : FieldCommand) :
    (login.withTask task command).task command = some task := by
  cases command <;> rfl

theorem task_withTask_of_ne (login : Login) (task : RedisTask)
    {command other : FieldCommand} (different : other ≠ command) :
    (login.withTask task command).task other = login.task other := by
  cases command <;> cases other <;> first | rfl | exact absurd rfl different

/-- The outcome of the first `HDEL` decides whether there is a second. -/
theorem deactivate_eq {phase : LoginPhase}
    (deactivated : login.deactivate phase = some next) :
    login.hdel ≠ none ∧
      ∃ retry, (retry = login.retry ∨ retry = some {}) ∧
        next = { login with phase := phase, retry := retry } := by
  unfold deactivate at deactivated
  split at deactivated
  · cases deactivated
  · rename_i task present
    refine ⟨Option.ne_none_iff_exists'.mpr ⟨task, present⟩, ?_⟩
    split at deactivated
    · cases deactivated
      exact ⟨login.retry, Or.inl rfl, rfl⟩
    · cases deactivated
      exact ⟨_, Or.inr rfl, rfl⟩
    · cases deactivated
      exact ⟨_, Or.inr rfl, rfl⟩
    · cases deactivated
      exact ⟨_, Or.inr rfl, rfl⟩
    · cases deactivated

/-- Everything that a move can do to a login. -/
inductive Moved (login : Login) : LoginMove → Login → Prop where
  | confirm : login.phase = .asking →
      Moved login .confirm { login with phase := .pushing }
  | activate : login.phase = .acked →
      Moved login .activate
        { login with phase := .activating, hset := some {} }
  | activated : login.phase = .activating → login.stored = true →
      Moved login .activated { login with phase := .greeting }
  | greeted : login.phase = .greeting →
      Moved login .greeted
        { login with phase := .leaving true, completed := true }
  | withdrawn {retry : Option RedisTask} : login.phase = .withdrawing →
      login.hdel ≠ none →
      retry = login.retry ∨ retry = some {} →
      Moved login .withdrawn
        { login with phase := .leaving false, retry := retry }
  | taken : login.phase = .taking →
      Moved login .taken
        { login with phase := .leaving true, completed := true }
  | quit : login.phase = .leaving false →
      Moved login .quit { login with phase := .returned }
  | closed {cause : EndCause} : login.phase = .closing cause →
      Moved login (.close true)
        { login with phase := .deactivating, hdel := some {} }
  | kept {cause : EndCause} : login.phase = .closing cause →
      cause ≠ .disconnected →
      Moved login (.close false) { login with phase := .returned }
  | deactivated {retry : Option RedisTask} : login.phase = .deactivating →
      login.hdel ≠ none →
      retry = login.retry ∨ retry = some {} →
      Moved login .deactivated
        { login with phase := .returned, retry := retry }
  | task {command : FieldCommand} {move : TaskMove}
      {task changed : RedisTask} : login.task command = some task →
      RedisTask.Moved task move changed →
      Moved login (.task command move) (login.withTask changed command)

theorem move_moved {move : LoginMove} (moved : login.move move = some next) :
    Moved login move next := by
  cases move with
  | confirm =>
      simp only [Login.move] at moved
      split at moved
      · rename_i phase
        cases moved
        exact .confirm phase
      · cases moved
  | activate =>
      simp only [Login.move] at moved
      split at moved
      · rename_i phase
        cases moved
        exact .activate phase
      · cases moved
  | activated =>
      simp only [Login.move] at moved
      split at moved
      · rename_i phase
        split at moved
        · rename_i stored
          cases moved
          exact .activated phase stored
        · cases moved
      · cases moved
  | greeted =>
      simp only [Login.move] at moved
      split at moved
      · rename_i phase
        cases moved
        exact .greeted phase
      · cases moved
  | withdrawn =>
      simp only [Login.move] at moved
      split at moved
      · rename_i phase
        obtain ⟨issued, retry, origin, rfl⟩ := deactivate_eq moved
        exact .withdrawn phase issued origin
      · cases moved
  | taken =>
      simp only [Login.move] at moved
      split at moved
      · rename_i phase
        cases moved
        exact .taken phase
      · cases moved
  | quit =>
      simp only [Login.move] at moved
      split at moved
      · rename_i phase
        cases moved
        exact .quit phase
      · cases moved
  | close closed =>
      simp only [Login.move, Login.close] at moved
      split at moved
      · rename_i cause phase
        split at moved
        · rename_i read
          cases moved
          rw [read]
          exact .closed phase
        · rename_i unread
          split at moved
          · cases moved
          · rename_i other
            cases moved
            rw [Bool.not_eq_true] at unread
            rw [unread]
            exact .kept phase other
      · cases moved
  | deactivated =>
      simp only [Login.move] at moved
      split at moved
      · rename_i phase
        obtain ⟨issued, retry, origin, rfl⟩ := deactivate_eq moved
        exact .deactivated phase issued origin
      · cases moved
  | task command move =>
      simp only [Login.move] at moved
      split at moved
      · cases moved
      · rename_i task present
        obtain ⟨changed, done, rfl⟩ := Option.map_eq_some_iff.mp moved
        exact .task present (RedisTask.move_moved done)

theorem Moved.gateway {move : LoginMove} (moved : Moved login move next) :
    next.gateway = login.gateway := by
  cases moved with
  | task present changed => exact withTask_gateway ..
  | _ => rfl

theorem Moved.kick {move : LoginMove} (moved : Moved login move next) :
    next.kick = login.kick := by
  cases moved with
  | task present changed => exact withTask_kick ..
  | _ => rfl

theorem Moved.steady {move : LoginMove} (moved : Moved login move next) :
    login.phase.Steady next.phase := by
  cases moved with
  | confirm phase =>
      rw [phase]
      exact ⟨rfl, rfl, id, nofun, nofun⟩
  | activate phase =>
      rw [phase]
      exact ⟨rfl, rfl, id, nofun, nofun⟩
  | activated phase stored =>
      rw [phase]
      exact ⟨rfl, rfl, id, nofun, nofun⟩
  | greeted phase =>
      rw [phase]
      exact ⟨rfl, rfl, nofun, nofun, nofun⟩
  | withdrawn phase issued origin =>
      rw [phase]
      exact ⟨rfl, rfl, nofun, nofun, nofun⟩
  | taken phase =>
      rw [phase]
      exact ⟨rfl, rfl, nofun, nofun, nofun⟩
  | quit phase =>
      rw [phase]
      exact ⟨rfl, rfl, nofun, nofun, fun _ => rfl⟩
  | closed phase =>
      rw [phase]
      exact ⟨rfl, rfl, nofun, nofun, fun _ => rfl⟩
  | kept phase other =>
      rw [phase]
      exact ⟨rfl, rfl, nofun, nofun, fun _ => rfl⟩
  | deactivated phase issued origin =>
      rw [phase]
      exact ⟨rfl, rfl, nofun, nofun, fun _ => rfl⟩
  | task present changed =>
      rw [withTask_phase]
      exact .refl _

end Login

/-- A phase from which a failing login recycles its session. -/
def LoginPhase.recycles : LoginPhase → Bool
  | .checking | .asking | .pushing | .kicking _ | .acked | .activating =>
      true
  | _ => false

/-- The login that takes a step; the steps that are of no login are counted
as steps of the first. -/
def LoginsAction.actor : LoginsAction → Nat
  | .begin index _ => index
  | .deleteLock => 0
  | .upgraded index => index
  | .fail index => index
  | .checked index => index
  | .kickHere index => index
  | .lookup index => index
  | .kick index => index
  | .recycled index => index
  | .unsent index => index
  | .move index _ => index
  | .execute index _ => index
  | .rollback index => index
  | .release index => index
  | .start index => index
  | .finish index _ => index
  | .callbacks index => index
  | .expire _ => 0

namespace Logins

/-- Everything that a step can do. -/
inductive Stepped (system : Logins) : LoginsAction → Logins → Prop where
  | begin {index gateway : Nat} : (system.logins index).phase = .absent →
      system.lock = none →
      Stepped system (.begin index gateway)
        { system.withLogin index
            { gateway := gateway, phase := .upgrading } with
          lock := some index }
  | deleteLock : Stepped system .deleteLock { system with lock := none }
  | registers {index : Nat} : (system.logins index).phase = .upgrading →
      (system.tablesOf index).session = none →
      Stepped system (.upgraded index)
        (system.advance index
          { system.logins index with phase := .checking }
          { system.tablesOf index with session := some index })
  | finds {index other : Nat} : (system.logins index).phase = .upgrading →
      (system.tablesOf index).session = some other →
      Stepped system (.upgraded index)
        (system.withLogin index
          { system.logins index with
            phase := .askingHere
            former := some other })
  | failsEarly {index : Nat} :
      (system.logins index).phase = .upgrading ∨
        (system.logins index).phase = .askingHere →
      Stepped system (.fail index)
        (system.withLogin index
          { system.logins index with phase := .leaving false })
  | failsWaiting {index : Nat} : (system.logins index).phase = .waiting →
      Stepped system (.fail index)
        (system.advance index
          { system.logins index with phase := .leaving false }
          { system.tablesOf index with waiter := none })
  | failsRegistered {index : Nat} :
      (system.logins index).phase.recycles = true →
      Stepped system (.fail index)
        (system.advance index
          { system.logins index with phase := .leaving false }
          (system.tablesOf index).recycle)
  | failsTaking {index : Nat} : (system.logins index).phase = .taking →
      Stepped system (.fail index)
        (system.advance index
          { system.logins index with phase := .leaving false }
          (system.tablesOf index).retrieve)
  | checkedFree {index : Nat} : (system.logins index).phase = .checking →
      system.field = none →
      Stepped system (.checked index)
        (system.withLogin index
          { system.logins index with phase := .activating, hset := some {} })
  | checkedFound {index addr : Nat} :
      (system.logins index).phase = .checking → system.field = some addr →
      Stepped system (.checked index)
        (system.withLogin index
          { system.logins index with
            phase := .asking
            former := (system.gateways addr).session.filter (fun other =>
              other ≠ index) })
  | kickHereGone {index : Nat} :
      (system.logins index).phase = .askingHere →
      (system.tablesOf index).session = none →
      Stepped system (.kickHere index)
        (system.withLogin index
          { system.logins index with phase := .leaving false })
  | kickHere {index other : Nat} :
      (system.logins index).phase = .askingHere →
      (system.tablesOf index).session = some other →
      Stepped system (.kickHere index)
        (system.advance index
          { system.logins index with
            phase := .waiting
            kicked := (system.logins index).kicked ||
              system.runs (system.logins index).gateway }
          ((system.tablesOf index).cancelAndWait index))
  | lookupGone {index : Nat} : (system.logins index).phase = .pushing →
      system.field = none →
      Stepped system (.lookup index)
        (system.withLogin index { system.logins index with phase := .acked })
  | lookup {index addr : Nat} : (system.logins index).phase = .pushing →
      system.field = some addr →
      Stepped system (.lookup index)
        (system.withLogin index
          { system.logins index with
            phase := .kicking addr
            kick := some addr })
  | kickAcked {index addr : Nat} :
      (system.logins index).kick = some addr →
      (system.gateways addr).task = none →
      (system.logins index).phase = .kicking addr →
      Stepped system (.kick index)
        (system.withLogin index
          { system.logins index with kick := none, phase := .acked })
  | kickVain {index addr : Nat} :
      (system.logins index).kick = some addr →
      Stepped system (.kick index)
        (system.withLogin index { system.logins index with kick := none })
  | kick {index addr reader other : Nat} :
      (system.logins index).kick = some addr →
      (system.gateways addr).task = some reader →
      (system.gateways addr).session = some other →
      Stepped system (.kick index)
        ((system.withLogin index
          { system.logins index with
            kick := none
            kicked := (system.logins index).kicked ||
              system.runs addr }).withTables addr
              ((system.gateways addr).cancelAndWait index))
  | takes {index : Nat} : (system.logins index).phase = .waiting →
      (system.tablesOf index).waiter = some (index, true) →
      Stepped system (.recycled index)
        { system.advance index { system.logins index with phase := .taking }
            { system.tablesOf index with
              session := some index
              waiter := none } with
          owner := some index }
  | acked {index addr : Nat} :
      (system.logins index).phase = .kicking addr →
      (system.gateways addr).waiter = some (index, true) →
      Stepped system (.recycled index)
        ((system.withLogin index
          { system.logins index with phase := .acked }).withTables addr
            { system.gateways addr with waiter := none })
  | unsent {index : Nat} : (system.logins index).phase = .greeting →
      Stepped system (.unsent index)
        (system.advance index
          { system.logins index with
            phase := .withdrawing
            hdel := some {} }
          (system.tablesOf index).recycle)
  | move {index : Nat} {move : LoginMove} {login : Login} :
      Login.Moved (system.logins index) move login →
      Stepped system (.move index move) (system.withLogin index login)
  | hset {index : Nat} {task : RedisTask} {reply : Bool} :
      (system.logins index).hset = some task → task.stage = .sent →
      Stepped system (.execute index .hset)
        { system.withLogin index
            { system.logins index with
              hset := some { task with stage := .executed reply } } with
          field := some (system.logins index).gateway
          owner := some index }
  | hdel {index : Nat} {command : FieldCommand} {task : RedisTask}
      {reply : Bool} : command ≠ .hset →
      (system.logins index).task command = some task → task.stage = .sent →
      Stepped system (.execute index command)
        { system.withLogin index
            ((system.logins index).withTask
              { task with stage := .executed reply } command) with
          field := none
          owner := none }
  | rollback {index : Nat} : rollbackOwed (system.logins index) = true →
      Stepped system (.rollback index)
        { system.withLogin index
            { system.logins index with rolledBack := true } with
          field := none
          owner := none }
  | release {index : Nat} : system.lock = some index →
      (system.logins index).phase.inBody = false →
      Stepped system (.release index) { system with lock := none }
  | start {index : Nat} : (system.logins index).phase = .leaving true →
      Stepped system (.start index)
        (system.advance index
          { system.logins index with phase := .reading }
          { system.tablesOf index with
            task := some index
            cancelled := false })
  | finish {index : Nat} {cause : EndCause} :
      (system.logins index).phase = .reading →
      (system.tablesOf index).cancelled = decide (cause = .kicked) →
      Stepped system (.finish index cause)
        (system.withLogin index
          { system.logins index with phase := .ended cause })
  | callbacks {index : Nat} {cause : EndCause} :
      (system.logins index).phase = .ended cause →
      Stepped system (.callbacks index)
        (system.advance index
          { system.logins index with phase := .closing cause }
          { (system.tablesOf index).recycle with task := none })
  | expire {gateway : Nat} :
      Stepped system (.expire gateway)
        (system.withTables gateway
          { system.gateways gateway with waiter := none })

variable {system next : Logins} {action : LoginsAction}

theorem next_stepped (done : system.next action = some next) :
    Stepped system action next := by
  cases action with
  | begin index gateway =>
      simp only [Logins.next, Logins.begin] at done
      split at done
      · rename_i free
        cases done
        exact .begin free.1 free.2
      · cases done
  | deleteLock =>
      cases done
      exact .deleteLock
  | upgraded index =>
      simp only [Logins.next, upgraded] at done
      split at done
      · rename_i phase free
        cases done
        exact .registers phase free
      · rename_i other phase found
        cases done
        exact .finds phase found
      · cases done
  | fail index =>
      simp only [Logins.next, fail] at done
      split at done
      · rename_i phase
        cases done
        exact .failsEarly (Or.inl phase)
      · rename_i phase
        cases done
        exact .failsEarly (Or.inr phase)
      · rename_i phase
        cases done
        exact .failsWaiting phase
      · rename_i phase
        cases done
        exact .failsRegistered (by rw [phase]; rfl)
      · rename_i phase
        cases done
        exact .failsRegistered (by rw [phase]; rfl)
      · rename_i phase
        cases done
        exact .failsRegistered (by rw [phase]; rfl)
      · rename_i phase
        cases done
        exact .failsRegistered (by rw [phase]; rfl)
      · rename_i phase
        cases done
        exact .failsRegistered (by rw [phase]; rfl)
      · rename_i phase
        split at done
        · cases done
        · cases done
          exact .failsRegistered (by rw [phase]; rfl)
      · rename_i phase
        cases done
        exact .failsTaking phase
      · cases done
  | checked index =>
      simp only [Logins.next, checked] at done
      split at done
      · rename_i phase free
        cases done
        exact .checkedFree phase free
      · rename_i addr phase found
        cases done
        exact .checkedFound phase found
      · cases done
  | kickHere index =>
      simp only [Logins.next, Logins.kickHere] at done
      split at done
      · rename_i phase free
        cases done
        exact .kickHereGone phase free
      · rename_i other phase found
        cases done
        exact .kickHere phase found
      · cases done
  | lookup index =>
      simp only [Logins.next, Logins.lookup] at done
      split at done
      · rename_i phase free
        cases done
        exact .lookupGone phase free
      · rename_i addr phase found
        cases done
        exact .lookup phase found
      · cases done
  | kick index =>
      simp only [Logins.next, Logins.kick] at done
      split at done
      · cases done
      · rename_i addr sent
        split at done
        · rename_i idle
          cases done
          split
          · rename_i phase
            exact .kickAcked sent idle phase
          · exact .kickVain sent
        · cases done
          exact .kickVain sent
        · rename_i reader other running found
          cases done
          exact .kick sent running found
  | recycled index =>
      simp only [Logins.next, recycled] at done
      split at done
      · rename_i phase
        split at done
        · rename_i told
          cases done
          exact .takes phase told
        · cases done
      · rename_i addr phase
        split at done
        · rename_i told
          cases done
          exact .acked phase told
        · cases done
      · cases done
  | unsent index =>
      simp only [Logins.next, Logins.unsent] at done
      split at done
      · rename_i phase
        cases done
        exact .unsent phase
      · cases done
  | move index move =>
      obtain ⟨login, moved, rfl⟩ := Option.map_eq_some_iff.mp done
      exact .move (Login.move_moved moved)
  | execute index command =>
      simp only [Logins.next, execute] at done
      split at done
      · cases done
      · rename_i task present
        split at done
        · obtain ⟨changed, executed, rfl⟩ := Option.map_eq_some_iff.mp done
          obtain ⟨sent, rfl⟩ := RedisTask.execute_eq_some executed
          exact .hset present sent
        · rename_i other
          obtain ⟨changed, executed, rfl⟩ := Option.map_eq_some_iff.mp done
          obtain ⟨sent, rfl⟩ := RedisTask.execute_eq_some executed
          exact .hdel other present sent
  | rollback index =>
      simp only [Logins.next, Logins.rollback] at done
      split at done
      · rename_i owed
        cases done
        exact .rollback owed
      · cases done
  | release index =>
      simp only [Logins.next, Logins.release] at done
      split at done
      · rename_i held
        cases done
        exact .release held.1 held.2
      · cases done
  | start index =>
      simp only [Logins.next, Logins.start] at done
      split at done
      · rename_i phase
        cases done
        exact .start phase
      · cases done
  | finish index cause =>
      simp only [Logins.next, Logins.finish] at done
      split at done
      · rename_i phase
        split at done
        · rename_i agreed
          cases done
          exact .finish phase agreed
        · cases done
      · cases done
  | callbacks index =>
      simp only [Logins.next, Logins.callbacks] at done
      split at done
      · rename_i cause phase
        cases done
        exact .callbacks phase
      · cases done
  | expire gateway =>
      cases done
      exact .expire

end Logins

/-! ## What a step leaves alone -/

theorem LoginPhase.recycles_spec {phase : LoginPhase}
    (recycles : phase.recycles = true) :
    phase.inBody = true ∧ phase.registered = true ∧
      phase.hasTask = false := by
  revert recycles
  cases phase <;> intro recycles
  all_goals first | exact ⟨rfl, rfl, rfl⟩ | cases recycles

namespace Logins

/-- One login changes. -/
structure Changes (before after : Nat → Login) (index : Nat)
    (login : Login) : Prop where
  own : after index = login
  others : ∀ other, other ≠ index → after other = before other

theorem changes_update (before : Nat → Login) (index : Nat)
    (login : Login) :
    Changes before (Function.update before index login) index login :=
  ⟨Function.update_self .., fun _ different =>
    Function.update_of_ne different ..⟩

@[simp]
theorem withLogin_logins_same (system : Logins) (index : Nat)
    (login : Login) : (system.withLogin index login).logins index = login :=
  Function.update_self ..

theorem withLogin_logins_of_ne (system : Logins) (login : Login)
    {index other : Nat} (different : other ≠ index) :
    (system.withLogin index login).logins other = system.logins other :=
  Function.update_of_ne different ..

@[simp]
theorem withTables_gateways_same (system : Logins) (gateway : Nat)
    (tables : GatewayTables) :
    (system.withTables gateway tables).gateways gateway = tables :=
  Function.update_self ..

theorem withTables_gateways_of_ne (system : Logins) (tables : GatewayTables)
    {gateway other : Nat} (different : other ≠ gateway) :
    (system.withTables gateway tables).gateways other =
      system.gateways other :=
  Function.update_of_ne different ..

theorem advance_tablesOf (system : Logins) (index : Nat) (login : Login) :
    system.advance index login (system.tablesOf index) =
      system.withLogin index login := by
  unfold advance withTables tablesOf
  congr 1
  exact Function.update_eq_self ..

theorem advance_logins (system : Logins) (index : Nat) (login : Login)
    (tables : GatewayTables) :
    (system.advance index login tables).logins =
      (system.withLogin index login).logins :=
  rfl

theorem advance_gateways_same (system : Logins) (index : Nat)
    (login : Login) (tables : GatewayTables) :
    (system.advance index login tables).gateways
      (system.logins index).gateway = tables :=
  Function.update_self ..

theorem advance_gateways_of_ne (system : Logins) (index : Nat)
    (login : Login) (tables : GatewayTables) {gateway : Nat}
    (different : gateway ≠ (system.logins index).gateway) :
    (system.advance index login tables).gateways gateway =
      system.gateways gateway :=
  Function.update_of_ne different ..

theorem withLogin_gateway (system : Logins) {index : Nat} {login : Login}
    (gateway : login.gateway = (system.logins index).gateway) (other : Nat) :
    ((system.withLogin index login).logins other).gateway =
      (system.logins other).gateway := by
  by_cases same : other = index
  · subst same
    rw [withLogin_logins_same, gateway]
  · rw [withLogin_logins_of_ne _ _ same]

end Logins

theorem LoginPhase.gone_of_unregistered {phase : LoginPhase}
    (begun : phase ≠ .absent) (outside : phase.inBody = false)
    (unregistered : phase.registered = false) : phase.gone = true := by
  revert begun outside unregistered
  cases phase with
  | leaving success =>
      cases success
      · exact fun _ _ _ => rfl
      · nofun
  | absent => exact fun begun => absurd rfl begun
  | closing cause => exact fun _ _ _ => rfl
  | deactivating => exact fun _ _ _ => rfl
  | returned => exact fun _ _ _ => rfl
  | _ => nofun

theorem LoginPhase.gone_spec {phase : LoginPhase}
    (gone : phase.gone = true) :
    phase ≠ .absent ∧ phase.inBody = false ∧ phase.registered = false ∧
      phase.hasTask = false := by
  revert gone
  cases phase with
  | leaving success =>
      cases success
      · exact fun _ => ⟨nofun, rfl, rfl, rfl⟩
      · nofun
  | closing cause => exact fun _ => ⟨nofun, rfl, rfl, rfl⟩
  | deactivating => exact fun _ => ⟨nofun, rfl, rfl, rfl⟩
  | returned => exact fun _ => ⟨nofun, rfl, rfl, rfl⟩
  | _ => nofun

/-- What no step undoes: the gateway of a login, that it has left the body,
and that it is gone. -/
structure Login.Later (before after : Login) : Prop where
  gateway : before.phase ≠ .absent → after.gateway = before.gateway
  past : before.phase ≠ .absent → before.phase.inBody = false →
    after.phase ≠ .absent ∧ after.phase.inBody = false
  gone : before.phase.gone = true → after.phase.gone = true

namespace Login.Later

variable {login before after : Login}

theorem refl (login : Login) : login.Later login :=
  ⟨fun _ => rfl, fun begun outside => ⟨begun, outside⟩, id⟩

theorem of_steady (gateway : after.gateway = before.gateway)
    (steady : before.phase.Steady after.phase) : before.Later after := by
  refine ⟨fun _ => gateway, ?_, steady.gone⟩
  intro begun outside
  refine ⟨fun absent => begun (steady.absent absent), ?_⟩
  rw [← Bool.not_eq_true]
  intro inside
  rw [steady.inBody inside] at outside
  cases outside

theorem of_inBody (gateway : after.gateway = before.gateway)
    (inside : before.phase.inBody = true) : before.Later after := by
  refine ⟨fun _ => gateway, ?_, ?_⟩
  · intro _ outside
    rw [inside] at outside
    cases outside
  · intro gone
    rw [(LoginPhase.gone_spec gone).2.1] at inside
    cases inside

end Login.Later

namespace Logins

variable {system next : Logins} {action : LoginsAction}

theorem later_withLogin {index : Nat} {login : Login}
    (later : (system.logins index).Later login) (other : Nat) :
    (system.logins other).Later
      ((system.withLogin index login).logins other) := by
  by_cases same : other = index
  · subst same
    rw [withLogin_logins_same]
    exact later
  · rw [withLogin_logins_of_ne _ _ same]
    exact .refl _

theorem Stepped.later (stepped : Stepped system action next) (other : Nat) :
    (system.logins other).Later (next.logins other) := by
  cases stepped with
  | begin absent free =>
      refine later_withLogin ⟨?_, ?_, ?_⟩ other
      · exact fun begun => absurd absent begun
      · exact fun begun => absurd absent begun
      · intro gone
        rw [absent] at gone
        cases gone
  | deleteLock => exact .refl _
  | registers phase free =>
      refine later_withLogin ?_ other
      exact .of_inBody rfl (by rw [phase]; rfl)
  | finds phase found =>
      refine later_withLogin ?_ other
      exact .of_inBody rfl (by rw [phase]; rfl)
  | failsEarly phase =>
      refine later_withLogin ?_ other
      refine .of_inBody rfl ?_
      rcases phase with upgrading | asking
      · rw [upgrading]
        rfl
      · rw [asking]
        rfl
  | failsWaiting phase =>
      refine later_withLogin ?_ other
      exact .of_inBody rfl (by rw [phase]; rfl)
  | failsRegistered recycles =>
      refine later_withLogin ?_ other
      exact .of_inBody rfl (LoginPhase.recycles_spec recycles).1
  | failsTaking phase =>
      refine later_withLogin ?_ other
      exact .of_inBody rfl (by rw [phase]; rfl)
  | checkedFree phase free =>
      refine later_withLogin ?_ other
      exact .of_inBody rfl (by rw [phase]; rfl)
  | checkedFound phase found =>
      refine later_withLogin ?_ other
      exact .of_inBody rfl (by rw [phase]; rfl)
  | kickHereGone phase free =>
      refine later_withLogin ?_ other
      exact .of_inBody rfl (by rw [phase]; rfl)
  | kickHere phase found =>
      refine later_withLogin ?_ other
      exact .of_inBody rfl (by rw [phase]; rfl)
  | lookupGone phase free =>
      refine later_withLogin ?_ other
      exact .of_inBody rfl (by rw [phase]; rfl)
  | lookup phase found =>
      refine later_withLogin ?_ other
      exact .of_inBody rfl (by rw [phase]; rfl)
  | kickAcked sent unstarted phase =>
      refine later_withLogin ?_ other
      exact .of_inBody rfl (by rw [phase]; rfl)
  | kickVain sent =>
      refine later_withLogin ?_ other
      exact .of_steady rfl (.refl _)
  | kick sent running found =>
      refine later_withLogin ?_ other
      exact .of_steady rfl (.refl _)
  | takes phase told =>
      refine later_withLogin ?_ other
      exact .of_inBody rfl (by rw [phase]; rfl)
  | acked phase told =>
      refine later_withLogin ?_ other
      exact .of_inBody rfl (by rw [phase]; rfl)
  | unsent phase =>
      refine later_withLogin ?_ other
      exact .of_inBody rfl (by rw [phase]; rfl)
  | move moved =>
      exact later_withLogin (.of_steady moved.gateway moved.steady) other
  | hset present sent =>
      refine later_withLogin ?_ other
      exact .of_steady rfl (.refl _)
  | hdel different present sent =>
      refine later_withLogin (.of_steady (Login.withTask_gateway ..) ?_) other
      rw [Login.withTask_phase]
      exact .refl _
  | rollback owed =>
      refine later_withLogin ?_ other
      exact .of_steady rfl (.refl _)
  | release held outside => exact .refl _
  | start phase =>
      refine later_withLogin ?_ other
      refine ⟨fun _ => rfl, ?_, ?_⟩
      · exact fun _ _ => ⟨nofun, rfl⟩
      · intro gone
        rw [phase] at gone
        cases gone
  | finish phase agreed =>
      refine later_withLogin ?_ other
      refine .of_steady rfl ?_
      rw [phase]
      exact ⟨rfl, rfl, nofun, nofun, nofun⟩
  | callbacks phase =>
      refine later_withLogin ?_ other
      exact ⟨fun _ => rfl, fun _ _ => ⟨nofun, rfl⟩, fun _ => rfl⟩
  | expire => exact .refl _

theorem Stepped.others (stepped : Stepped system action next) {other : Nat}
    (different : other ≠ action.actor) :
    next.logins other = system.logins other := by
  cases stepped with
  | deleteLock => rfl
  | release held outside => rfl
  | expire => rfl
  | _ => exact Function.update_of_ne different ..

end Logins

end Gateway

end TinyChat
