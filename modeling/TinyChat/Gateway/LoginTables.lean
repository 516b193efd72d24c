import TinyChat.Gateway.LoginSteps
import TinyChat.Lib.Table

/-!
# The tables of the gateways follow the logins

As long as every `DEL` of the lock belongs to its holder, the session table
and the task table of every gateway hold exactly the login that the code
means, whatever the order of the steps.
-/

namespace TinyChat

namespace Gateway

open Redis Transition

namespace GatewayTables

@[simp]
theorem recycle_session (tables : GatewayTables) :
    tables.recycle.session = none := by
  unfold recycle
  split
  · assumption
  · rfl

@[simp]
theorem recycle_task (tables : GatewayTables) :
    tables.recycle.task = tables.task := by
  unfold recycle
  split <;> rfl

@[simp]
theorem recycle_cancelled (tables : GatewayTables) :
    tables.recycle.cancelled = tables.cancelled := by
  unfold recycle
  split <;> rfl

theorem recycle_waiter {tables : GatewayTables} {index : Nat}
    {resolved : Bool}
    (waits : tables.recycle.waiter = some (index, resolved)) :
    ∃ before, tables.waiter = some (index, before) := by
  unfold recycle at waits
  split at waits
  · exact ⟨resolved, waits⟩
  · obtain ⟨⟨other, before⟩, waited, same⟩ :=
      Option.map_eq_some_iff.mp waits
    cases same
    exact ⟨before, waited⟩

end GatewayTables

/-- The lock is held by the login that is in the body, the tables hold the
logins whose phases say so, and after a recycling the one who waits for it is
the next to register. -/
structure Coherent (system : Logins) : Prop where
  inside : ∀ index, (system.logins index).phase.inBody = true →
    system.lock = some index
  listed : ∀ gateway index,
    (system.gateways gateway).session = some index ↔
      (system.logins index).gateway = gateway ∧
        (system.logins index).phase.registered = true
  tasks : ∀ gateway index,
    (system.gateways gateway).task = some index ↔
      (system.logins index).gateway = gateway ∧
        (system.logins index).phase.hasTask = true
  launched : ∀ index, (system.logins index).kick ≠ none →
    (system.logins index).phase ≠ .absent
  begun : ∀ gateway index resolved,
    (system.gateways gateway).waiter = some (index, resolved) →
      (system.logins index).phase ≠ .absent
  resolved : ∀ gateway index,
    (system.gateways gateway).waiter = some (index, true) →
      (system.logins index).phase.inBody = true →
      ∀ other, (system.gateways gateway).session = some other →
        other = index

namespace Logins

/-- A table of the gateways lists the logins whose phases carry a flag. -/
def Follows (system : Logins) (entry : GatewayTables → Option Nat)
    (flag : LoginPhase → Bool) : Prop :=
  Table.Lists (fun gateway => entry (system.gateways gateway))
    (fun index => (system.logins index).gateway)
    (fun index => flag (system.logins index).phase)

namespace Follows

variable {system : Logins} {entry : GatewayTables → Option Nat}
  {flag : LoginPhase → Bool} {index : Nat} {login : Login}
  {tables : GatewayTables}

theorem eq_of_flag (follows : system.Follows entry flag)
    (on : flag (system.logins index).phase = true) :
    entry (system.tablesOf index) = some index :=
  (follows _ index).mpr ⟨rfl, on⟩

theorem ne_of_flag (follows : system.Follows entry flag)
    (off : flag (system.logins index).phase = false) (gateway : Nat) :
    entry (system.gateways gateway) ≠ some index := by
  intro found
  have on := ((follows gateway index).mp found).2
  dsimp only at on
  rw [off] at on
  cases on

theorem advance (follows : system.Follows entry flag)
    (gateway : login.gateway = (system.logins index).gateway)
    (own : entry tables = some index ↔ flag login.phase = true)
    (kept : ∀ other, other ≠ index →
      (entry tables = some other ↔
        entry (system.tablesOf index) = some other)) :
    (system.advance index login tables).Follows entry flag := by
  have here := system.advance_gateways_same index login tables
  unfold Follows
  simp only [advance_logins, system.withLogin_gateway gateway]
  refine follows.change index ?_ ?_ ?_ ?_
  · intro place different
    rw [system.advance_gateways_of_ne index login tables different]
  · intro other different
    rw [system.withLogin_logins_of_ne login different]
  · rw [here, withLogin_logins_same]
    exact own
  · intro other different
    rw [here]
    exact kept other different

theorem begin (follows : system.Follows entry flag) {gateway : Nat}
    (absent : (system.logins index).phase = .absent)
    (unlisted : flag .absent = false) (early : flag .upgrading = false) :
    (system.withLogin index
      { gateway := gateway, phase := .upgrading }).Follows entry flag := by
  intro place other
  dsimp only
  by_cases same : other = index
  · subst same
    rw [withLogin_logins_same]
    refine iff_of_false (follows.ne_of_flag ?_ place) ?_
    · rw [absent]
      exact unlisted
    · rintro ⟨_, on⟩
      rw [early] at on
      cases on
  · rw [withLogin_logins_of_ne _ _ same]
    exact follows place other

theorem withTables (follows : system.Follows entry flag) {gateway : Nat}
    (same : entry tables = entry (system.gateways gateway)) :
    (system.withTables gateway tables).Follows entry flag := by
  intro place other
  refine Iff.trans ?_ (follows place other)
  dsimp only
  by_cases here : place = gateway
  · subst here
    rw [withTables_gateways_same, same]
  · rw [withTables_gateways_of_ne _ _ here]

end Follows

end Logins

namespace Coherent

open Logins

variable {system next : Logins} {index : Nat} {login : Login}
  {tables : GatewayTables}

theorem followsSession (coherent : Coherent system) :
    system.Follows GatewayTables.session LoginPhase.registered :=
  coherent.listed

theorem followsTask (coherent : Coherent system) :
    system.Follows GatewayTables.task LoginPhase.hasTask :=
  coherent.tasks

theorem advance (coherent : Coherent system)
    (gateway : login.gateway = (system.logins index).gateway)
    (inBody : login.phase.inBody = true →
      (system.logins index).phase.inBody = true)
    (absent : login.phase = .absent →
      (system.logins index).phase = .absent)
    (kick : login.kick ≠ none → (system.logins index).kick ≠ none ∨
      login.phase ≠ .absent)
    (session : tables.session = some index ↔ login.phase.registered = true)
    (sessions : ∀ other, other ≠ index →
      (tables.session = some other ↔
        (system.tablesOf index).session = some other))
    (task : tables.task = some index ↔ login.phase.hasTask = true)
    (tasks : ∀ other, other ≠ index →
      (tables.task = some other ↔
        (system.tablesOf index).task = some other))
    (begun : ∀ other resolved, tables.waiter = some (other, resolved) →
      (system.logins other).phase ≠ .absent)
    (resolved : ∀ other, tables.waiter = some (other, true) →
      (system.logins other).phase.inBody = true →
      ∀ found, tables.session = some found → found = other) :
    Coherent (system.advance index login tables) := by
  have own := system.advance_gateways_same index login tables
  have elsewhere {place : Nat}
      (different : place ≠ (system.logins index).gateway) :=
    system.advance_gateways_of_ne index login tables different
  have mine := system.withLogin_logins_same index login
  have others {other : Nat} (different : other ≠ index) :=
    system.withLogin_logins_of_ne login different
  have earlier : ∀ other,
      ((system.withLogin index login).logins other).phase.inBody = true →
        (system.logins other).phase.inBody = true := by
    intro other inside
    by_cases same : other = index
    · subst same
      rw [mine] at inside
      exact inBody inside
    · rwa [others same] at inside
  constructor
  · intro other inside
    exact coherent.inside other (earlier other inside)
  · exact coherent.followsSession.advance gateway session sessions
  · exact coherent.followsTask.advance gateway task tasks
  · intro other sent
    rw [advance_logins] at sent ⊢
    by_cases same : other = index
    · subst same
      rw [mine] at sent ⊢
      rcases kick sent with before | begun
      · exact fun gone => coherent.launched other before (absent gone)
      · exact begun
    · rw [others same] at sent ⊢
      exact coherent.launched other sent
  · intro place other told waits
    rw [advance_logins]
    have before : (system.logins other).phase ≠ .absent := by
      by_cases here : place = (system.logins index).gateway
      · subst here
        rw [own] at waits
        exact begun other told waits
      · rw [elsewhere here] at waits
        exact coherent.begun place other told waits
    by_cases same : other = index
    · subst same
      rw [mine]
      exact fun gone => before (absent gone)
    · rw [others same]
      exact before
  · intro place other waits inside found listed
    have before := earlier other inside
    by_cases here : place = (system.logins index).gateway
    · subst here
      rw [own] at waits listed
      exact resolved other waits before found listed
    · rw [elsewhere here] at waits listed
      exact coherent.resolved place other waits before found listed

theorem withLogin (coherent : Coherent system)
    (gateway : login.gateway = (system.logins index).gateway)
    (kick : login.kick ≠ none → (system.logins index).kick ≠ none ∨
      login.phase ≠ .absent)
    (steady : (system.logins index).phase.Steady login.phase) :
    Coherent (system.withLogin index login) := by
  rw [← system.advance_tablesOf]
  apply coherent.advance gateway steady.inBody steady.absent kick
  · rw [steady.registered]
    exact (coherent.listed _ index).trans (and_iff_right rfl)
  · exact fun other _ => Iff.rfl
  · rw [steady.hasTask]
    exact (coherent.tasks _ index).trans (and_iff_right rfl)
  · exact fun other _ => Iff.rfl
  · exact fun other told waits => coherent.begun _ other told waits
  · exact fun other waits inside => coherent.resolved _ other waits inside

theorem withPhase (coherent : Coherent system) {before : LoginPhase}
    (phase : (system.logins index).phase = before)
    (steady : before.Steady login.phase)
    (gateway : login.gateway = (system.logins index).gateway)
    (begun : login.phase ≠ .absent) :
    Coherent (system.withLogin index login) := by
  refine coherent.withLogin gateway (fun _ => Or.inr begun) ?_
  rw [phase]
  exact steady

theorem withTables (coherent : Coherent system) {gateway : Nat}
    (session : tables.session = (system.gateways gateway).session)
    (task : tables.task = (system.gateways gateway).task)
    (waiter : ∀ other resolved, tables.waiter = some (other, resolved) →
      (system.gateways gateway).waiter = some (other, resolved) ∨
        resolved = false ∧ (system.logins other).phase ≠ .absent) :
    Coherent (system.withTables gateway tables) := by
  have sessions := coherent.followsSession.withTables session
  have waits : ∀ place other resolved,
      ((system.withTables gateway tables).gateways place).waiter =
          some (other, resolved) →
        (system.gateways place).waiter = some (other, resolved) ∨
          resolved = false ∧ (system.logins other).phase ≠ .absent := by
    intro place other resolved waits
    by_cases here : place = gateway
    · subst here
      rw [withTables_gateways_same] at waits
      exact waiter other resolved waits
    · rw [withTables_gateways_of_ne _ _ here] at waits
      exact Or.inl waits
  constructor
  · exact coherent.inside
  · exact sessions
  · exact coherent.followsTask.withTables task
  · exact coherent.launched
  · intro place other resolved told
    rcases waits place other resolved told with before | ⟨_, begun⟩
    · exact coherent.begun place other resolved before
    · exact begun
  · intro place other told inside found listed
    have present := (coherent.listed place found).mpr
      ((sessions place found).mp listed)
    rcases waits place other true told with before | ⟨never, _⟩
    · exact coherent.resolved place other before inside found present
    · cases never

theorem withField (coherent : Coherent system)
    (field owner : Option Nat) :
    Coherent { system with field := field, owner := owner } :=
  ⟨coherent.inside, coherent.listed, coherent.tasks, coherent.launched,
    coherent.begun, coherent.resolved⟩

theorem session_eq (coherent : Coherent system)
    (registered : (system.logins index).phase.registered = true) :
    (system.tablesOf index).session = some index :=
  coherent.followsSession.eq_of_flag registered

theorem task_eq (coherent : Coherent system)
    (hasTask : (system.logins index).phase.hasTask = true) :
    (system.tablesOf index).task = some index :=
  coherent.followsTask.eq_of_flag hasTask

theorem session_of_task (coherent : Coherent system) {gateway : Nat}
    (found : (system.gateways gateway).task = some index) :
    (system.gateways gateway).session = some index := by
  obtain ⟨home, hasTask⟩ := (coherent.tasks gateway index).mp found
  refine (coherent.listed gateway index).mpr ⟨home, ?_⟩
  revert hasTask
  cases (system.logins index).phase <;> intro hasTask
  all_goals first | rfl | cases hasTask

theorem unlisted (coherent : Coherent system)
    (unregistered : (system.logins index).phase.registered = false) :
    (system.tablesOf index).session ≠ some index :=
  coherent.followsSession.ne_of_flag unregistered _

theorem idle (coherent : Coherent system)
    (unstarted : (system.logins index).phase.hasTask = false) :
    (system.tablesOf index).task ≠ some index :=
  coherent.followsTask.ne_of_flag unstarted _

theorem recycle (coherent : Coherent system)
    (registered : (system.logins index).phase.registered = true)
    (gateway : login.gateway = (system.logins index).gateway)
    (inBody : login.phase.inBody = true →
      (system.logins index).phase.inBody = true)
    (gone : login.phase ≠ .absent)
    (unregistered : login.phase.registered = false)
    (session : tables.session = none)
    (task : tables.task = some index ↔ login.phase.hasTask = true)
    (tasks : ∀ other, other ≠ index →
      (tables.task = some other ↔
        (system.tablesOf index).task = some other))
    (begun : ∀ other resolved, tables.waiter = some (other, resolved) →
      ∃ before, (system.tablesOf index).waiter = some (other, before)) :
    Coherent (system.advance index login tables) := by
  apply coherent.advance gateway inBody (fun absent => absurd absent gone)
    (fun _ => Or.inr gone)
  · rw [session, unregistered]
    exact iff_of_false nofun nofun
  · intro other different
    rw [session, coherent.session_eq registered]
    refine iff_of_false nofun ?_
    rintro same
    exact different (Option.some.inj same).symm
  · exact task
  · exact tasks
  · intro other resolved waits
    obtain ⟨before, waited⟩ := begun other resolved waits
    exact coherent.begun _ other before waited
  · intro other waits inside found listed
    rw [session] at listed
    cases listed

theorem begin (coherent : Coherent system) {gateway : Nat}
    (absent : (system.logins index).phase = .absent)
    (free : system.lock = none) :
    Coherent { system.withLogin index
        { gateway := gateway, phase := .upgrading } with
      lock := some index } := by
  have others {other : Nat} (different : other ≠ index) :=
    system.withLogin_logins_of_ne
      { gateway := gateway, phase := .upgrading } different
  have mine := system.withLogin_logins_same index
    { gateway := gateway, phase := .upgrading }
  have outside : ∀ other,
      (system.logins other).phase.inBody = false := by
    intro other
    rw [← Bool.not_eq_true]
    intro inside
    have held := coherent.inside other inside
    rw [free] at held
    cases held
  constructor
  · intro other inside
    by_cases same : other = index
    · rw [same]
    · dsimp only at inside
      rw [others same, outside] at inside
      cases inside
  · exact coherent.followsSession.begin absent rfl rfl
  · exact coherent.followsTask.begin absent rfl rfl
  · intro other sent
    dsimp only at sent ⊢
    by_cases same : other = index
    · subst same
      rw [mine]
      nofun
    · rw [others same] at sent ⊢
      exact coherent.launched other sent
  · intro place other resolved waits
    dsimp only
    by_cases same : other = index
    · subst same
      exact absurd absent (coherent.begun place other resolved waits)
    · rw [others same]
      exact coherent.begun place other resolved waits
  · intro place other waits inside found listed
    by_cases same : other = index
    · subst same
      exact absurd absent (coherent.begun place other true waits)
    · dsimp only at inside
      rw [others same, outside] at inside
      cases inside

theorem registers (coherent : Coherent system)
    (phase : (system.logins index).phase = .upgrading)
    (free : (system.tablesOf index).session = none) :
    Coherent (system.advance index
      { system.logins index with phase := .checking }
      { system.tablesOf index with session := some index }) := by
  have inside : (system.logins index).phase.inBody = true := by
    rw [phase]
    rfl
  refine coherent.advance rfl (fun _ => inside) nofun
    (fun _ => Or.inr nofun) (iff_of_true rfl rfl) ?_ ?_
    (fun other _ => Iff.rfl)
    (fun other told waits => coherent.begun _ other told waits) ?_
  · intro other different
    rw [free]
    refine iff_of_false ?_ nofun
    rintro ⟨⟩
    exact different rfl
  · refine iff_of_false (coherent.idle ?_) nofun
    rw [phase]
    rfl
  · rintro other waits waiting found ⟨⟩
    have held := coherent.inside other waiting
    exact Option.some.inj
      ((coherent.inside index inside).symm.trans held)

/-- A login without a reader gives its session back. -/
theorem recyclesIdle (coherent : Coherent system)
    (registered : (system.logins index).phase.registered = true)
    (unstarted : (system.logins index).phase.hasTask = false)
    (gateway : login.gateway = (system.logins index).gateway)
    (inBody : login.phase.inBody = true →
      (system.logins index).phase.inBody = true)
    (gone : login.phase ≠ .absent)
    (unregistered : login.phase.registered = false)
    (idle : login.phase.hasTask = false) :
    Coherent
      (system.advance index login (system.tablesOf index).recycle) := by
  refine coherent.recycle registered gateway inBody gone unregistered
    (GatewayTables.recycle_session _) ?_ ?_
    (fun other resolved => GatewayTables.recycle_waiter)
  · rw [GatewayTables.recycle_task, idle]
    exact iff_of_false (coherent.idle unstarted) nofun
  · intro other _
    rw [GatewayTables.recycle_task]

theorem kickHere (coherent : Coherent system)
    (phase : (system.logins index).phase = .askingHere)
    (waiting : login.phase = .waiting)
    (gateway : login.gateway = (system.logins index).gateway) :
    Coherent (system.advance index login
      ((system.tablesOf index).cancelAndWait index)) := by
  refine coherent.advance gateway ?_ ?_ ?_ ?_ (fun other _ => Iff.rfl) ?_
    (fun other _ => Iff.rfl) ?_ nofun
  · rw [phase]
    exact fun _ => rfl
  · rw [waiting]
    nofun
  · rw [waiting]
    exact fun _ => Or.inr nofun
  · rw [waiting]
    refine iff_of_false (coherent.unlisted ?_) nofun
    rw [phase]
    rfl
  · rw [waiting]
    refine iff_of_false (coherent.idle ?_) nofun
    rw [phase]
    rfl
  · rintro other resolved ⟨⟩
    rw [phase]
    nofun

theorem takes (coherent : Coherent system)
    (phase : (system.logins index).phase = .waiting)
    (told : (system.tablesOf index).waiter = some (index, true)) :
    Coherent (system.advance index
      { system.logins index with phase := .taking }
      { system.tablesOf index with
        session := some index
        waiter := none }) := by
  have inside : (system.logins index).phase.inBody = true := by
    rw [phase]
    rfl
  refine coherent.advance rfl (fun _ => inside) nofun
    (fun _ => Or.inr nofun) (iff_of_true rfl rfl) ?_
    (iff_of_false (coherent.idle ?_) nofun) (fun other _ => Iff.rfl)
    nofun nofun
  · intro other different
    refine iff_of_false ?_ ?_
    · rintro ⟨⟩
      exact different rfl
    · intro found
      exact different (coherent.resolved _ index told inside other found)
  · rw [phase]
    rfl

theorem start (coherent : Coherent system)
    (phase : (system.logins index).phase = .leaving true) :
    Coherent (system.advance index
      { system.logins index with phase := .reading }
      { system.tablesOf index with
        task := some index
        cancelled := false }) := by
  have registered : (system.logins index).phase.registered = true := by
    rw [phase]
    rfl
  have listed := coherent.session_eq registered
  refine coherent.advance rfl nofun nofun (fun _ => Or.inr nofun)
    (iff_of_true listed rfl) (fun other _ => Iff.rfl)
    (iff_of_true rfl rfl) ?_
    (fun other told waits => coherent.begun _ other told waits)
    (fun other waits inside => coherent.resolved _ other waits inside)
  intro other different
  refine iff_of_false ?_ ?_
  · rintro ⟨⟩
    exact different rfl
  · intro found
    have elsewhere := coherent.session_of_task found
    exact different (Option.some.inj (elsewhere.symm.trans listed))

theorem callbacks (coherent : Coherent system) {cause : EndCause}
    (phase : (system.logins index).phase = .ended cause) :
    Coherent (system.advance index
      { system.logins index with phase := .closing cause }
      { (system.tablesOf index).recycle with task := none }) := by
  refine coherent.recycle ?_ rfl nofun nofun rfl
    (GatewayTables.recycle_session _) (iff_of_false nofun nofun) ?_
    (fun other resolved => GatewayTables.recycle_waiter)
  · rw [phase]
    rfl
  · intro other different
    refine iff_of_false nofun ?_
    intro found
    have running := coherent.task_eq (by rw [phase]; rfl)
    exact different (Option.some.inj (found.symm.trans running))

theorem release (coherent : Coherent system)
    (held : system.lock = some index)
    (outside : (system.logins index).phase.inBody = false) :
    Coherent { system with lock := none } := by
  refine ⟨?_, coherent.listed, coherent.tasks, coherent.launched,
    coherent.begun, coherent.resolved⟩
  intro other inside
  have same : index = other :=
    Option.some.inj (held.symm.trans (coherent.inside other inside))
  subst same
  rw [outside] at inside
  cases inside

/-- Every step keeps the tables in line with the logins, except a `DEL` of
the lock that does not come from its holder. -/
theorem stepped {action : LoginsAction} (coherent : Coherent system)
    (stepped : Stepped system action next) (lawful : action ≠ .deleteLock) :
    Coherent next := by
  cases stepped with
  | begin absent free => exact coherent.begin absent free
  | deleteLock => exact absurd rfl lawful
  | registers phase free => exact coherent.registers phase free
  | finds phase found =>
      exact coherent.withPhase phase ⟨rfl, rfl, id, nofun, nofun⟩ rfl nofun
  | failsEarly phase =>
      rcases phase with upgrading | asking
      · exact coherent.withPhase upgrading ⟨rfl, rfl, nofun, nofun, nofun⟩
          rfl nofun
      · exact coherent.withPhase asking ⟨rfl, rfl, nofun, nofun, nofun⟩
          rfl nofun
  | failsWaiting phase =>
      refine coherent.advance rfl nofun nofun (fun _ => Or.inr nofun)
        (iff_of_false (coherent.unlisted ?_) nofun) (fun other _ => Iff.rfl)
        (iff_of_false (coherent.idle ?_) nofun) (fun other _ => Iff.rfl)
        nofun nofun
      · rw [phase]
        rfl
      · rw [phase]
        rfl
  | failsRegistered recycles =>
      obtain ⟨_, registered, unstarted⟩ :=
        LoginPhase.recycles_spec recycles
      exact coherent.recyclesIdle registered unstarted rfl nofun nofun rfl
        rfl
  | failsTaking phase =>
      refine coherent.recycle ?_ rfl nofun nofun rfl rfl
        (iff_of_false (coherent.idle ?_) nofun) (fun other _ => Iff.rfl)
        (fun other resolved waits => ⟨resolved, waits⟩)
      · rw [phase]
        rfl
      · rw [phase]
        rfl
  | checkedFree phase free =>
      exact coherent.withPhase phase ⟨rfl, rfl, id, nofun, nofun⟩ rfl nofun
  | checkedFound phase found =>
      exact coherent.withPhase phase ⟨rfl, rfl, id, nofun, nofun⟩ rfl nofun
  | kickHereGone phase free =>
      exact coherent.withPhase phase ⟨rfl, rfl, nofun, nofun, nofun⟩ rfl nofun
  | kickHere phase found => exact coherent.kickHere phase rfl rfl
  | lookupGone phase free =>
      exact coherent.withPhase phase ⟨rfl, rfl, id, nofun, nofun⟩ rfl nofun
  | lookup phase found =>
      exact coherent.withPhase phase ⟨rfl, rfl, id, nofun, nofun⟩ rfl nofun
  | kickAcked sent unstarted phase =>
      exact coherent.withPhase phase ⟨rfl, rfl, id, nofun, nofun⟩ rfl nofun
  | kickVain sent =>
      refine coherent.withLogin rfl ?_ (.refl _)
      exact fun never => absurd rfl never
  | @kick index addr reader other sent running found =>
      have begun : (system.logins index).phase ≠ .absent := by
        apply coherent.launched
        rw [sent]
        nofun
      apply Coherent.withTables
      · refine coherent.withLogin rfl ?_ (.refl _)
        exact fun never => absurd rfl never
      · rfl
      · rfl
      · rintro other resolved ⟨⟩
        rw [withLogin_logins_same]
        exact Or.inr ⟨rfl, begun⟩
  | takes phase told => exact (coherent.takes phase told).withField _ _
  | acked phase told =>
      apply Coherent.withTables
      · exact coherent.withPhase phase ⟨rfl, rfl, id, nofun, nofun⟩ rfl
          nofun
      · rfl
      · rfl
      · nofun
  | unsent phase =>
      refine coherent.recyclesIdle ?_ ?_ rfl ?_ nofun rfl rfl
      · rw [phase]
        rfl
      · rw [phase]
        rfl
      · rw [phase]
        exact fun _ => rfl
  | move moved =>
      refine coherent.withLogin moved.gateway ?_ moved.steady
      rw [moved.kick]
      exact Or.inl
  | hset present sent =>
      apply Coherent.withField
      exact coherent.withLogin rfl Or.inl (.refl _)
  | hdel other present sent =>
      apply Coherent.withField
      apply coherent.withLogin
      · exact Login.withTask_gateway ..
      · rw [Login.withTask_kick]
        exact Or.inl
      · rw [Login.withTask_phase]
        exact .refl _
  | rollback owed =>
      apply Coherent.withField
      exact coherent.withLogin rfl Or.inl (.refl _)
  | release held outside => exact coherent.release held outside
  | start phase => exact coherent.start phase
  | finish phase agreed =>
      exact coherent.withPhase phase ⟨rfl, rfl, nofun, nofun, nofun⟩ rfl nofun
  | callbacks phase => exact coherent.callbacks phase
  | expire => exact coherent.withTables rfl rfl nofun

end Coherent

namespace Logins

variable {system next : Logins} {action : LoginsAction}

theorem step_stepped {events : List Empty}
    (done : system.step action = some (next, events)) :
    Stepped system action next := by
  obtain ⟨following, taken, equality⟩ := Option.map_eq_some_iff.mp done
  cases equality
  exact next_stepped taken

/-- In every run that removes the lock only for its holder. -/
theorem coherent_of_run {allowed : Logins → LoginsAction → Prop}
    {trace : List Empty} {start : Logins} (initial : Coherent start)
    (run : Run step allowed start trace system)
    (lawful : ∀ system action, allowed system action →
      action ≠ .deleteLock) : Coherent system := by
  refine run.state_invariant initial ?_
  intro _ system next action coherent permitted done
  exact coherent.stepped (step_stepped done) (lawful system action permitted)

end Logins

end Gateway

end TinyChat
