import Mathlib.Algebra.Field.Rat
import Mathlib.Algebra.Ring.Int.Defs
import Mathlib.Tactic.Ring
import TinyChat.Lib.Totals
import TinyChat.Manager.Statistic

/-!
# When the usage tables are accurate

The total of a service is the sum of its counts, and every proportion belongs
to this total, as long as an update does not change the total under the counts
of other workers.  The timer raises as soon as a worker dies while there are
tables.
-/

namespace TinyChat

namespace Manager

namespace ServiceUsage

/-- The total is the sum of the counts, and the proportions belong to it. -/
structure Accurate (service : ServiceUsage) : Prop where
  nodup : (service.usages.map Prod.fst).Nodup
  total : service.totalCount = service.usages.total UsagePair.count
  proportion : ∀ procSeq pair,
    service.usages.lookup procSeq = some pair →
      pair.proportion = pair.count / service.totalCount

/-- An update that neither divides by zero nor changes the total under a
count of another worker. -/
def Undisturbed (service : ServiceUsage) (procSeq : Nat) (count : Int) :
    Prop :=
  service.totalCount + count ≠ 0 ∧
    (count = 0 ∨
      ∀ entry ∈ service.usages, entry.1 ≠ procSeq → entry.2.count = 0)

instance (service : ServiceUsage) (procSeq : Nat) (count : Int) :
    Decidable (service.Undisturbed procSeq count) :=
  inferInstanceAs (Decidable (_ ∧ (_ ∨ _)))

variable {service : ServiceUsage} {procSeq : Nat} {count : Int}

theorem accurate_new : Accurate {} where
  nodup := List.nodup_nil
  total := rfl
  proportion := by
    intro procSeq pair found
    cases found

theorem update_eq (nonzero : service.totalCount + count ≠ 0) :
    service.update procSeq count =
      ({ totalCount := service.totalCount + count
         usages := service.usages.assign procSeq
          { count :=
              ((service.usages.lookup procSeq).getD {}).count + count
            proportion :=
              (((service.usages.lookup procSeq).getD {}).count + count :
                Int) / (service.totalCount + count : Int) } },
        none) := by
  simp only [update, if_neg nonzero]

theorem getD_count (usages : Table Nat UsagePair) (procSeq : Nat) :
    ((usages.lookup procSeq).getD {}).count =
      ((usages.lookup procSeq).map UsagePair.count).getD 0 := by
  cases usages.lookup procSeq <;> rfl

theorem Accurate.total_update (accurate : service.Accurate)
    (proportion : ℚ) :
    service.totalCount + count =
      (service.usages.assign procSeq
        { count := ((service.usages.lookup procSeq).getD {}).count + count
          proportion := proportion }).total UsagePair.count := by
  rw [Table.total_assign UsagePair.count procSeq _ accurate.nodup,
    accurate.total,
    Table.total_eq_add_pop UsagePair.count procSeq accurate.nodup, getD_count]
  ring

/-- An update keeps the tables accurate and does not raise exactly if it is
undisturbed. -/
theorem Accurate.update_iff (accurate : service.Accurate) :
    ((service.update procSeq count).2 = none ∧
        (service.update procSeq count).1.Accurate) ↔
      service.Undisturbed procSeq count := by
  constructor
  · rintro ⟨returned, after⟩
    have nonzero : service.totalCount + count ≠ 0 := by
      intro zero
      simp [update, zero] at returned
    refine ⟨nonzero, ?_⟩
    rw [update_eq nonzero] at after
    by_contra disturbed
    rw [not_or] at disturbed
    obtain ⟨positive, others⟩ := disturbed
    apply others
    rintro ⟨other, pair⟩ member different
    have found := Table.lookup_of_mem accurate.nodup member
    by_contra counted
    have before := accurate.proportion other pair found
    have later := after.proportion other pair (by
      rw [Table.lookup_assign, if_neg different]
      exact found)
    have castCount : (pair.count : ℚ) ≠ 0 :=
      fun zero => counted (Rat.intCast_eq_zero_iff.mp zero)
    rw [before, div_eq_mul_inv, div_eq_mul_inv, mul_right_inj' castCount,
      inv_inj, Rat.intCast_inj] at later
    change service.totalCount = service.totalCount + count at later
    exact positive (by omega)
  · rintro ⟨nonzero, others⟩
    rw [update_eq nonzero]
    refine ⟨rfl, Table.nodup_assign accurate.nodup,
      accurate.total_update _, ?_⟩
    intro other pair found
    rw [Table.lookup_assign] at found
    split at found
    · cases found
      rfl
    · rename_i different
      have before := accurate.proportion other pair found
      obtain zero | zero := others
      · rw [before]
        change _ = (pair.count : ℚ) / ((service.totalCount + count : Int) : ℚ)
        rw [zero, Int.add_zero]
      · have uncounted : pair.count = 0 :=
          zero (other, pair) (Table.mem_of_lookup found) different
        rw [before, uncounted, Int.cast_zero, zero_div, zero_div]

end ServiceUsage

namespace StatisticManager

/-- Every table of the manager is accurate. -/
def Accurate (manager : StatisticManager) : Prop :=
  ∀ name service, manager.nameMapUsages.lookup name = some service →
    service.Accurate

/-- The worker is in no table. -/
def Forgets (manager : StatisticManager) (procSeq : Nat) : Prop :=
  ∀ entry ∈ manager.nameMapUsages, entry.2.usages.lookup procSeq = none

/-- Every update of an event is undisturbed when it is made. -/
def UndisturbedAll (srvName : String) (procSeq : Nat) :
    StatisticManager → List LoadItem → Prop
  | _, [] => True
  | manager, item :: items =>
      (manager.service (serviceTag srvName item)).Undisturbed procSeq
          item.usageCount ∧
        UndisturbedAll srvName procSeq
          (manager.updateItem srvName procSeq item).1 items

/-- The updates of an event are undisturbed, and the timer finds no dirty
worker while there are tables. -/
def Undisturbed (manager : StatisticManager) : StatisticCall → Prop
  | .extract info =>
      UndisturbedAll info.srvName info.procSeq (manager.noteTotal info)
        info.loads
  | .procConsistency =>
      manager.dirtyWorkers = [] ∨ manager.nameMapUsages = []
  | .setState _ _ => True
  | .discard _ => True

instance undisturbedAll_decidable (srvName : String) (procSeq : Nat) :
    (manager : StatisticManager) → (items : List LoadItem) →
      Decidable (UndisturbedAll srvName procSeq manager items)
  | _, [] => .isTrue trivial
  | manager, item :: items =>
      have := undisturbedAll_decidable srvName procSeq
        (manager.updateItem srvName procSeq item).1 items
      inferInstanceAs (Decidable (_ ∧ _))

instance (manager : StatisticManager) :
    (call : StatisticCall) → Decidable (manager.Undisturbed call)
  | .extract info =>
      inferInstanceAs (Decidable (UndisturbedAll info.srvName info.procSeq
        (manager.noteTotal info) info.loads))
  | .procConsistency => inferInstanceAs (Decidable (_ ∨ _))
  | .setState _ _ => .isTrue trivial
  | .discard _ => .isTrue trivial

end StatisticManager

/-- Nothing raises, and the workers that were handled are in no table of a
manager whose timer is scheduled again. -/
def StatisticReport.Fine : StatisticReport → Prop
  | .raised _ => False
  | .checked handled manager =>
      manager.scheduled = true ∧
        ∀ procSeq ∈ handled, manager.Forgets procSeq

namespace StatisticManager

variable {manager next : StatisticManager} {srvName name : String}
  {procSeq : Nat} {items : List LoadItem} {updated : ServiceUsage}

theorem Accurate.service (accurate : manager.Accurate) (name : String) :
    (manager.service name).Accurate := by
  unfold StatisticManager.service
  cases found : manager.nameMapUsages.lookup name with
  | none => exact ServiceUsage.accurate_new
  | some service => exact accurate name service found

theorem Accurate.setService (accurate : manager.Accurate)
    (right : updated.Accurate) :
    (manager.setService name updated).Accurate := by
  intro other held found
  rcases Table.lookup_of_assign found with before | ⟨_, rfl⟩
  · exact accurate other held before
  · exact right

theorem Accurate.updateAll (accurate : manager.Accurate)
    (undisturbed : UndisturbedAll srvName procSeq manager items) :
    (updateAll srvName procSeq manager items).2 = none ∧
    (updateAll srvName procSeq manager items).1.Accurate ∧
    (updateAll srvName procSeq manager items).1.scheduled =
      manager.scheduled ∧
    (updateAll srvName procSeq manager items).1.extracting =
      manager.extracting := by
  induction items generalizing manager with
  | nil => exact ⟨rfl, accurate, rfl, rfl⟩
  | cons item items induction =>
      obtain ⟨first, rest⟩ := undisturbed
      obtain ⟨returned, right⟩ :=
        (accurate.service (serviceTag srvName item)).update_iff.mpr first
      have later := induction (accurate.setService right) rest
      have added : manager.updateItem srvName procSeq item =
          ((manager.updateItem srvName procSeq item).1, none) :=
        Prod.ext rfl returned
      rw [StatisticManager.updateAll, added]
      exact later

theorem popAll_cons (procSeq : Nat) (entry : String × ServiceUsage)
    (rest : Table String ServiceUsage) :
    (popAll procSeq (entry :: rest)).2 = some .typeError := rfl

theorem handleAll_of_none (manager : StatisticManager)
    (handled : List Nat) (empty : manager.nameMapUsages = []) :
    (handleAll manager handled).2 = none ∧
    (handleAll manager handled).1.nameMapUsages = [] ∧
    (handleAll manager handled).1.extracting = manager.extracting := by
  induction handled generalizing manager with
  | nil => exact ⟨rfl, empty, rfl⟩
  | cons procSeq rest induction =>
      simp only [handleAll, empty, popAll]
      exact induction _ rfl

/-- The timer handles all dirty workers exactly if there is none or there are
no tables. -/
theorem procConsistency_fine_iff :
    (∀ report ∈ manager.procConsistency.2, report.Fine) ↔
      manager.dirtyWorkers = [] ∨ manager.nameMapUsages = [] := by
  constructor
  · intro fine
    cases dirty : manager.dirtyWorkers with
    | nil => exact .inl rfl
    | cons procSeq rest =>
        refine .inr ?_
        cases tables : manager.nameMapUsages with
        | nil => rfl
        | cons entry others =>
            simp only [procConsistency, dirty, handleAll, tables,
              popAll_cons] at fine
            exact absurd (fine _ List.mem_cons_self) id
  · rintro (dirty | tables)
    · simp only [procConsistency, dirty, handleAll]
      intro report member
      rw [List.mem_singleton.mp member]
      exact ⟨rfl, fun _ member => absurd member List.not_mem_nil⟩
    · have handled := handleAll_of_none { manager with scheduled := false }
        manager.dirtyWorkers tables
      rw [procConsistency]
      split
      · rename_i raised
        rw [raised] at handled
        cases handled.1
      · rename_i last returned
        rw [returned] at handled
        intro report member
        rw [List.mem_singleton.mp member]
        refine ⟨rfl, ?_⟩
        intro procSeq _ entry listed
        rw [handled.2.1] at listed
        cases listed

theorem Accurate.procConsistency (accurate : manager.Accurate)
    (undisturbed : manager.dirtyWorkers = [] ∨ manager.nameMapUsages = []) :
    manager.procConsistency.1.Accurate ∧
    manager.procConsistency.1.scheduled = true ∧
    manager.procConsistency.1.extracting = manager.extracting := by
  obtain dirty | tables := undisturbed
  · rw [StatisticManager.procConsistency, dirty]
    exact ⟨accurate, rfl, rfl⟩
  · have handled := handleAll_of_none { manager with scheduled := false }
      manager.dirtyWorkers tables
    rw [StatisticManager.procConsistency]
    split
    · rename_i raised
      rw [raised] at handled
      cases handled.1
    · rename_i last returned
      rw [returned] at handled
      refine ⟨?_, rfl, handled.2.2⟩
      intro name service found
      change List.lookup name last.nameMapUsages = some service at found
      rw [handled.2.1] at found
      cases found

/-- What is known after a run. -/
structure Counted (trace : List StatisticReport)
    (manager : StatisticManager) : Prop where
  accurate : manager.Accurate
  scheduled : manager.scheduled = true
  extracting : manager.extracting = true
  fine : ∀ report ∈ trace, report.Fine

theorem counted_new : Counted [] {} where
  accurate := by
    intro name service found
    cases found
  scheduled := rfl
  extracting := rfl
  fine := fun _ member => absurd member List.not_mem_nil

theorem Counted.extract {trace : List StatisticReport}
    (counted : Counted trace manager) {info : LoadInfo}
    (undisturbed : manager.Undisturbed (.extract info)) :
    Counted (trace ++ (manager.extract info).2) (manager.extract info).1 := by
  have noted : (manager.noteTotal info).Accurate := counted.accurate
  obtain ⟨returned, accurate, scheduled, extracting⟩ :=
    noted.updateAll undisturbed
  rw [StatisticManager.extract]
  split
  · rename_i raised
    rw [raised] at returned
    cases returned
  · rename_i next updated
    rw [updated] at accurate scheduled extracting
    rw [List.append_nil]
    exact ⟨accurate, scheduled.trans counted.scheduled,
      extracting.trans counted.extracting, counted.fine⟩

theorem Counted.step {trace events : List StatisticReport}
    {call : StatisticCall} (counted : Counted trace manager)
    (undisturbed : manager.Undisturbed call)
    (stepped : StatisticManager.step manager call = some (next, events)) :
    Counted (trace ++ events) next := by
  cases call with
  | extract info =>
      simp only [StatisticManager.step] at stepped
      split at stepped
      · have extracted := counted.extract undisturbed
        rw [Option.some.inj stepped] at extracted
        exact extracted
      · cases stepped
  | procConsistency =>
      simp only [StatisticManager.step] at stepped
      split at stepped
      · have fine := procConsistency_fine_iff.mpr undisturbed
        obtain ⟨accurate, scheduled, extracting⟩ :=
          counted.accurate.procConsistency undisturbed
        rw [Option.some.inj stepped] at fine accurate scheduled extracting
        refine ⟨accurate, scheduled, extracting.trans counted.extracting, ?_⟩
        intro report member
        obtain before | new := List.mem_append.mp member
        · exact counted.fine report before
        · exact fine report new
      · cases stepped
  | setState procSeq state =>
      cases stepped
      rw [List.append_nil]
      exact ⟨counted.accurate, counted.scheduled, counted.extracting,
        counted.fine⟩
  | discard procSeq =>
      cases stepped
      rw [List.append_nil]
      exact ⟨counted.accurate, counted.scheduled, counted.extracting,
        counted.fine⟩

/-- As long as no update changes the total under a count of another worker,
none leaves a total of zero, and no worker dies while there are tables, the
tables are accurate and nothing raises. -/
theorem run_accurate {trace : List StatisticReport}
    (run : Transition.Run step Undisturbed {} trace manager) :
    (∀ name service, manager.nameMapUsages.lookup name = some service →
      service.Accurate) ∧
    manager.scheduled = true ∧ ∀ report ∈ trace, report.Fine := by
  have counted : Counted trace manager := by
    apply run.invariant counted_new
    intro trace events manager next call counted undisturbed stepped
    exact counted.step undisturbed stepped
  exact ⟨counted.accurate, counted.scheduled, counted.fine⟩

/-- A worker dies before there are tables, and two others report the use of
different services. -/
theorem run_accurate_two_services :
    ∃ trace manager,
      Transition.Run step Undisturbed {} trace manager ∧
      (manager.service "s/a").totalCount = 5 ∧
      (∀ name service, manager.nameMapUsages.lookup name = some service →
        service.Accurate) ∧
      manager.scheduled = true ∧ ∀ report ∈ trace, report.Fine := by
  have ran : ∃ trace manager,
      Transition.Run step Undisturbed {} trace manager ∧
        (manager.service "s/a").totalCount = 5 := by
    apply Transition.Run.exists_state_of_exec
      [.setState 3 .dirty, .procConsistency,
        .extract ⟨1, "s", 3, [⟨"a", 3⟩]⟩, .extract ⟨2, "s", 1, [⟨"b", 1⟩]⟩,
        .extract ⟨1, "s", 2, [⟨"a", 2⟩]⟩, .procConsistency]
    decide +kernel
  obtain ⟨trace, manager, run, total⟩ := ran
  have accurate := run_accurate run
  exact ⟨trace, manager, run, total, accurate.1, accurate.2.1, accurate.2.2⟩

/-- A worker that has used a service dies: the timer raises, and it is not
scheduled again. -/
theorem dirty_worker_stops_timer : ¬ ∀ (trace : List StatisticReport)
    (manager : StatisticManager),
    Transition.AnyRun step {} trace manager →
      (∀ name service, manager.nameMapUsages.lookup name = some service →
        service.Accurate) ∧
      manager.scheduled = true ∧ ∀ report ∈ trace, report.Fine := by
  intro always
  have ran : ∃ trace manager, Transition.AnyRun step {} trace manager ∧
      manager.scheduled = false ∧ manager.workers = [(1, .done)] := by
    apply Transition.Run.exists_state_of_exec
      [.setState 1 .running, .extract ⟨1, "s", 3, [⟨"a", 3⟩]⟩,
        .setState 1 .dirty, .procConsistency]
    decide +kernel
  obtain ⟨trace, manager, run, unscheduled, _⟩ := ran
  have scheduled := (always trace manager run).2.1
  rw [unscheduled] at scheduled
  cases scheduled

end StatisticManager

end Manager

end TinyChat
