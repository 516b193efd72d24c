import TinyChat.Multiprocess.Workers
import Mathlib.Data.List.Perm.Basic
import Mathlib.Data.List.Range
import Mathlib.Data.List.Nodup

/-!
# The numbers of the workers

Between two cycles every number up to `num_workers` is either free or the
number of one process.  In a cycle the number of a discarded worker becomes
free before the worker is taken out.
-/

namespace TinyChat

namespace Multiprocess

namespace ProcessManager

/-- What holds as well while workers are spawned. -/
structure Placed (manager : ProcessManager) : Prop where
  disjoint : ∀ processSeq ∈ manager.availableSequence,
    processSeq ∉ manager.processes.map Prod.fst
  together : ∀ processSeq,
    processSeq ∈ manager.availableSequence ∨
        processSeq ∈ manager.processes.map Prod.fst ↔
      1 ≤ processSeq ∧ (processSeq : Int) ≤ manager.numWorkers
  sequence : ∀ entry ∈ manager.processes, entry.2.processSeq = entry.1
  free : manager.availableSequence.Nodup
  keys : (manager.processes.map Prod.fst).Nodup
  idents : (manager.processes.map fun entry => entry.2.ident).Nodup
  fresh : ∀ entry ∈ manager.processes, entry.2.ident < manager.created
  discard : manager.needsDiscard = []

/-- What holds between two cycles. -/
structure Lawful (manager : ProcessManager) : Prop extends
    manager.Placed where
  tasks : ∀ entry ∈ manager.processes, entry.2.ident ∈ manager.tasksMap
  schedule : manager.needsSchedule = []

variable {manager : ProcessManager}

theorem Lawful.numbered (lawful : manager.Lawful) : manager.Numbered :=
  ⟨lawful.disjoint, lawful.together, lawful.sequence, lawful.tasks⟩

theorem Placed.count (placed : manager.Placed) :
    manager.availableSequence.length + manager.processes.length =
      manager.numWorkers.toNat := by
  have nodup : (manager.availableSequence ++
      manager.processes.map Prod.fst).Nodup := by
    rw [List.nodup_append]
    refine ⟨placed.free, placed.keys, ?_⟩
    rintro first free second used rfl
    exact placed.disjoint first free used
  have perm : (manager.availableSequence ++
      manager.processes.map Prod.fst).Perm
        (List.range' 1 manager.numWorkers.toNat) := by
    rw [List.perm_ext_iff_of_nodup nodup List.nodup_range']
    intro processSeq
    rw [List.mem_append, placed.together, List.mem_range'_1]
    omega
  have lengths := perm.length_eq
  rw [List.length_append, List.length_map, List.length_range'] at lengths
  exact lengths

/-! ## Objects that change -/

theorem Lawful.map (lawful : manager.Lawful)
    {change : Nat × WorkerProcess → Nat × WorkerProcess}
    (key : ∀ entry, (change entry).1 = entry.1)
    (ident : ∀ entry, (change entry).2.ident = entry.2.ident)
    (number : ∀ entry,
      (change entry).2.processSeq = entry.2.processSeq) :
    Lawful { manager with processes := manager.processes.map change } := by
  have keys : (manager.processes.map change).map Prod.fst =
      manager.processes.map Prod.fst := by
    rw [List.map_map]
    exact List.map_congr_left fun entry _ => key entry
  have idents : ((manager.processes.map change).map
      fun entry => entry.2.ident) =
        manager.processes.map fun entry => entry.2.ident := by
    rw [List.map_map]
    exact List.map_congr_left fun entry _ => ident entry
  refine ⟨⟨?_, ?_, ?_, lawful.free, ?_, ?_, ?_, lawful.discard⟩, ?_,
    lawful.schedule⟩
  · dsimp only
    rw [keys]
    exact lawful.disjoint
  · dsimp only
    rw [keys]
    exact lawful.together
  · rintro _ listed
    obtain ⟨entry, member, rfl⟩ := List.mem_map.mp listed
    rw [number, key]
    exact lawful.sequence entry member
  · dsimp only
    rw [keys]
    exact lawful.keys
  · dsimp only
    rw [idents]
    exact lawful.idents
  · rintro _ listed
    obtain ⟨entry, member, rfl⟩ := List.mem_map.mp listed
    rw [ident]
    exact lawful.fresh entry member
  · rintro _ listed
    obtain ⟨entry, member, rfl⟩ := List.mem_map.mp listed
    rw [ident]
    exact lawful.tasks entry member

theorem Lawful.change (lawful : manager.Lawful) (processSeq : Nat)
    {update : WorkerProcess → WorkerProcess}
    (ident : ∀ proc, (update proc).ident = proc.ident)
    (number : ∀ proc, (update proc).processSeq = proc.processSeq) :
    (manager.change processSeq update).Lawful := by
  apply lawful.map
  · intro entry
    split <;> rfl
  · intro entry
    split
    · exact ident entry.2
    · rfl
  · intro entry
    split
    · exact number entry.2
    · rfl

/-! ## Reaping -/

/-- A worker that is taken out in this cycle. -/
def gone (entry : Nat × WorkerProcess) : Bool :=
  !entry.2.alive && decide (entry.2.state ≠ .running)

/-- A worker that has died since the last cycle is marked. -/
def mark (entry : Nat × WorkerProcess) : Nat × WorkerProcess :=
  if entry.2.alive = false ∧ entry.2.state = .running then
    (entry.1, { entry.2 with state := .dirty })
  else entry

theorem mark_fst (entry : Nat × WorkerProcess) :
    (mark entry).1 = entry.1 := by
  unfold mark
  split <;> rfl

theorem mark_ident (entry : Nat × WorkerProcess) :
    (mark entry).2.ident = entry.2.ident := by
  unfold mark
  split <;> rfl

theorem mark_processSeq (entry : Nat × WorkerProcess) :
    (mark entry).2.processSeq = entry.2.processSeq := by
  unfold mark
  split <;> rfl

theorem keys_mark (entries : Table Nat WorkerProcess) :
    (entries.map mark).map Prod.fst = entries.map Prod.fst := by
  rw [List.map_map]
  exact List.map_congr_left fun entry _ => mark_fst entry

theorem idents_mark (entries : Table Nat WorkerProcess) :
    (entries.map mark).map (fun entry => entry.2.ident) =
      entries.map fun entry => entry.2.ident := by
  rw [List.map_map]
  exact List.map_congr_left fun entry _ => mark_ident entry

def goneSeqs (entries : Table Nat WorkerProcess) : List Nat :=
  (entries.filter gone).map fun entry => entry.2.processSeq

def goneIdents (entries : Table Nat WorkerProcess) : List Nat :=
  (entries.filter gone).map fun entry => entry.2.ident

/-- The manager after the loop over these entries. -/
structure Reaped (manager : ProcessManager)
    (entries : Table Nat WorkerProcess) (after : ProcessManager) :
    Prop where
  numWorkers : after.numWorkers = manager.numWorkers
  created : after.created = manager.created
  schedule : after.needsSchedule = manager.needsSchedule
  discard : after.needsDiscard = manager.needsDiscard ++ goneSeqs entries
  free : manager.availableSequence.Nodup → after.availableSequence.Nodup
  available : ∀ processSeq, processSeq ∈ after.availableSequence ↔
    processSeq ∈ manager.availableSequence ∨
      processSeq ∈ goneSeqs entries
  tasks : ∀ ident ∈ manager.tasksMap, ident ∉ goneIdents entries →
    ident ∈ after.tasksMap

variable {entries : Table Nat WorkerProcess} {key : Nat}
  {proc : WorkerProcess} {after : ProcessManager}

theorem Reaped.kept (reaped : Reaped manager entries after)
    (stays : gone (key, proc) = false) :
    Reaped manager ((key, proc) :: entries) after := by
  have filtered : ((key, proc) :: entries).filter gone =
      entries.filter gone :=
    List.filter_cons_of_neg (Bool.eq_false_iff.mp stays)
  have seqs : goneSeqs ((key, proc) :: entries) = goneSeqs entries := by
    rw [goneSeqs, filtered, goneSeqs]
  have idents : goneIdents ((key, proc) :: entries) =
      goneIdents entries := by
    rw [goneIdents, filtered, goneIdents]
  refine ⟨reaped.numWorkers, reaped.created, reaped.schedule, ?_,
    reaped.free, ?_, ?_⟩
  · rw [seqs]
    exact reaped.discard
  · rw [seqs]
    exact reaped.available
  · rw [idents]
    exact reaped.tasks

theorem Reaped.taken
    (reaped : Reaped (manager.release proc) entries after)
    (leaves : gone (key, proc) = true) :
    Reaped manager ((key, proc) :: entries) after := by
  have filtered : ((key, proc) :: entries).filter gone =
      (key, proc) :: entries.filter gone :=
    List.filter_cons_of_pos leaves
  have seqs : goneSeqs ((key, proc) :: entries) =
      proc.processSeq :: goneSeqs entries := by
    rw [goneSeqs, filtered, goneSeqs]
    rfl
  have idents : goneIdents ((key, proc) :: entries) =
      proc.ident :: goneIdents entries := by
    rw [goneIdents, filtered, goneIdents]
    rfl
  refine ⟨reaped.numWorkers, reaped.created, reaped.schedule, ?_, ?_, ?_,
    ?_⟩
  · rw [seqs, reaped.discard, release, List.append_assoc]
    rfl
  · intro nodup
    exact reaped.free nodup.insert
  · intro processSeq
    rw [reaped.available, seqs, release]
    dsimp only
    rw [List.mem_insert_iff, List.mem_cons, or_assoc, or_left_comm]
  · intro ident listed
    rw [idents, List.mem_cons, not_or]
    rintro ⟨other, later⟩
    apply reaped.tasks ident _ later
    exact (List.mem_erase_of_ne other).mpr listed

theorem reap_some (entries : Table Nat WorkerProcess)
    (idents : (entries.map fun entry => entry.2.ident).Nodup)
    (tasks : ∀ entry ∈ entries, entry.2.ident ∈ manager.tasksMap) :
    ∃ after, manager.reap entries = some (entries.map mark, after) ∧
      Reaped manager entries after := by
  induction entries generalizing manager with
  | nil =>
      exact ⟨manager, rfl, rfl, rfl, rfl, (List.append_nil _).symm, id,
        fun _ => (or_iff_left List.not_mem_nil).symm,
        fun _ listed _ => listed⟩
  | cons entry entries induction =>
      obtain ⟨key, proc⟩ := entry
      rw [List.map_cons, List.nodup_cons] at idents
      have own : proc.ident ∈ manager.tasksMap :=
        tasks (key, proc) List.mem_cons_self
      have others : ∀ entry ∈ entries,
          entry.2.ident ∈ manager.tasksMap :=
        fun entry member => tasks entry (List.mem_cons_of_mem _ member)
      rw [reap]
      by_cases alive : proc.alive = true
      · obtain ⟨after, found, reaped⟩ := induction idents.2 others
        refine ⟨after, ?_, reaped.kept (by simp [gone, alive])⟩
        rw [if_pos alive, found]
        simp [mark, alive]
      · by_cases running : proc.state = .running
        · obtain ⟨after, found, reaped⟩ := induction idents.2 others
          refine ⟨after, ?_, reaped.kept (by simp [gone, running])⟩
          rw [if_neg alive, if_neg (not_not_intro own), if_pos running,
            found]
          simp [mark, alive, running]
        · have rest : ∀ entry ∈ entries,
              entry.2.ident ∈ (manager.release proc).tasksMap := by
            intro entry member
            refine (List.mem_erase_of_ne ?_).mpr (others entry member)
            intro same
            exact idents.1 (List.mem_map.mpr ⟨entry, member, same⟩)
          obtain ⟨after, found, reaped⟩ := induction idents.2 rest
          refine ⟨after, ?_, reaped.taken (by simp [gone, alive, running])⟩
          rw [if_neg alive, if_neg (not_not_intro own), if_neg running,
            found]
          simp [mark, running]

theorem popAll_some {processes : Table Nat WorkerProcess}
    {processSeqs : List Nat} (nodup : processSeqs.Nodup)
    (listed : ∀ processSeq ∈ processSeqs,
      processSeq ∈ processes.map Prod.fst) :
    popAll processes processSeqs =
      some (processes.filter fun entry => entry.1 ∉ processSeqs) := by
  induction processSeqs generalizing processes with
  | nil => simp [popAll]
  | cons processSeq rest induction =>
      rw [List.nodup_cons] at nodup
      have present : (processes.lookup processSeq).isSome = true := by
        rw [Option.isSome_iff_ne_none, ne_eq, ← Table.notMem_keys,
          not_not]
        exact listed processSeq List.mem_cons_self
      have others : ∀ other ∈ rest,
          other ∈ (processes.pop processSeq).map Prod.fst := by
        intro other member
        obtain ⟨entry, stored, same⟩ :=
          List.mem_map.mp (listed other (List.mem_cons_of_mem _ member))
        refine List.mem_map.mpr ⟨entry, Table.mem_pop.mpr ⟨stored, ?_⟩, same⟩
        rw [same]
        rintro rfl
        exact nodup.1 member
      rw [popAll, if_pos present, induction nodup.2 others, Table.pop,
        List.filter_filter]
      congr 2
      funext entry
      simp only [List.mem_cons, not_or, ← Bool.decide_and, and_comm]

/-- The workers that stay, the marked ones among them. -/
def remaining (entries : Table Nat WorkerProcess) :
    Table Nat WorkerProcess :=
  (entries.map mark).filter fun entry => entry.1 ∉ goneSeqs entries

theorem mem_goneSeqs (lawful : manager.Lawful) {processSeq : Nat}
    (listed : processSeq ∈ goneSeqs manager.processes) :
    processSeq ∈ manager.processes.map Prod.fst := by
  obtain ⟨entry, filtered, rfl⟩ := List.mem_map.mp listed
  have member := (List.mem_filter.mp filtered).1
  rw [lawful.sequence entry member]
  exact List.mem_map_of_mem member

theorem keys_remaining (entries : Table Nat WorkerProcess) :
    (remaining entries).map Prod.fst =
      (entries.map Prod.fst).filter
        (fun processSeq => processSeq ∉ goneSeqs entries) := by
  rw [remaining, ← keys_mark entries]
  conv_rhs => rw [List.filter_map]
  rfl

theorem mem_remaining {entries : Table Nat WorkerProcess}
    {entry : Nat × WorkerProcess} (member : entry ∈ remaining entries) :
    ∃ before ∈ entries, mark before = entry ∧
      before.1 ∉ goneSeqs entries := by
  obtain ⟨marked, stays⟩ := List.mem_filter.mp member
  obtain ⟨before, listed, rfl⟩ := List.mem_map.mp marked
  refine ⟨before, listed, rfl, ?_⟩
  rw [← mark_fst before]
  exact of_decide_eq_true stays

theorem nodup_goneSeqs (lawful : manager.Lawful) :
    (goneSeqs manager.processes).Nodup := by
  have same : goneSeqs manager.processes =
      (manager.processes.filter gone).map Prod.fst := by
    apply List.map_congr_left
    intro entry filtered
    exact lawful.sequence entry (List.mem_filter.mp filtered).1
  rw [same]
  exact lawful.keys.sublist (List.filter_sublist.map Prod.fst)

theorem ident_notMem_goneIdents (lawful : manager.Lawful)
    {entry : Nat × WorkerProcess} (member : entry ∈ manager.processes)
    (stays : entry.1 ∉ goneSeqs manager.processes) :
    entry.2.ident ∉ goneIdents manager.processes := by
  intro listed
  obtain ⟨other, filtered, same⟩ := List.mem_map.mp listed
  have equal : other = entry := List.inj_on_of_nodup_map lawful.idents
    (List.mem_filter.mp filtered).1 member same
  subst equal
  apply stays
  rw [← lawful.sequence other member]
  exact List.mem_map.mpr ⟨other, filtered, rfl⟩

theorem Lawful.discarded (lawful : manager.Lawful) :
    ∃ reaped kept, manager.reapWorkers = some reaped ∧
      reaped.discardWorkers = some kept ∧ kept.Lawful ∧
      kept.numWorkers = manager.numWorkers := by
  obtain ⟨after, found, reaped⟩ :=
    reap_some manager.processes lawful.idents lawful.tasks
  have discard : after.needsDiscard = goneSeqs manager.processes := by
    rw [reaped.discard, lawful.discard, List.nil_append]
  have popped : popAll (manager.processes.map mark) after.needsDiscard =
      some (remaining manager.processes) := by
    rw [discard, popAll_some (nodup_goneSeqs lawful)]
    · rfl
    · intro processSeq listed
      rw [keys_mark]
      exact mem_goneSeqs lawful listed
  refine ⟨{ after with processes := manager.processes.map mark },
    { after with
      processes := remaining manager.processes
      needsDiscard := [] }, ?_, ?_, ?_, reaped.numWorkers⟩
  · rw [reapWorkers, found]
    rfl
  · rw [discardWorkers, popped]
    rfl
  · have keys := keys_remaining manager.processes
    refine ⟨⟨?_, ?_, ?_, reaped.free lawful.free, ?_, ?_, ?_, rfl⟩, ?_, ?_⟩
    · intro processSeq available
      dsimp only
      rw [keys, List.mem_filter, not_and, decide_eq_true_eq, not_not]
      intro used
      rcases (reaped.available processSeq).mp available with before | now
      · exact absurd used (lawful.disjoint processSeq before)
      · exact now
    · intro processSeq
      dsimp only
      rw [keys, List.mem_filter, decide_eq_true_eq, reaped.available,
        reaped.numWorkers, ← lawful.together]
      have listed : processSeq ∈ goneSeqs manager.processes → _ :=
        mem_goneSeqs lawful
      tauto
    · intro entry member
      obtain ⟨before, listed, rfl, _⟩ := mem_remaining member
      rw [mark_processSeq, mark_fst]
      exact lawful.sequence before listed
    · dsimp only
      rw [keys]
      exact lawful.keys.filter _
    · have idents : ((manager.processes.map mark).map
          fun entry => entry.2.ident).Nodup := by
        rw [idents_mark]
        exact lawful.idents
      exact idents.sublist (List.filter_sublist.map _)
    · intro entry member
      obtain ⟨before, listed, rfl, _⟩ := mem_remaining member
      dsimp only
      rw [mark_ident, reaped.created]
      exact lawful.fresh before listed
    · intro entry member
      obtain ⟨before, listed, rfl, stays⟩ := mem_remaining member
      rw [mark_ident]
      exact reaped.tasks _ (lawful.tasks before listed)
        (ident_notMem_goneIdents lawful listed stays)
    · exact reaped.schedule.trans lawful.schedule

/-! ## Spawning -/

theorem popSequence_some {available : List Nat}
    (nonempty : 0 < available.length) (choice : Nat) :
    ∃ processSeq ∈ available, popSequence available choice =
      some (processSeq, available.erase processSeq) := by
  have bound : choice % available.length < available.length :=
    Nat.mod_lt choice nonempty
  refine ⟨available[choice % available.length], List.getElem_mem bound, ?_⟩
  rw [popSequence, List.getElem?_eq_getElem bound]
  rfl

/-- The manager after some workers were spawned. -/
structure Spawned (scheduled : Bool) (manager after : ProcessManager) :
    Prop where
  numWorkers : after.numWorkers = manager.numWorkers
  tasksMap : after.tasksMap = manager.tasksMap
  unscheduled : scheduled = false →
    after.needsSchedule = manager.needsSchedule
  listed : ∀ ident ∈ manager.needsSchedule, ident ∈ after.needsSchedule
  entries : ∀ entry ∈ after.processes, entry ∈ manager.processes ∨
    (scheduled = true → entry.2.ident ∈ after.needsSchedule)

theorem Spawned.trans {scheduled : Bool} {middle : ProcessManager}
    (first : Spawned scheduled manager middle)
    (second : Spawned scheduled middle after) :
    Spawned scheduled manager after := by
  refine ⟨second.numWorkers.trans first.numWorkers,
    second.tasksMap.trans first.tasksMap, ?_, ?_, ?_⟩
  · intro unscheduled
    exact (second.unscheduled unscheduled).trans
      (first.unscheduled unscheduled)
  · intro ident member
    exact second.listed ident (first.listed ident member)
  · intro entry member
    rcases second.entries entry member with before | now
    · rcases first.entries entry before with before | now
      · exact .inl before
      · exact .inr fun scheduled =>
          second.listed _ (now scheduled)
    · exact .inr now

theorem Placed.spawn (placed : manager.Placed)
    (nonempty : 0 < manager.availableSequence.length) (scheduled : Bool)
    (choice : Nat) :
    ∃ after, manager.spawn scheduled choice = some after ∧
      after.Placed ∧ Spawned scheduled manager after ∧
      after.availableSequence.length + 1 =
        manager.availableSequence.length := by
  obtain ⟨processSeq, member, popped⟩ := popSequence_some nonempty choice
  have unused := placed.disjoint processSeq member
  have processes : ∀ value, manager.processes.assign processSeq value =
      manager.processes ++ [(processSeq, value)] := fun value =>
    Table.assign_of_lookup value (Table.notMem_keys.mp unused)
  have mem_free : ∀ other,
      other ∈ manager.availableSequence.erase processSeq ↔
        other ≠ processSeq ∧ other ∈ manager.availableSequence := by
    intro other
    exact List.Nodup.mem_erase_iff placed.free
  rw [ProcessManager.spawn, popped, Option.map_some]
  refine ⟨_, rfl, ?_, ?_, ?_⟩
  · dsimp only
    rw [processes]
    refine ⟨?_, ?_, ?_, placed.free.erase _, ?_, ?_, ?_, placed.discard⟩
    · intro other available
      dsimp only at available ⊢
      rw [mem_free] at available
      rw [List.map_append, List.mem_append, not_or]
      refine ⟨placed.disjoint other available.2, ?_⟩
      exact fun last => available.1 (List.mem_singleton.mp last)
    · intro other
      dsimp only
      rw [mem_free, List.map_append, List.mem_append, ← placed.together,
        List.map_singleton, List.mem_singleton]
      by_cases same : other = processSeq
      · rw [same]
        simp [member]
      · simp [same]
    · intro entry listed
      rcases List.mem_append.mp listed with before | last
      · exact placed.sequence entry before
      · rw [List.mem_singleton.mp last]
    · dsimp only
      rw [List.map_append, List.nodup_append]
      refine ⟨placed.keys, List.nodup_singleton _, ?_⟩
      rintro first listed second last rfl
      rw [List.map_singleton, List.mem_singleton] at last
      rw [last] at listed
      exact unused listed
    · dsimp only
      rw [List.map_append, List.nodup_append]
      refine ⟨placed.idents, List.nodup_singleton _, ?_⟩
      rintro first listed second last rfl
      rw [List.map_singleton, List.mem_singleton] at last
      obtain ⟨entry, stored, same⟩ := List.mem_map.mp listed
      have older := placed.fresh entry stored
      rw [same, last] at older
      exact absurd older (lt_irrefl _)
    · intro entry listed
      rcases List.mem_append.mp listed with before | last
      · exact Nat.lt_succ_of_lt (placed.fresh entry before)
      · rw [List.mem_singleton.mp last]
        exact Nat.lt_succ_self _
  · refine ⟨rfl, rfl, ?_, ?_, ?_⟩
    · rintro rfl
      rfl
    · intro ident listed
      dsimp only
      split
      · exact List.mem_append_left _ listed
      · exact listed
    · intro entry listed
      dsimp only at listed
      rw [processes] at listed
      rcases List.mem_append.mp listed with before | last
      · exact .inl before
      · rw [List.mem_singleton.mp last]
        refine .inr ?_
        rintro rfl
        exact List.mem_append_right _ (List.mem_singleton_self _)
  · dsimp only
    rw [List.length_erase_of_mem member]
    omega

theorem Placed.spawnWorkers {count : Nat} (placed : manager.Placed)
    (enough : count ≤ manager.availableSequence.length) (scheduled : Bool)
    (choices : Nat → Nat) :
    ∃ after, manager.spawnWorkers scheduled choices count = some after ∧
      after.Placed ∧ Spawned scheduled manager after := by
  induction count generalizing manager with
  | zero =>
      exact ⟨manager, rfl, placed, rfl, rfl, fun _ => rfl, fun _ => id,
        fun _ => .inl⟩
  | succ count induction =>
      obtain ⟨middle, found, first, spawned, length⟩ :=
        placed.spawn (by omega) scheduled (choices count)
      obtain ⟨after, rest, last, later⟩ := induction first (by omega)
      refine ⟨after, ?_, last, spawned.trans later⟩
      rw [ProcessManager.spawnWorkers, found]
      exact rest

/-! ## Cycles -/

theorem Lawful.scheduled (lawful : manager.Lawful) (placed : after.Placed)
    (spawned : Spawned true manager after) :
    after.scheduleTasks.Lawful := by
  refine ⟨⟨placed.disjoint, placed.together, placed.sequence, placed.free,
    placed.keys, placed.idents, placed.fresh, placed.discard⟩, ?_, rfl⟩
  intro entry member
  rcases spawned.entries entry member with before | now
  · apply List.mem_append_left
    rw [spawned.tasksMap]
    exact lawful.tasks entry before
  · exact List.mem_append_right _ (now rfl)

theorem Lawful.cycle (lawful : manager.Lawful) (choices : Nat → Nat) :
    ∃ next, manager.cycle choices = some next ∧ next.Lawful ∧
      next.numWorkers = manager.numWorkers := by
  obtain ⟨reaped, kept, first, second, between, same⟩ := lawful.discarded
  have count := between.count
  rw [ProcessManager.cycle, first, Option.bind_some, second,
    Option.bind_some]
  dsimp only
  split
  · rename_i missing
    obtain ⟨after, found, placed, spawned⟩ := between.spawnWorkers
      (show (kept.numWorkers - kept.processes.length).toNat ≤ _ by omega)
      true choices
    rw [found]
    exact ⟨_, rfl, between.scheduled placed spawned,
      spawned.numWorkers.trans same⟩
  · exact ⟨kept, rfl, between, same⟩

theorem init_placed (numWorkers : Int) : (init numWorkers).Placed := by
  refine ⟨fun _ _ => List.not_mem_nil, ?_, ?_, List.nodup_range',
    List.nodup_nil, List.nodup_nil, ?_, rfl⟩
  · intro processSeq
    simp only [init, List.map_nil, List.not_mem_nil, or_false,
      List.mem_range'_1]
    omega
  · intro entry member
    cases member
  · intro entry member
    cases member

theorem start_lawful (numWorkers : Int) (choices : Nat → Nat) :
    ∃ manager, start numWorkers choices = some manager ∧
      manager.Lawful ∧ manager.numWorkers = numWorkers := by
  obtain ⟨after, found, placed, spawned⟩ :=
    (init_placed numWorkers).spawnWorkers
      (show numWorkers.toNat ≤ _ by rw [init, List.length_range']) false
      choices
  rw [start, found]
  refine ⟨_, rfl, ⟨⟨placed.disjoint, placed.together, placed.sequence,
    placed.free, placed.keys, placed.idents, placed.fresh, placed.discard⟩,
    ?_, spawned.unscheduled rfl⟩, spawned.numWorkers⟩
  intro entry member
  exact List.mem_map_of_mem (f := fun entry => entry.2.ident) member

theorem Lawful.step (lawful : manager.Lawful) {next : ProcessManager}
    {action : WorkerAction} {events : List WorkerEvent}
    (stepped : ProcessManager.step manager action = some (next, events)) :
    next.Lawful ∧ next.numWorkers = manager.numWorkers ∧ events = [] := by
  cases action with
  | die processSeq =>
      cases stepped
      exact ⟨lawful.change processSeq (fun _ => rfl) (fun _ => rfl), rfl,
        rfl⟩
  | handle processSeq =>
      cases stepped
      refine ⟨lawful.change processSeq ?_ ?_, rfl, rfl⟩
      · intro proc
        unfold ProcessManager.handle
        split <;> rfl
      · intro proc
        unfold ProcessManager.handle
        split <;> rfl
  | cycle choices =>
      obtain ⟨after, found, kept, same⟩ := lawful.cycle choices
      rw [ProcessManager.step, found] at stepped
      cases stepped
      exact ⟨kept, same, rfl⟩

/-- A manager of so many workers, of which no cycle has failed. -/
structure Steady (numWorkers : Int) (trace : List WorkerEvent)
    (manager : ProcessManager) : Prop where
  lawful : manager.Lawful
  numWorkers : manager.numWorkers = numWorkers
  quiet : trace = []

/-- Whatever workers die and are handled between the cycles, the free numbers
and the workers divide the numbers up to `num_workers` among them, and no
cycle fails. -/
theorem run_numbered (numWorkers : Int) (choices : Nat → Nat) :
    ∃ manager, start numWorkers choices = some manager ∧
      ∀ trace state, Transition.AnyRun step manager trace state →
        state.Numbered ∧ state.numWorkers = numWorkers ∧
          .keyError ∉ trace := by
  obtain ⟨manager, found, lawful, same⟩ := start_lawful numWorkers choices
  refine ⟨manager, found, ?_⟩
  intro trace state run
  have steady : Steady numWorkers trace state := by
    apply run.invariant
    · exact ⟨lawful, same, rfl⟩
    · intro trace events state next action steady _ stepped
      obtain ⟨after, number, silent⟩ := steady.lawful.step stepped
      refine ⟨after, number.trans steady.numWorkers, ?_⟩
      rw [steady.quiet, silent]
      rfl
  refine ⟨steady.lawful.numbered, steady.numWorkers, ?_⟩
  rw [steady.quiet]
  exact List.not_mem_nil

/-- Two workers that have just been started. -/
def twoWorkers : ProcessManager where
  numWorkers := 2
  availableSequence := []
  processes :=
    [(1, { ident := 0, processSeq := 1 }),
      (2, { ident := 1, processSeq := 2 })]
  tasksMap := [0, 1]
  created := 2

theorem start_twoWorkers : start 2 (fun _ => 0) = some twoWorkers := rfl

/-- One of two workers dies, is marked and handled, and is replaced. -/
theorem run_numbered_replaced :
    ∃ trace state, Transition.AnyRun step twoWorkers trace state ∧
      state.created = 3 ∧ state.Numbered := by
  obtain ⟨manager, found, law⟩ := run_numbered 2 (fun _ => 0)
  rw [start_twoWorkers, Option.some.injEq] at found
  subst found
  have ran : ∃ trace state, Transition.AnyRun step twoWorkers trace state ∧
      state.created = 3 := by
    apply Transition.Run.exists_state_of_exec
      [.die 1, .cycle (fun _ => 0), .handle 1, .cycle (fun _ => 0)]
    decide
  obtain ⟨trace, state, run, created⟩ := ran
  exact ⟨trace, state, run, created, (law trace state run).1⟩

end ProcessManager

end Multiprocess

end TinyChat
