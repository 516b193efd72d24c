import TinyChat.Redis.Client
import TinyChat.Redis.Store

/-!
# Writing in batches

The command of a batch is that of the type number two above.  This is the
batched command for `SET` and `DELETE`, but `RPUSH` for `LPUSH` and `DELETE`
for `RPUSH`, and these two do not take tuples.
-/

namespace TinyChat

namespace Redis

open Utils

/-- The argument tuples that an aggregator of a write type collects. -/
inductive WriteBatch where
  | set (items : List (String × Scalar))
  | delete (keys : List String)
  | lpush (items : List (String × List Scalar))
  | rpush (items : List (String × List Scalar))

namespace WriteBatch

def taskType : WriteBatch → RedisTaskType
  | .set _ => .set
  | .delete _ => .delete
  | .lpush _ => .lpush
  | .rpush _ => .rpush

def pushed (item : String × List Scalar) : List Scalar :=
  .text item.1 :: item.2

def messages : WriteBatch → List (List Scalar)
  | .set items => items.map (fun item => [.text item.1, item.2])
  | .delete keys => keys.map (fun key => [.text key])
  | .lpush items | .rpush items => items.map pushed

end WriteBatch

section

variable (scripts : Backend Store)

/-- The futures of a batch that is written by `redis_write_batch`, and the
store. -/
def writeTogether (taskType : RedisTaskType) (messages : List (List Scalar))
    (store : Store) : List (Future Reply) × Store :=
  let executed := executeBatch (server scripts) taskType messages store
  ((redisWriteBatch false messages
      (List.replicate messages.length .pending)
      (.answered (executed.1.getD .absent))).1,
    executed.2)

/-- Every message is written by a `redis_write` of its own. -/
def writeSingly (taskType : RedisTaskType) :
    List (List Scalar) → Store → List (Ending Reply) × Store
  | [], store => ([], store)
  | message :: messages, store =>
      let resolved := resolve (server scripts) taskType
        (message.map .scalar) store
      let later := writeSingly taskType messages resolved.2
      (redisWrite false (.answered resolved.1) :: later.1, later.2)

end

def reportsSuccess (ending : Ending Reply) : Bool :=
  (respond ending).map Prod.snd = some .success

/-- The caller of `aggregate` is told of a success. -/
def receivesSuccess : Future Reply → Bool
  | .result data => reportsSuccess (.returned data)
  | .timeout => reportsSuccess .timeout
  | .pending | .cancelled => false

/-- If the executor of the batch succeeds, the store is as after the single
writes; and every caller is told of a success in one case if and only if in
the other. -/
structure AgreesWithSingles (scripts : Backend Store)
    (taskType : RedisTaskType) (messages : List (List Scalar))
    (store : Store) : Prop where
  stores : (executeBatch (server scripts) taskType messages store).1 ≠ none →
    (writeTogether scripts taskType messages store).2 =
      (writeSingly scripts taskType messages store).2
  statuses :
    (writeTogether scripts taskType messages store).1.map receivesSuccess =
      (writeSingly scripts taskType messages store).1.map reportsSuccess

/-- A single push fails: there is nothing to push, a value cannot be encoded,
or the key has another type. -/
def Unpushable (store : Store) (item : String × List Scalar) : Prop :=
  item.2 = [] ∨ (∃ value ∈ item.2, ¬ value.Encodable) ∨
    ∃ stored, store item.1.toUTF8 = some stored ∧
      ∀ items, stored ≠ .list items

/-- The batch is not larger than one, or sets values all of which or none of
which can be encoded, or deletes, or pushes nothing. -/
def WriteBatch.Uniform (store : Store) : WriteBatch → Prop
  | .set items => items.length ≤ 1 ∨
      (∀ item ∈ items, item.2.Encodable) ∨
        ∀ item ∈ items, ¬ item.2.Encodable
  | .delete _ => True
  | .lpush items | .rpush items => items.length ≤ 1 ∨
      ∀ item ∈ items, Unpushable store item

section

variable {scripts : Backend Store} {taskType : RedisTaskType}
  {messages : List (List Scalar)} {store : Store}

theorem together_statuses (several : messages.length ≠ 1) :
    (writeTogether scripts taskType messages store).1.map receivesSuccess =
      List.replicate messages.length (reportsSuccess (.returned
        ((executeBatch (server scripts) taskType messages store).1.getD
          .absent))) := by
  have batched : ∀ {futures data},
      (redisWriteBatch false messages futures (.answered data)).1 =
        futures.map (Future.setResult data) := by
    intro futures data
    match messages with
    | [] => rfl
    | [message] => exact absurd rfl several
    | _ :: _ :: _ => rfl
  simp only [writeTogether]
  rw [batched, List.map_replicate, List.map_replicate]
  rfl

theorem agrees_single (message : List Scalar) :
    AgreesWithSingles scripts taskType [message] store where
  stores := fun _ => rfl
  statuses := rfl

theorem agrees_failed_iff (several : messages.length ≠ 1)
    (failed :
      (executeBatch (server scripts) taskType messages store).1 = none) :
    AgreesWithSingles scripts taskType messages store ↔
      ∀ ending ∈ (writeSingly scripts taskType messages store).1,
        reportsSuccess ending = false := by
  have length : ∀ (messages : List (List Scalar)) (store : Store),
      (writeSingly scripts taskType messages store).1.length =
        messages.length := by
    intro messages
    induction messages with
    | nil => exact fun _ => rfl
    | cons message messages induction =>
        intro store
        exact congrArg Nat.succ (induction _)
  constructor
  · intro agrees ending member
    have statuses := agrees.statuses
    rw [together_statuses several, failed] at statuses
    have listed := List.mem_map_of_mem (f := reportsSuccess) member
    rw [← statuses] at listed
    exact (List.mem_replicate.mp listed).2
  · intro silent
    constructor
    case stores => exact fun succeeded => absurd failed succeeded
    case statuses =>
      rw [together_statuses several, failed]
      symm
      apply List.eq_replicate_iff.mpr
      constructor
      · rw [List.length_map, length]
      · intro told member
        obtain ⟨ending, listed, rfl⟩ := List.mem_map.mp member
        exact silent ending listed

def textItem (item : String × Scalar) : Scalar × Scalar :=
  (.text item.1, item.2)

/-- What a value becomes under its key. -/
def storedEntry (item : String × Scalar) : ByteArray × Option Stored :=
  (item.1.toUTF8, some (.string item.2.content))

theorem writeAll_dictionary (store : Store) (items : List (String × Scalar)) :
    Table.writeAll store ((dictionary (items.map textItem)).map
        (Prod.map Scalar.content (fun value =>
          some (Stored.string value.content)))) =
      Table.writeAll store (items.map storedEntry) := by
  induction items using List.reverseRecOn with
  | nil => rfl
  | append_singleton items item induction =>
      rw [List.map_append, List.map_singleton, dictionary_append,
        Table.map_assign, Table.writeAll_assign, induction,
        List.map_append, Table.writeAll_append]
      · rfl
      · intro entry member same
        obtain ⟨earlier, -, rfl⟩ :=
          List.mem_map.mp (mem_dictionary member)
        exact congrArg Scalar.text (toUTF8_inj.mp same)

theorem resolve_set (key : String) (value : Scalar) :
    resolve (server scripts) .set [.scalar (.text key), .scalar value] store =
      match value.encode with
      | some content => (.truth true, store.put key.toUTF8 content)
      | none => (.absent, store) := by
  cases encoded : value.encode with
  | none =>
      simp [resolve, execute, handlers, server, send, encoded, settled]
  | some content =>
      simp [resolve, execute, handlers, server, send, encoded, settled,
        Store.set]

theorem told_set (items : List (String × Scalar)) (store : Store) :
    (writeSingly scripts .set (WriteBatch.set items).messages
        store).1.map reportsSuccess =
      items.map (fun item => item.2.encode.isSome) := by
  induction items generalizing store with
  | nil => rfl
  | cons item items induction =>
      simp only [WriteBatch.messages, List.map_cons, List.map_nil,
        writeSingly, resolve_set]
      cases encoded : item.2.encode with
      | none => exact congrArg (false :: ·) (induction _)
      | some content => exact congrArg (true :: ·) (induction _)

theorem stored_set {items : List (String × Scalar)}
    (encodable : ∀ item ∈ items, item.2.Encodable) (store : Store) :
    (writeSingly scripts .set (WriteBatch.set items).messages store).2 =
      Table.writeAll store (items.map storedEntry) := by
  induction items generalizing store with
  | nil => rfl
  | cons item items induction =>
      simp only [WriteBatch.messages, List.map_cons, List.map_nil,
        writeSingly, resolve_set,
        (encodable item List.mem_cons_self).encode]
      exact induction (fun other member =>
        encodable other (List.mem_cons_of_mem _ member)) _

theorem executeBatch_set {items : List (String × Scalar)}
    (several : items.length ≠ 1) :
    executeBatch (server scripts) .set (WriteBatch.set items).messages store =
      settled store (((dictionary (items.map textItem)).mapM encodeEntry).bind
        (Store.mset · store)) := by
  have task : batchTask .set (WriteBatch.set items).messages =
      some (.batchSet, items.map (fun item =>
        .tuple [.text item.1, item.2])) := by
    match items with
    | [] => rfl
    | [item] => exact absurd rfl several
    | first :: second :: items =>
        simp only [WriteBatch.messages, List.map_cons, batchTask,
          Option.map_eq_some_iff]
        refine ⟨.batchSet, rfl, ?_⟩
        rw [List.map_map]
        rfl
  have pairs : dictOf (items.map (fun item =>
      .tuple [.text item.1, item.2])) =
        some (dictionary (items.map textItem)) := by
    rw [← dictOf_tuples, List.map_map]
    rfl
  rw [executeBatch, task]
  simp only [execute, handlers, redisBatchSet, pairs, server]

theorem executeBatch_set_encodable {items : List (String × Scalar)}
    (several : 2 ≤ items.length)
    (encodable : ∀ item ∈ items, item.2.Encodable) :
    executeBatch (server scripts) .set (WriteBatch.set items).messages store =
      (some (.truth true),
        Table.writeAll store (items.map storedEntry)) := by
  have encoded : (dictionary (items.map textItem)).mapM encodeEntry =
      some ((dictionary (items.map textItem)).map (Prod.map Scalar.content
        Scalar.content)) := by
    apply mapM_eq_some_map
    intro entry member
    obtain ⟨item, listed, rfl⟩ := List.mem_map.mp (mem_dictionary member)
    rw [encodeEntry, textItem, (encodable item listed).encode]
    rfl
  have nonempty : dictionary (items.map textItem) ≠ [] := by
    apply dictionary_ne_nil
    intro empty
    rw [List.map_eq_nil_iff.mp empty] at several
    cases several
  rw [executeBatch_set (by omega), encoded, ← writeAll_dictionary]
  cases shape : dictionary (items.map textItem) with
  | nil => exact absurd shape nonempty
  | cons entry entries =>
      simp only [Option.bind_some, Store.mset, settled, List.map_cons,
        Store.putAll, List.map_map]
      rfl

/-- Some value of the dictionary cannot be encoded. -/
theorem executeBatch_set_failed {items : List (String × Scalar)}
    (several : 2 ≤ items.length)
    (refused : ∀ item ∈ items, ¬ item.2.Encodable) :
    (executeBatch (server scripts) .set (WriteBatch.set items).messages
      store).1 = none := by
  have nonempty : dictionary (items.map textItem) ≠ [] := by
    apply dictionary_ne_nil
    intro empty
    rw [List.map_eq_nil_iff.mp empty] at several
    cases several
  have failed : (dictionary (items.map textItem)).mapM encodeEntry = none := by
    obtain ⟨entry, member⟩ := List.exists_mem_of_ne_nil _ nonempty
    refine mapM_eq_none_iff.mpr ⟨entry, member, ?_⟩
    obtain ⟨item, listed, rfl⟩ := List.mem_map.mp (mem_dictionary member)
    rw [encodeEntry, textItem, not_not.mp (refused item listed)]
    rfl
  rw [executeBatch_set (by omega), failed]
  rfl

theorem agrees_set_several {items : List (String × Scalar)}
    (several : 2 ≤ items.length) :
    AgreesWithSingles scripts .set (WriteBatch.set items).messages store ↔
      (∀ item ∈ items, item.2.Encodable) ∨
        ∀ item ∈ items, ¬ item.2.Encodable := by
  have length : (WriteBatch.set items).messages.length = items.length :=
    List.length_map _
  have notOne : (WriteBatch.set items).messages.length ≠ 1 := by omega
  constructor
  · intro agrees
    have statuses := agrees.statuses
    rw [told_set, together_statuses notOne] at statuses
    have all : ∀ item ∈ items, item.2.encode.isSome = reportsSuccess
        (.returned ((executeBatch (server scripts) .set
          (WriteBatch.set items).messages store).1.getD .absent)) := by
      intro item member
      have listed := List.mem_map_of_mem
        (f := fun item : String × Scalar => item.2.encode.isSome) member
      rw [← statuses] at listed
      exact (List.mem_replicate.mp listed).2
    cases told : reportsSuccess (.returned ((executeBatch (server scripts) .set
        (WriteBatch.set items).messages store).1.getD .absent)) with
    | true =>
        refine Or.inl ?_
        intro item member
        exact Option.isSome_iff_ne_none.mp ((all item member).trans told)
    | false =>
        refine Or.inr ?_
        intro item member encodable
        have refused := (all item member).trans told
        rw [encodable.encode] at refused
        cases refused
  · intro uniform
    rcases uniform with encodable | refused
    · have executed : executeBatch (server scripts) .set
          (WriteBatch.set items).messages store = _ :=
        executeBatch_set_encodable several encodable
      constructor
      case stores =>
        intro _
        rw [writeTogether, executed, stored_set encodable]
      case statuses =>
        rw [together_statuses notOne, told_set, executed, length]
        symm
        apply List.eq_replicate_iff.mpr
        refine ⟨List.length_map _, ?_⟩
        intro told member
        obtain ⟨item, listed, rfl⟩ := List.mem_map.mp member
        rw [(encodable item listed).encode]
        rfl
    · rw [agrees_failed_iff notOne (executeBatch_set_failed several refused)]
      intro ending member
      have listed := List.mem_map_of_mem (f := reportsSuccess) member
      rw [told_set] at listed
      obtain ⟨item, found, same⟩ := List.mem_map.mp listed
      rw [← same, not_not.mp (refused item found)]
      rfl

theorem resolve_delete (key : String) :
    resolve (server scripts) .delete [.scalar (.text key)] store =
      (.number (store.removeAll [key.toUTF8]).1,
        (store.removeAll [key.toUTF8]).2) := by
  simp [resolve, execute, handlers, server, send, settled, Store.delete]

theorem singly_delete (scripts : Backend Store) (keys : List String)
    (store : Store) :
    (writeSingly scripts .delete (WriteBatch.delete keys).messages
        store).1.map reportsSuccess = List.replicate keys.length true ∧
      (writeSingly scripts .delete (WriteBatch.delete keys).messages
        store).2 = (store.removeAll (keys.map String.toUTF8)).2 := by
  induction keys generalizing store with
  | nil => exact ⟨rfl, rfl⟩
  | cons key keys induction =>
      obtain ⟨statuses, stores⟩ :=
        induction (Function.update store key.toUTF8 none)
      simp only [WriteBatch.messages, List.map_cons, List.map_nil,
        writeSingly, resolve_delete]
      exact ⟨congrArg (true :: ·) statuses, stores⟩

theorem executeBatch_delete {keys : List String} (several : 2 ≤ keys.length) :
    executeBatch (server scripts) .delete (WriteBatch.delete keys).messages
        store =
      (some (.number (store.removeAll (keys.map String.toUTF8)).1),
        (store.removeAll (keys.map String.toUTF8)).2) := by
  have firsts : ((keys.map (fun key => [Scalar.text key])).map
      Argument.tuple).mapM Argument.first = some (keys.map Scalar.text) := by
    rw [List.map_map, List.mapM_map]
    exact mapM_eq_some_map Scalar.text (fun _ _ => rfl)
  have words : ((keys.map Scalar.text).map Argument.scalar).mapM
      Argument.encode = some (keys.map String.toUTF8) := by
    rw [List.map_map, List.mapM_map]
    exact mapM_eq_some_map String.toUTF8 (fun _ _ => rfl)
  match keys with
  | [] => cases several
  | [key] => simp at several
  | first :: second :: keys =>
      change redisBatchDelete (server scripts)
        (((first :: second :: keys).map (fun key => [Scalar.text key])).map
          Argument.tuple) store = _
      simp only [redisBatchDelete]
      rw [firsts]
      simp only [server, send, words]
      rfl

theorem agrees_delete (keys : List String) :
    AgreesWithSingles scripts .delete (WriteBatch.delete keys).messages
      store := by
  obtain ⟨statuses, stores⟩ := singly_delete scripts keys store
  match keys with
  | [] =>
      exact (agrees_failed_iff (by simp [WriteBatch.messages]) rfl).mpr
        (fun _ member => absurd member List.not_mem_nil)
  | [key] => exact agrees_single [.text key]
  | first :: second :: keys =>
      have executed : executeBatch (server scripts) .delete
          (WriteBatch.delete (first :: second :: keys)).messages store = _ :=
        executeBatch_delete (Nat.le_add_left 2 keys.length)
      constructor
      case stores =>
        intro _
        rw [writeTogether, executed, stores]
      case statuses =>
        rw [together_statuses (by simp [WriteBatch.messages]), executed,
          statuses]
        simp [WriteBatch.messages, reportsSuccess, respond]

theorem send_push (atHead : Bool) (item : String × List Scalar) :
    send (Store.push atHead) ((WriteBatch.pushed item).map .scalar) store =
      settled store ((item.2.mapM Scalar.encode).bind (fun words =>
        Store.push atHead (item.1.toUTF8 :: words) store)) := by
  have words : ((WriteBatch.pushed item).map Argument.scalar).mapM
      Argument.encode =
        (item.2.mapM Scalar.encode).map (item.1.toUTF8 :: ·) := by
    rw [WriteBatch.pushed, List.mapM_map, List.mapM_cons]
    cases encoded : item.2.mapM Scalar.encode with
    | none => simp [Function.comp_def, encoded]
    | some words => simp [Function.comp_def, encoded]
  rw [send, words, Option.bind_map]
  rfl

theorem send_push_refused {item : String × List Scalar}
    (refused : Unpushable store item) (atHead : Bool) :
    send (Store.push atHead) ((WriteBatch.pushed item).map .scalar) store =
      (none, store) := by
  rw [send_push]
  rcases refused with empty | ⟨value, member, unencodable⟩ |
    ⟨stored, found, different⟩
  · rw [empty]
    rfl
  · rw [mapM_eq_none_iff.mpr ⟨value, member, not_not.mp unencodable⟩]
    rfl
  · cases encoded : item.2.mapM Scalar.encode with
    | none => rfl
    | some words =>
        cases words with
        | nil => rfl
        | cons word words =>
            cases stored with
            | list items => exact absurd rfl (different items)
            | string | hash | other =>
                simp only [Option.bind_some, Store.push, found]
                rfl

theorem send_push_accepted {item : String × List Scalar}
    (accepted : ¬ Unpushable store item) (atHead : Bool) :
    ∃ length next,
      send (Store.push atHead) ((WriteBatch.pushed item).map .scalar)
        store = (some (.number length), next) := by
  simp only [Unpushable, not_or, not_exists, not_and, not_not] at accepted
  obtain ⟨nonempty, encodable, untyped⟩ := accepted
  obtain ⟨value, values, shape⟩ := List.exists_cons_of_ne_nil nonempty
  have encoded : item.2.mapM Scalar.encode =
      some (item.2.map Scalar.content) :=
    mapM_eq_some_map Scalar.content
      (fun value member => (encodable value member).encode)
  rw [send_push, encoded, shape]
  cases found : store item.1.toUTF8 with
  | none =>
      simp only [Option.bind_some, List.map_cons, Store.push, found]
      exact ⟨_, _, rfl⟩
  | some stored =>
      cases stored with
      | list items =>
          simp only [Option.bind_some, List.map_cons, Store.push, found]
          exact ⟨_, _, rfl⟩
      | string | hash | other =>
          obtain ⟨items, same⟩ := not_forall_not.mp (untyped _ found)
          cases same

/-- Single pushes all fail if and only if each is refused at first. -/
theorem silent_pushes_iff {atHead : Bool}
    (executor : execute (server scripts) taskType =
      send (Store.push atHead)) (items : List (String × List Scalar)) :
    (∀ ending ∈ (writeSingly scripts taskType
        (items.map WriteBatch.pushed) store).1,
      reportsSuccess ending = false) ↔
      ∀ item ∈ items, Unpushable store item := by
  induction items with
  | nil => simp [writeSingly]
  | cons item items induction =>
      rw [List.forall_mem_cons]
      simp only [List.map_cons, writeSingly, resolve, executor,
        List.forall_mem_cons]
      by_cases refused : Unpushable store item
      · rw [send_push_refused refused, induction]
        exact and_congr_left' (iff_of_true rfl refused)
      · obtain ⟨length, next, sent⟩ := send_push_accepted refused atHead
        rw [sent]
        refine iff_of_false ?_ (fun all => refused all.1)
        intro silent
        cases silent.1

theorem send_tuples (command : Store.Command) (message : List Scalar)
    (messages : List (List Scalar)) :
    send command ((message :: messages).map .tuple) store =
      (none, store) := by
  simp [send, settled]

theorem executeBatch_lpush {items : List (String × List Scalar)}
    (several : items.length ≠ 1) :
    (executeBatch (server scripts) .lpush (items.map WriteBatch.pushed)
      store).1 = none := by
  match items with
  | [] => rfl
  | [item] => exact absurd rfl several
  | first :: second :: items =>
      exact congrArg Prod.fst
        (send_tuples Store.rpush (WriteBatch.pushed first)
          ((second :: items).map WriteBatch.pushed))

theorem executeBatch_rpush {items : List (String × List Scalar)}
    (several : items.length ≠ 1) :
    (executeBatch (server scripts) .rpush (items.map WriteBatch.pushed)
      store).1 = none := by
  match items with
  | [] => rfl
  | [item] => exact absurd rfl several
  | first :: second :: items =>
      exact congrArg Prod.fst
        (send_tuples Store.delete (WriteBatch.pushed first)
          ((second :: items).map WriteBatch.pushed))

/-- A batch of pushes whose executor fails agrees only if nothing can be
pushed. -/
theorem agrees_push_iff {atHead : Bool}
    (executor : execute (server scripts) taskType =
      send (Store.push atHead)) {items : List (String × List Scalar)}
    (failed : items.length ≠ 1 → (executeBatch (server scripts) taskType
      (items.map WriteBatch.pushed) store).1 = none) :
    AgreesWithSingles scripts taskType (items.map WriteBatch.pushed)
        store ↔
      items.length ≤ 1 ∨ ∀ item ∈ items, Unpushable store item := by
  by_cases single : items.length = 1
  · obtain ⟨item, rfl⟩ := List.length_eq_one_iff.mp single
    exact iff_of_true (agrees_single _) (Or.inl (Nat.le_refl _))
  · rw [agrees_failed_iff (by rw [List.length_map]; exact single)
      (failed single), silent_pushes_iff executor]
    refine (or_iff_right_of_imp ?_).symm
    intro small item member
    have empty : items = [] :=
      List.eq_nil_of_length_eq_zero (by omega)
    rw [empty] at member
    cases member

end

/-- A batch of writes agrees with single writes if and only if it is
uniform. -/
theorem agreesWithSingles_iff (scripts : Backend Store) (batch : WriteBatch)
    (store : Store) :
    AgreesWithSingles scripts batch.taskType batch.messages store ↔
      batch.Uniform store := by
  cases batch with
  | set items =>
      match items with
      | [] =>
          refine iff_of_true ?_ (Or.inl (Nat.zero_le 1))
          exact (agrees_failed_iff (by simp [WriteBatch.messages]) rfl).mpr
            (fun _ member => absurd member List.not_mem_nil)
      | [item] =>
          exact iff_of_true (agrees_single _) (Or.inl (Nat.le_refl 1))
      | first :: second :: items =>
          have several : 2 ≤ (first :: second :: items).length :=
            Nat.le_add_left 2 items.length
          refine (agrees_set_several several).trans ?_
          exact (or_iff_right (Nat.not_le_of_gt several)).symm
  | delete keys => exact iff_of_true (agrees_delete keys) trivial
  | lpush items => exact agrees_push_iff rfl executeBatch_lpush
  | rpush items => exact agrees_push_iff rfl executeBatch_rpush

/-- Two callers push an element each into an empty store. -/
theorem lpush_batch_fails :
    ¬ AgreesWithSingles (fun _ => raises) .lpush
      (WriteBatch.lpush [("a", [.text "1"]), ("a", [.text "2"])]).messages
      (fun _ => none) := by
  intro agrees
  have silent := (agrees_failed_iff (by decide) rfl).mp agrees
  have told := silent (.returned (.number 1)) List.mem_cons_self
  cases told

end Redis

end TinyChat
