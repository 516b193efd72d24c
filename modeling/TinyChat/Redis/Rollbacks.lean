import TinyChat.Redis.Store

/-!
# Rolling a write back

A rollback handler gets the arguments of the write, but not the former
values.  It deletes what was written, so that it restores what did not exist
before; a counter is decreased, so that it restores one that existed.
-/

namespace TinyChat

namespace Redis

/-- A write that has a rollback handler, with its arguments. -/
inductive RollbackWrite where
  | set (key value : Scalar)
  | mset (mapping : Table Scalar Scalar)
  | hset (key field value : Scalar)
  | batchSet (items : List (Scalar × Scalar))
  | incr (key : Scalar) (increment : Int)

namespace RollbackWrite

def taskType : RollbackWrite → RedisTaskType
  | .set _ _ => .set
  | .mset _ => .mset
  | .hset _ _ _ => .hset
  | .batchSet _ => .batchSet
  | .incr _ _ => .incr

def taskData : RollbackWrite → List Argument
  | .set key value => [.scalar key, .scalar value]
  | .mset mapping => [.dict mapping]
  | .hset key field value => [.scalar key, .scalar field, .scalar value]
  | .batchSet items => items.map (fun item => .tuple [item.1, item.2])
  | .incr key increment => [.scalar key, .scalar (.number increment)]

end RollbackWrite

/-- The coroutine that the writer enqueues for the rollback task. -/
def rollbackOf {σ : Type} (backend : Backend σ) (taskType : RedisTaskType) :
    Executor σ :=
  match handlers backend taskType with
  | some (_, some rollback) => rollback
  | _ => raises

/-- The store after a write and its rollback; a write that fails is not
rolled back. -/
def writeAndRollBack (scripts : Backend Store) (write : RollbackWrite)
    (store : Store) : Store :=
  let executed :=
    execute (server scripts) write.taskType write.taskData store
  match executed.1 with
  | none => executed.2
  | some _ =>
      (rollbackOf (server scripts) write.taskType write.taskData
        executed.2).2

/-- The store has none of the keys. -/
def Absent (store : Store) (keys : List Scalar) : Prop :=
  ∀ key ∈ keys, ∀ word, key.encode = some word → store word = none

/-- If the write can be executed, then nothing is overwritten, and a counter
exists and is not increased by the least number. -/
def RollbackWrite.Restorable (store : Store) : RollbackWrite → Prop
  | .set key value => value.Encodable → Absent store [key]
  | .mset mapping =>
      (∀ entry ∈ mapping, entry.1.Encodable ∧ entry.2.Encodable) →
        Absent store (mapping.map Prod.fst)
  | .batchSet items =>
      (∀ entry ∈ dictionary items,
        entry.1.Encodable ∧ entry.2.Encodable) →
          Absent store (items.map Prod.fst)
  | .hset key field value => ∀ word name, key.encode = some word →
      field.encode = some name → value.Encodable →
        ∀ hash, store word = some (.hash hash) → hash.has name = false
  | .incr key increment => ∀ word value, key.encode = some word →
      Fits increment → store.counter word = some value →
        Fits (value + increment) →
          store word ≠ none ∧ increment ≠ -2 ^ 63

section

variable {scripts : Backend Store} {store : Store}

theorem mapM_encodeEntry {entries : Table Scalar Scalar}
    (encodable : ∀ entry ∈ entries,
      entry.1.Encodable ∧ entry.2.Encodable) :
    entries.mapM encodeEntry =
      some (entries.map (Prod.map Scalar.content Scalar.content)) := by
  apply mapM_eq_some_map
  intro entry member
  obtain ⟨key, value⟩ := encodable entry member
  rw [encodeEntry, key.encode, value.encode]
  rfl

theorem mapM_encodeEntry_none {entries : Table Scalar Scalar}
    (refused : ¬ ∀ entry ∈ entries,
      entry.1.Encodable ∧ entry.2.Encodable) :
    entries.mapM encodeEntry = none := by
  simp only [not_forall, not_and_or] at refused
  obtain ⟨entry, member, failed⟩ := refused
  refine mapM_eq_none_iff.mpr ⟨entry, member, ?_⟩
  rcases failed with key | value
  · rw [encodeEntry, not_not.mp key]
    rfl
  · rw [encodeEntry, not_not.mp value]
    cases entry.1.encode <;> rfl

theorem server_delete {keys : List Scalar} (nonempty : keys ≠ [])
    (encodable : ∀ key ∈ keys, key.Encodable) :
    (server scripts .delete (keys.map .scalar) store).2 =
      (store.removeAll (keys.map Scalar.content)).2 := by
  have encoded : (keys.map Argument.scalar).mapM Argument.encode =
      some (keys.map Scalar.content) := by
    rw [List.mapM_map]
    exact mapM_eq_some_map Scalar.content
      (fun key member => (encodable key member).encode)
  obtain ⟨key, rest, rfl⟩ := List.exists_cons_of_ne_nil nonempty
  simp only [server, send, encoded]
  rfl

theorem absent_iff {keys : List Scalar}
    (encodable : ∀ key ∈ keys, key.Encodable) :
    Absent store keys ↔
      ∀ word ∈ keys.map Scalar.content, store word = none := by
  constructor
  · intro absent word listed
    obtain ⟨key, member, rfl⟩ := List.mem_map.mp listed
    exact absent key member key.content (encodable key member).encode
  · intro absent key member word encoded
    rw [(encodable key member).encode] at encoded
    cases encoded
    exact absent key.content (List.mem_map_of_mem member)

theorem restored_entries_iff {entries : Table Scalar Scalar}
    {keys : List Scalar} (nonempty : keys ≠ [])
    (same : ∀ key, key ∈ keys ↔ key ∈ entries.map Prod.fst)
    (encodable : ∀ entry ∈ entries,
      entry.1.Encodable ∧ entry.2.Encodable) :
    (server scripts .delete (keys.map .scalar)
        (store.putAll (entries.map (Prod.map Scalar.content
          Scalar.content)))).2 = store ↔
      Absent store keys := by
  have all : ∀ key ∈ keys, key.Encodable := by
    intro key member
    obtain ⟨entry, listed, rfl⟩ := List.mem_map.mp ((same key).mp member)
    exact (encodable entry listed).1
  rw [server_delete nonempty all, absent_iff all]
  apply Store.removeAll_putAll
  intro word
  have keysOf : (entries.map (Prod.map Scalar.content Scalar.content)).map
      Prod.fst = (entries.map Prod.fst).map Scalar.content := by
    rw [List.map_map, List.map_map]
    rfl
  rw [keysOf, List.mem_map, List.mem_map]
  constructor
  · rintro ⟨key, member, found⟩
    exact ⟨key, (same key).mp member, found⟩
  · rintro ⟨key, member, found⟩
    exact ⟨key, (same key).mpr member, found⟩

theorem restored_dictionary_iff {write : RollbackWrite}
    {entries : Table Scalar Scalar} {keys : List Scalar}
    (executed : execute (server scripts) write.taskType write.taskData
      store = settled store ((entries.mapM encodeEntry).bind
        (Store.mset · store)))
    (rolledBack : ∀ state, rollbackOf (server scripts) write.taskType
      write.taskData state = server scripts .delete (keys.map .scalar) state)
    (same : ∀ key, key ∈ keys ↔ key ∈ entries.map Prod.fst) :
    writeAndRollBack scripts write store = store ↔
      ((∀ entry ∈ entries, entry.1.Encodable ∧ entry.2.Encodable) →
        Absent store keys) := by
  by_cases encodable : ∀ entry ∈ entries,
      entry.1.Encodable ∧ entry.2.Encodable
  · rw [mapM_encodeEntry encodable] at executed
    cases shape : entries with
    | nil =>
        rw [shape] at executed same
        apply iff_of_true
        · simp only [writeAndRollBack, executed]
          rfl
        · intro _ key member
          cases (same key).mp member
    | cons first rest =>
        have nonempty : keys ≠ [] := by
          rintro rfl
          rw [shape] at same
          cases (same first.1).mpr List.mem_cons_self
        have written : execute (server scripts) write.taskType
            write.taskData store = (some (.truth true), store.putAll
              (entries.map (Prod.map Scalar.content Scalar.content))) := by
          rw [executed, shape]
          rfl
        rw [← shape]
        simp only [writeAndRollBack, written, rolledBack]
        rw [restored_entries_iff nonempty same encodable]
        exact ⟨fun absent _ => absent, fun absent => absent encodable⟩
  · rw [mapM_encodeEntry_none encodable] at executed
    apply iff_of_true
    · simp only [writeAndRollBack, executed]
      rfl
    · exact fun all => absurd all encodable

theorem restored_mset_iff (mapping : Table Scalar Scalar) :
    writeAndRollBack scripts (.mset mapping) store = store ↔
      RollbackWrite.Restorable store (.mset mapping) := by
  apply restored_dictionary_iff rfl
  · intro state
    change server scripts .delete _ state = _
    rw [List.map_map]
    rfl
  · exact fun _ => Iff.rfl

theorem restored_batchSet_iff (items : List (Scalar × Scalar)) :
    writeAndRollBack scripts (.batchSet items) store = store ↔
      RollbackWrite.Restorable store (.batchSet items) := by
  apply restored_dictionary_iff
  · change redisBatchSet _ _ store = _
    rw [RollbackWrite.taskData, redisBatchSet, dictOf_tuples]
    rfl
  · intro state
    have firsts : (items.map (fun item =>
        Argument.tuple [item.1, item.2])).mapM Argument.first =
          some (items.map Prod.fst) := by
      rw [List.mapM_map]
      exact mapM_eq_some_map Prod.fst (fun _ _ => rfl)
    change redisBatchDelete _ _ state = _
    rw [RollbackWrite.taskData, redisBatchDelete, firsts]
  · exact fun _ => mem_keys_dictionary.symm

theorem restored_set_iff (key value : Scalar) :
    writeAndRollBack scripts (.set key value) store = store ↔
      RollbackWrite.Restorable store (.set key value) := by
  have executed : execute (server scripts) .set
      [.scalar key, .scalar value] store = settled store
        (([(key, value)].mapM encodeEntry).bind (Store.mset · store)) := by
    cases first : key.encode with
    | none => simp [execute, handlers, server, send, encodeEntry, first]
    | some word =>
        cases second : value.encode with
        | none => simp [execute, handlers, server, send, encodeEntry, first,
            second]
        | some content =>
            simp [execute, handlers, server, send, encodeEntry, first,
              second, Store.set, Store.mset, Store.putAll, Table.writeAll,
              Store.put]
  have general : writeAndRollBack scripts (.set key value) store = store ↔
      ((∀ entry ∈ [(key, value)],
        entry.1.Encodable ∧ entry.2.Encodable) → Absent store [key]) :=
    restored_dictionary_iff executed (fun _ => rfl) (fun _ => Iff.rfl)
  refine general.trans ?_
  by_cases absent : Absent store [key]
  · exact iff_of_true (fun _ => absent) (fun _ => absent)
  · constructor
    · intro restored encodable
      apply restored
      intro entry member
      cases List.mem_singleton.mp member
      refine ⟨?_, encodable⟩
      intro refused
      apply absent
      intro single member word encoded
      cases List.mem_singleton.mp member
      rw [refused] at encoded
      cases encoded
    · intro restored all
      exact restored (all (key, value) List.mem_cons_self).2

theorem send_hset {key field value : Scalar} {word name content : ByteArray}
    (encodedKey : key.encode = some word)
    (encodedField : field.encode = some name)
    (encodedValue : value.encode = some content) :
    send Store.hset [.scalar key, .scalar field, .scalar value] store =
      settled store (Store.hset [word, name, content] store) := by
  simp [send, encodedKey, encodedField, encodedValue]

theorem send_hdel {key field : Scalar} {word name : ByteArray}
    (encodedKey : key.encode = some word)
    (encodedField : field.encode = some name) :
    send Store.hdel [.scalar key, .scalar field] store =
      settled store (Store.hdel [word, name] store) := by
  simp [send, encodedKey, encodedField]

/-- A word that cannot be sent. -/
theorem hset_refused {key field value : Scalar}
    (refused : ¬ (key.Encodable ∧ field.Encodable ∧ value.Encodable)) :
    send Store.hset [.scalar key, .scalar field, .scalar value] store =
      (none, store) := by
  have failed : [Argument.scalar key, .scalar field, .scalar value].mapM
      Argument.encode = none := by
    apply mapM_eq_none_iff.mpr
    simp only [not_and_or] at refused
    rcases refused with first | second | third
    · exact ⟨.scalar key, by simp, not_not.mp first⟩
    · exact ⟨.scalar field, by simp, not_not.mp second⟩
    · exact ⟨.scalar value, by simp, not_not.mp third⟩
  rw [send, failed]
  rfl

/-- Only the field is removed, which is the last one of a new hash. -/
theorem hdel_hset {word name : ByteArray} {hash : Hash}
    (fields : hash.has name = true) :
    (settled (Function.update store word (some (.hash hash)))
      (Store.hdel [word, name]
        (Function.update store word (some (.hash hash))))).2 =
      Function.update store word ((hash.remove name).map .hash) := by
  have removed : Store.hdelFields [name] hash =
      (1, hash.remove name) := by
    rw [Store.hdelFields, if_pos fields]
    cases hash.remove name with
    | none => rfl
    | some rest => rfl
  simp only [Store.hdel, Function.update_self, removed, settled,
    Function.update_idem]

theorem restored_hset_iff (key field value : Scalar) :
    writeAndRollBack scripts (.hset key field value) store = store ↔
      RollbackWrite.Restorable store (.hset key field value) := by
  by_cases encodable : key.Encodable ∧ field.Encodable ∧ value.Encodable
  · obtain ⟨first, second, third⟩ := encodable
    obtain ⟨word, encodedKey⟩ := Option.ne_none_iff_exists'.mp first
    obtain ⟨name, encodedField⟩ := Option.ne_none_iff_exists'.mp second
    obtain ⟨content, encodedValue⟩ := Option.ne_none_iff_exists'.mp third
    have restorable : RollbackWrite.Restorable store
        (.hset key field value) ↔
        ∀ hash, store word = some (.hash hash) → hash.has name = false := by
      simp only [RollbackWrite.Restorable, encodedKey, encodedField,
        Option.some.injEq]
      exact ⟨fun all => all word name rfl rfl third,
        fun all _ _ one two _ => one ▸ two ▸ all⟩
    rw [restorable]
    simp only [writeAndRollBack, RollbackWrite.taskType,
      RollbackWrite.taskData, execute, handlers, rollbackOf, server,
      redisHsetRollback, send_hset encodedKey encodedField encodedValue,
      send_hdel encodedKey encodedField, Store.hset]
    cases found : store word with
    | none =>
        apply iff_of_true
        · have single : (Hash.single name content).has name = true := by
            simp [Hash.has, Hash.single]
          refine (hdel_hset single).trans ?_
          rw [Hash.remove_single, Option.map_none, ← found]
          exact Function.update_eq_self word store
        · intro hash absurdly
          cases absurdly
    | some stored =>
        cases stored with
        | hash hash =>
            have removed : (settled (Function.update store word
                (some (.hash (hash.assign name content)))) (Store.hdel
                  [word, name] (Function.update store word
                    (some (.hash (hash.assign name content)))))).2 =
                Function.update store word
                  (((hash.assign name content).remove name).map .hash) :=
              hdel_hset (hash.has_assign name content)
            refine (iff_of_eq (congrArg (· = store) removed)).trans ?_
            constructor
            · intro restored same equal
              cases equal
              have kept := congrFun restored word
              rw [Function.update_self, found] at kept
              obtain ⟨rest, left, same⟩ := Option.map_eq_some_iff.mp kept
              cases same
              exact Hash.has_remove left
            · intro fresh
              rw [Hash.remove_assign (fresh hash rfl), Option.map_some,
                ← found]
              exact Function.update_eq_self word store
        | string | list | other =>
            apply iff_of_true rfl
            intro hash absurdly
            cases absurdly
  · apply iff_of_true
    · simp only [writeAndRollBack, RollbackWrite.taskType,
        RollbackWrite.taskData, execute, handlers, server,
        hset_refused encodable]
    · intro word name one two three
      refine absurd ⟨?_, ?_, three⟩ encodable
      · rw [Scalar.Encodable, one]
        exact Option.some_ne_none _
      · rw [Scalar.Encodable, two]
        exact Option.some_ne_none _

theorem server_incr (scripts : Backend Store) (store : Store)
    {key : Scalar} {word : ByteArray} (encoded : key.encode = some word)
    (increment : Int) :
    server scripts .incr [.scalar key, .scalar (.number increment)] store =
      settled store
        (if Fits increment then store.increase word increment else none) := by
  have sent : server scripts .incr
      [.scalar key, .scalar (.number increment)] store =
        settled store (Store.incrby [word, increment.repr.toUTF8] store) := by
    simp only [server, send, List.mapM_cons, encode_scalar, encoded,
      encode_number, List.mapM_nil]
    rfl
  rw [sent, Store.incrby, asInteger_repr]
  split <;> rfl

theorem server_decr (scripts : Backend Store) (store : Store)
    {key : Scalar} {word : ByteArray} (encoded : key.encode = some word)
    (decrement : Int) :
    server scripts .decr [.scalar key, .scalar (.number decrement)] store =
      settled store
        (if Fits decrement ∧ decrement ≠ -2 ^ 63 then
          store.increase word (-decrement) else none) := by
  have sent : server scripts .decr
      [.scalar key, .scalar (.number decrement)] store =
        settled store (Store.decrby [word, decrement.repr.toUTF8] store) := by
    simp only [server, send, List.mapM_cons, encode_scalar, encoded,
      encode_number, List.mapM_nil]
    rfl
  rw [sent, Store.decrby, asInteger_repr]
  by_cases fits : Fits decrement
  · rw [if_pos fits, Option.bind_some]
    by_cases least : decrement = -2 ^ 63
    · rw [if_pos least, if_neg (fun both => both.2 least)]
    · rw [if_neg least, if_pos ⟨fits, least⟩]
  · rw [if_neg fits, if_neg (fun both => fits both.1)]
    rfl

namespace Store

theorem counter_put (store : Store) (word : ByteArray) {value : Int}
    (fits : Fits value) :
    (store.put word value.repr.toUTF8).counter word = some value := by
  simp only [counter, put, Function.update_self]
  exact asInteger_eq_some.mpr ⟨rfl, fits⟩

theorem fits_counter {word : ByteArray} {value : Int}
    (read : store.counter word = some value) : Fits value := by
  unfold counter at read
  split at read
  · cases read
    decide
  · exact (asInteger_eq_some.mp read).2
  · cases read

theorem put_eq_self_iff {word : ByteArray} {value : Int}
    (read : store.counter word = some value) (other : Int) :
    store.put word other.repr.toUTF8 = store ↔
      store word ≠ none ∧ other = value := by
  unfold counter at read
  constructor
  · intro same
    have kept := congrFun same word
    rw [put, Function.update_self] at kept
    rw [← kept] at read ⊢
    refine ⟨Option.some_ne_none _, ?_⟩
    exact Int.repr_injective (toUTF8_inj.mp
      (asInteger_eq_some.mp read).1)
  · rintro ⟨present, rfl⟩
    split at read
    · rename_i missing
      exact absurd missing present
    · rename_i content found
      rw [put, ← (asInteger_eq_some.mp read).1, ← found]
      exact Function.update_eq_self word store
    · cases read

end Store

theorem writeAndRollBack_incr {key : Scalar} {word : ByteArray}
    {increment value : Int} (encoded : key.encode = some word)
    (fits : Fits increment) (read : store.counter word = some value)
    (sum : Fits (value + increment)) :
    writeAndRollBack scripts (.incr key increment) store =
      store.put word (if increment = -2 ^ 63 then value + increment
        else value).repr.toUTF8 := by
  have executed : execute (server scripts) .incr
      [.scalar key, .scalar (.number increment)] store =
        (some (.number (value + increment)),
          store.put word (value + increment).repr.toUTF8) := by
    refine (server_incr scripts store encoded increment).trans ?_
    rw [if_pos fits, Store.increase, read, Option.bind_some, if_pos sum]
    rfl
  simp only [writeAndRollBack, RollbackWrite.taskType,
    RollbackWrite.taskData, executed]
  refine (congrArg Prod.snd (server_decr scripts _ encoded increment)).trans ?_
  by_cases least : increment = -2 ^ 63
  · rw [if_neg (fun both => both.2 least), if_pos least]
    rfl
  · have back : value + increment + -increment = value := by omega
    rw [if_pos ⟨fits, least⟩, if_neg least, Store.increase,
      Store.counter_put store word sum, Option.bind_some, back,
      if_pos (Store.fits_counter read)]
    exact Function.update_idem ..

theorem restored_incr_iff (key : Scalar) (increment : Int) :
    writeAndRollBack scripts (.incr key increment) store = store ↔
      RollbackWrite.Restorable store (.incr key increment) := by
  cases encoded : key.encode with
  | none =>
      apply iff_of_true
      · simp [writeAndRollBack, RollbackWrite.taskType,
          RollbackWrite.taskData, execute, handlers, server, send, encoded,
          settled]
      · intro word value found
        rw [encoded] at found
        cases found
  | some word =>
      have failed : (if Fits increment then store.increase word increment
            else none) = none →
          writeAndRollBack scripts (.incr key increment) store = store := by
        intro failed
        have executed : execute (server scripts) .incr
            [.scalar key, .scalar (.number increment)] store =
              (none, store) := by
          refine (server_incr scripts store encoded increment).trans ?_
          rw [failed]
          rfl
        simp only [writeAndRollBack, RollbackWrite.taskType,
          RollbackWrite.taskData, executed]
      by_cases possible : ∃ value, Fits increment ∧
          store.counter word = some value ∧ Fits (value + increment)
      · obtain ⟨value, fits, read, sum⟩ := possible
        rw [writeAndRollBack_incr encoded fits read sum,
          Store.put_eq_self_iff read]
        constructor
        · rintro ⟨present, same⟩ other before found _ _ _
          rw [encoded] at found
          cases found
          refine ⟨present, ?_⟩
          intro least
          rw [if_pos least, least] at same
          omega
        · intro restorable
          obtain ⟨present, different⟩ :=
            restorable word value encoded fits read sum
          exact ⟨present, if_neg different⟩
      · apply iff_of_true
        · apply failed
          split
          · rename_i fits
            apply Option.bind_eq_none_iff.mpr
            intro value read
            exact if_neg (fun sum => possible ⟨value, fits, read, sum⟩)
          · rfl
        · intro other value found fits read sum
          rw [encoded] at found
          cases found
          exact absurd ⟨value, fits, read, sum⟩ possible

end

/-- A write and its rollback restore the store if and only if nothing was
overwritten and no counter was created. -/
theorem restored_iff (scripts : Backend Store) (write : RollbackWrite)
    (store : Store) :
    writeAndRollBack scripts write store = store ↔
      write.Restorable store := by
  cases write with
  | set key value => exact restored_set_iff key value
  | mset mapping => exact restored_mset_iff mapping
  | hset key field value => exact restored_hset_iff key field value
  | batchSet items => exact restored_batchSet_iff items
  | incr key increment => exact restored_incr_iff key increment

/-- A key that existed is deleted. -/
theorem overwritten_key_deleted :
    writeAndRollBack (fun _ => raises) (.set (.text "a") (.text "new"))
        (fun _ => some (.string "old".toUTF8)) ≠
      fun _ => some (.string "old".toUTF8) := by
  intro restored
  have absent := (restored_set_iff (.text "a") (.text "new")).mp restored
    (by intro failed; cases failed) (.text "a") List.mem_cons_self
      "a".toUTF8 rfl
  cases absent

end Redis

end TinyChat
