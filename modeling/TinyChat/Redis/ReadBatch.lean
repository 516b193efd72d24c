import TinyChat.Redis.Batch
import TinyChat.Redis.Store

/-!
# Reading in batches

A single key is read by `GET`, several keys by one `MGET`.  Both report a
missing key as the empty string.  A key of another type makes `GET` fail, but
is missing for `MGET`.
-/

namespace TinyChat

namespace Redis

open Utils

/-- The futures of the callers of a batch of `GET` that is executed. -/
def readTogether (scripts : Backend Store) (keys : List Scalar)
    (store : Store) : List (Future Reply) :=
  let executed := executeBatch (server scripts) .get (keys.map ([·])) store
  (Utils.execute
    (redisReadBatch false (keys.map ([·]))
      (.answered (executed.1.getD .absent)))
    (List.replicate keys.length .pending)).1

/-- What the executor of a single `TASK_GET` returns. -/
def readSingly (scripts : Backend Store) (key : Scalar) (store : Store) :
    Option Reply :=
  (execute (server scripts) .get [.scalar key] store).1

/-- Every caller receives what a single `GET` of its key returns, or the
empty string if a single `GET` fails. -/
structure ReadsLikeSingles (scripts : Backend Store) (keys : List Scalar)
    (store : Store) : Prop where
  values : ∀ (position : Nat) (key : Scalar) (reply : Reply),
    keys[position]? = some key → readSingly scripts key store = some reply →
    (readTogether scripts keys store)[position]? = some (.result reply)
  others : ∀ (position : Nat) (key : Scalar),
    keys[position]? = some key → readSingly scripts key store = none →
    (readTogether scripts keys store)[position]? =
      some (.result (.bytes ByteArray.empty))

section

variable {scripts : Backend Store} {store : Store}

theorem readSingly_eq {key : Scalar} {word : ByteArray}
    (encoded : key.encode = some word) :
    readSingly scripts key store =
      match store word with
      | none => some (.bytes ByteArray.empty)
      | some (.string content) => some (.bytes content)
      | some _ => none := by
  have sent : send Store.get [.scalar key] store =
      settled store (Store.get [word] store) := by
    simp [send, encoded]
  simp only [readSingly, execute, handlers, redisGet, Backend.call, server,
    sent, Store.get]
  cases store word with
  | none => rfl
  | some stored => cases stored <;> rfl

/-- The value of a key in a batch. -/
def batchValue (store : Store) (word : ByteArray) : ByteArray :=
  (store.find word).getD ByteArray.empty

theorem readSingly_value {key : Scalar} {word : ByteArray} {reply : Reply}
    (encoded : key.encode = some word)
    (read : readSingly scripts key store = some reply) :
    reply = .bytes (batchValue store word) := by
  rw [readSingly_eq encoded] at read
  unfold batchValue Store.find
  cases found : store word with
  | none =>
      rw [found] at read
      exact (Option.some.inj read).symm
  | some stored =>
      rw [found] at read
      cases stored with
      | string content => exact (Option.some.inj read).symm
      | list | hash | other => cases read

theorem readSingly_failed {key : Scalar} {word : ByteArray}
    (encoded : key.encode = some word)
    (failed : readSingly scripts key store = none) :
    batchValue store word = ByteArray.empty := by
  rw [readSingly_eq encoded] at failed
  unfold batchValue Store.find
  cases found : store word with
  | none => rfl
  | some stored =>
      rw [found] at failed
      cases stored with
      | string content => cases failed
      | list | hash | other => rfl

theorem executeBatch_get {keys : List Scalar} (several : 2 ≤ keys.length) :
    (executeBatch (server scripts) .get (keys.map ([·])) store).1 =
      (keys.mapM Scalar.encode).map (fun words =>
        .list (words.map (fun word => some (batchValue store word)))) := by
  have firsts : ((keys.map (fun key => [key])).map Argument.tuple).mapM
      Argument.first = some keys := by
    rw [List.map_map, List.mapM_map]
    exact (mapM_eq_some_map id (fun _ _ => rfl)).trans
      (congrArg some (List.map_id keys))
  have words : (keys.map Argument.scalar).mapM Argument.encode =
      keys.mapM Scalar.encode := List.mapM_map
  match keys with
  | [] => cases several
  | [key] => simp at several
  | first :: second :: keys =>
      change (redisBatchGet (server scripts)
        (((first :: second :: keys).map (fun key => [key])).map
          Argument.tuple) store).1 = _
      simp only [redisBatchGet]
      rw [firsts]
      simp only [Backend.call, server]
      have listed : listOrArgs
          ((first :: second :: keys).map Argument.scalar) =
            some ((first :: second :: keys).map Argument.scalar) := rfl
      rw [listed, Option.bind_some, words]
      cases (first :: second :: keys).mapM Scalar.encode with
      | none => rfl
      | some words =>
          simp [Store.mget, settled, Reply.fillMissing, batchValue]

theorem readTogether_several {keys : List Scalar} (several : 2 ≤ keys.length)
    {words : List ByteArray} (encoded : keys.mapM Scalar.encode = some words)
    {position : Nat} {word : ByteArray}
    (within : position < keys.length)
    (found : words[position]? = some word) :
    (readTogether scripts keys store)[position]? =
      some (.result (.bytes (batchValue store word))) := by
  have returned : ∀ items, redisReadBatch false (keys.map ([·]))
      (.answered (.list items)) = .returned (Reply.list items).iterate := by
    intro items
    match keys with
    | [] => cases several
    | [key] => simp at several
    | _ :: _ :: _ => rfl
  rw [readTogether, executeBatch_get several, encoded]
  simp only [Option.map_some, Option.getD_some]
  rw [returned]
  apply settle_pending within
  rw [List.map_map, List.getElem?_map, found]
  rfl

theorem readTogether_single {key : Scalar} {reply : Reply}
    (read : readSingly scripts key store = some reply) :
    readTogether scripts [key] store = [.result reply] := by
  have executed : (executeBatch (server scripts) .get ([key].map ([·]))
      store).1 = some reply := read
  rw [readTogether, executed]
  rfl

end

/-- If the executor succeeds, every caller receives what a single `GET`
returns, and the empty string for a key of another type. -/
theorem readsLikeSingles {scripts : Backend Store} {keys : List Scalar}
    {store : Store}
    (succeeded : (executeBatch (server scripts) .get (keys.map ([·]))
      store).1 ≠ none) : ReadsLikeSingles scripts keys store := by
  match keys with
  | [] =>
      constructor
      · intro position key reply found
        cases found
      · intro position key found
        cases found
  | [key] =>
      have read : readSingly scripts key store ≠ none := succeeded
      constructor
      case values =>
        intro position single reply found same
        cases position with
        | zero =>
            cases found
            rw [readTogether_single same]
            rfl
        | succ position => cases found
      case others =>
        intro position single found failed
        cases position with
        | zero =>
            cases found
            exact absurd failed read
        | succ position => cases found
  | first :: second :: keys =>
      have several : 2 ≤ (first :: second :: keys).length :=
        Nat.le_add_left 2 keys.length
      rw [executeBatch_get several] at succeeded
      rw [Ne, Option.map_eq_none_iff] at succeeded
      obtain ⟨words, encoded⟩ := Option.ne_none_iff_exists'.mp succeeded
      constructor
      case values =>
        intro position key reply found read
        obtain ⟨word, own, placed⟩ := mapM_getElem encoded found
        obtain ⟨within, -⟩ := List.getElem?_eq_some_iff.mp found
        rw [readTogether_several several encoded within placed,
          readSingly_value own read]
      case others =>
        intro position key found failed
        obtain ⟨word, own, placed⟩ := mapM_getElem encoded found
        obtain ⟨within, -⟩ := List.getElem?_eq_some_iff.mp found
        rw [readTogether_several several encoded within placed,
          readSingly_failed own failed]

/-- Two callers read the same missing key. -/
theorem readsLikeSingles_missing_key :
    ReadsLikeSingles (fun _ => raises) [.text "a", .text "a"]
      (fun _ => none) := by
  apply readsLikeSingles
  intro failed
  cases failed

/-- Two callers read a key that holds a list: the executor succeeds, but a
single `GET` fails and its caller receives `None`. -/
theorem reads_list_as_empty :
    ¬ ∀ (keys : List Scalar) (store : Store),
      (executeBatch (server fun _ => raises) .get (keys.map ([·]))
        store).1 ≠ none →
      ∀ (position : Nat) (key : Scalar), keys[position]? = some key →
        (readTogether (fun _ => raises) keys store)[position]? =
          some (.result (resolve (server fun _ => raises) .get
            [.scalar key] store).1) := by
  intro equal
  have read := equal [.text "a", .text "a"]
    (fun _ => some (.list [ByteArray.empty]))
    (by intro failed; cases failed)
    0 (.text "a") rfl
  cases read

end Redis

end TinyChat
