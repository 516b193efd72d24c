import Mathlib
import TinyChat.Redis.Handlers

/-!
# The Redis server

The server keeps typed values under its keys.  The client library encodes the
arguments of a method, and the server executes the command on the encoded
words; what is refused on either side leaves the store as it is.
-/

namespace TinyChat

namespace Redis

/-- The words that are sent for an argument. -/
def Scalar.encode : Scalar → Option ByteArray
  | .text content => some content.toUTF8
  | .bytes content => some content
  | .number value => some value.repr.toUTF8
  | .other => none

/-- The encoder takes the value. -/
def Scalar.Encodable (value : Scalar) : Prop :=
  value.encode ≠ none

/-- The content of an encodable value. -/
def Scalar.content (value : Scalar) : ByteArray :=
  value.encode.getD ByteArray.empty

theorem Scalar.Encodable.encode {value : Scalar}
    (encodable : value.Encodable) : value.encode = some value.content := by
  obtain ⟨word, encoded⟩ := Option.ne_none_iff_exists'.mp encodable
  rw [Scalar.content, encoded]
  rfl

def Argument.encode : Argument → Option ByteArray
  | .scalar value => value.encode
  | .tuple _ | .dict _ => none

@[simp] theorem encode_text (content : String) :
    (Scalar.text content).encode = some content.toUTF8 := rfl

@[simp] theorem encode_number (value : Int) :
    (Scalar.number value).encode = some value.repr.toUTF8 := rfl

@[simp] theorem encode_scalar (value : Scalar) :
    (Argument.scalar value).encode = value.encode := rfl

@[simp] theorem encode_tuple (items : List Scalar) :
    (Argument.tuple items).encode = none := rfl

/-- A hash has fields of different names, and is removed with the last of
them. -/
structure Hash where
  fields : Table ByteArray ByteArray
  distinct : (fields.map Prod.fst).Nodup
  nonempty : fields ≠ []

/-- What the server has under a key; `other` is a value of a type that none
of the commands below reads. -/
inductive Stored where
  | string (content : ByteArray)
  | list (items : List ByteArray)
  | hash (content : Hash)
  | other (object : Nat)

abbrev Store := ByteArray → Option Stored

/-- The integers of the server have 64 bits. -/
def Fits (value : Int) : Prop := -2 ^ 63 ≤ value ∧ value < 2 ^ 63

instance (value : Int) : Decidable (Fits value) :=
  inferInstanceAs (Decidable (_ ∧ _))

/-- The integer in a word that is its decimal representation. -/
def asInteger (word : ByteArray) : Option Int :=
  (String.fromUTF8? word).bind (fun text =>
    text.toInt?.filter (fun value => value.repr = text ∧ Fits value))

namespace Hash

def has (hash : Hash) (field : ByteArray) : Bool :=
  hash.fields.any (fun entry => entry.1 = field)

def get (hash : Hash) (field : ByteArray) : Option ByteArray :=
  (hash.fields.find? (fun entry => entry.1 = field)).map Prod.snd

def single (field value : ByteArray) : Hash where
  fields := [(field, value)]
  distinct := List.nodup_singleton field
  nonempty := List.cons_ne_nil _ _

def assign (hash : Hash) (field value : ByteArray) : Hash where
  fields := hash.fields.assign field value
  distinct := Table.nodup_assign hash.distinct
  nonempty := Table.assign_ne_nil _ _ _

/-- The hash without a field, if it has another one. -/
def remove (hash : Hash) (field : ByteArray) : Option Hash :=
  if nonempty : hash.fields.pop field ≠ [] then
    some
      { fields := hash.fields.pop field
        distinct := Table.nodup_pop hash.distinct
        nonempty := nonempty }
  else none

end Hash

namespace Store

/-- A command on encoded words; it has no reply if the server reports an
error. -/
abbrev Command := List ByteArray → Store → Option (Reply × Store)

def put (store : Store) (key : ByteArray) (content : ByteArray) : Store :=
  Function.update store key (some (.string content))

def get : Command
  | [key], store =>
      match store key with
      | none => some (.absent, store)
      | some (.string content) => some (.bytes content, store)
      | some _ => none
  | _, _ => none

/-- Values of another type are missing. -/
def find (store : Store) (key : ByteArray) : Option ByteArray :=
  match store key with
  | some (.string content) => some content
  | _ => none

def mget : Command
  | keys, store => some (.list (keys.map store.find), store)

def set : Command
  | [key, content], store => some (.truth true, store.put key content)
  | _, _ => none

def setnx : Command
  | [key, content], store =>
      match store key with
      | none => some (.truth true, store.put key content)
      | some _ => some (.truth false, store)
  | _, _ => none

/-- The pairs of `MSET` one after another. -/
def putAll (store : Store) (entries : List (ByteArray × ByteArray)) : Store :=
  Table.writeAll store
    (entries.map (fun entry => (entry.1, some (.string entry.2))))

def mset (entries : List (ByteArray × ByteArray)) (store : Store) :
    Option (Reply × Store) :=
  match entries with
  | [] => none
  | _ => some (.truth true, store.putAll entries)

def hlen : Command
  | [key], store =>
      match store key with
      | none => some (.number 0, store)
      | some (.hash content) => some (.number content.fields.length, store)
      | some _ => none
  | _, _ => none

def hget : Command
  | [key, field], store =>
      match store key with
      | none => some (.absent, store)
      | some (.hash content) =>
          match content.get field with
          | some value => some (.bytes value, store)
          | none => some (.absent, store)
      | some _ => none
  | _, _ => none

def hgetall : Command
  | [key], store =>
      match store key with
      | none => some (.dict [], store)
      | some (.hash content) => some (.dict content.fields, store)
      | some _ => none
  | _, _ => none

def hset : Command
  | [key, field, value], store =>
      match store key with
      | none =>
          some (.number 1,
            Function.update store key (some (.hash (.single field value))))
      | some (.hash content) =>
          some (.number (if content.has field then 0 else 1),
            Function.update store key
              (some (.hash (content.assign field value))))
      | some _ => none
  | _, _ => none

/-- Remove fields from a hash, which may come to an end. -/
def hdelFields : List ByteArray → Hash → Nat × Option Hash
  | [], hash => (0, some hash)
  | field :: fields, hash =>
      if hash.has field then
        match hash.remove field with
        | none => (1, none)
        | some rest =>
            let removed := hdelFields fields rest
            (removed.1 + 1, removed.2)
      else hdelFields fields hash

def hdel : Command
  | key :: field :: fields, store =>
      match store key with
      | none => some (.number 0, store)
      | some (.hash content) =>
          let removed := hdelFields (field :: fields) content
          some (.number removed.1,
            Function.update store key (removed.2.map .hash))
      | some _ => none
  | _, _ => none

/-- What a counter is increased from. -/
def counter (store : Store) (key : ByteArray) : Option Int :=
  match store key with
  | none => some 0
  | some (.string content) => asInteger content
  | some _ => none

def increase (store : Store) (key : ByteArray) (increment : Int) :
    Option (Reply × Store) :=
  (store.counter key).bind (fun value =>
    if Fits (value + increment) then
      some (.number (value + increment),
        store.put key (value + increment).repr.toUTF8)
    else none)

def incrby : Command
  | [key, word], store =>
      (asInteger word).bind (fun increment => store.increase key increment)
  | _, _ => none

/-- The least number has no opposite. -/
def decrby : Command
  | [key, word], store =>
      (asInteger word).bind (fun decrement =>
        if decrement = -2 ^ 63 then none
        else store.increase key (-decrement))
  | _, _ => none

def push (atHead : Bool) : Command
  | key :: first :: values, store =>
      let pushed (items : List ByteArray) :=
        if atHead then (first :: values).reverse ++ items
        else items ++ first :: values
      match store key with
      | none =>
          some (.number (pushed []).length,
            Function.update store key (some (.list (pushed []))))
      | some (.list items) =>
          some (.number (pushed items).length,
            Function.update store key (some (.list (pushed items))))
      | some _ => none
  | _, _ => none

def lpush : Command := push true

def rpush : Command := push false

/-- Remove keys one after another, and count those that were there. -/
def removeAll (store : Store) : List ByteArray → Nat × Store
  | [] => (0, store)
  | key :: keys =>
      let removed := removeAll (Function.update store key none) keys
      (removed.1 + if (store key).isSome then 1 else 0, removed.2)

def delete : Command
  | [], _ => none
  | keys, store =>
      let removed := store.removeAll keys
      some (.number removed.1, removed.2)

end Store

/-- A command as its caller sees it. -/
def settled (store : Store) :
    Option (Reply × Store) → Option Reply × Store
  | some (reply, next) => (some reply, next)
  | none => (none, store)

/-- A method that sends its arguments as they are. -/
def send (command : Store.Command) : Executor Store :=
  fun arguments store =>
    settled store ((arguments.mapM Argument.encode).bind (command · store))

/-- `list_or_args` of the library. -/
def listOrArgs : List Argument → Option (List Argument)
  | [] => none
  | .scalar key :: rest => some (.scalar key :: rest)
  | .tuple keys :: rest => some (keys.map .scalar ++ rest)
  | .dict keys :: rest => some (keys.map (fun key => .scalar key.1) ++ rest)

def encodeEntry (entry : Scalar × Scalar) : Option (ByteArray × ByteArray) :=
  entry.1.encode.bind (fun key => entry.2.encode.map (fun value =>
    (key, value)))

/-- The methods over the server; what the scripts do is left open. -/
def server (scripts : Backend Store) : Backend Store
  | .get => send Store.get
  | .mget => fun arguments store =>
      settled store ((listOrArgs arguments).bind (fun keys =>
        (keys.mapM Argument.encode).bind (Store.mget · store)))
  | .hlen => send Store.hlen
  | .hget => send Store.hget
  | .hgetall => send Store.hgetall
  | .set => send Store.set
  | .setnx => send Store.setnx
  | .mset => fun arguments store =>
      match arguments with
      | [.dict entries] =>
          settled store
            ((entries.mapM encodeEntry).bind (Store.mset · store))
      | _ => (none, store)
  | .hset => send Store.hset
  | .hdel => send Store.hdel
  | .incr => fun arguments =>
      match arguments with
      | [key] => send Store.incrby [key, .scalar (.number 1)]
      | _ => send Store.incrby arguments
  | .decr => fun arguments =>
      match arguments with
      | [key] => send Store.decrby [key, .scalar (.number 1)]
      | _ => send Store.decrby arguments
  | .lpush => send Store.lpush
  | .rpush => send Store.rpush
  | .delete => send Store.delete
  | .ipRatelimiter => scripts .ipRatelimiter
  | .tokenRatelimiter => scripts .tokenRatelimiter

section

variable {α β : Type} {convert : α → Option β}

theorem mapM_eq_none_iff {elements : List α} :
    elements.mapM convert = none ↔
      ∃ element ∈ elements, convert element = none := by
  induction elements with
  | nil => simp
  | cons element elements induction =>
      rw [List.mapM_cons]
      cases first : convert element with
      | none => simp [first]
      | some converted =>
          cases rest : elements.mapM convert with
          | none =>
              rw [rest] at induction
              simp [first, induction.mp rfl]
          | some others =>
              rw [rest] at induction
              simpa [first] using induction

theorem mapM_getElem {elements : List α} {converted : List β}
    (mapped : elements.mapM convert = some converted) {position : Nat}
    {element : α} (found : elements[position]? = some element) :
    ∃ result, convert element = some result ∧
      converted[position]? = some result := by
  induction elements generalizing converted position with
  | nil => cases found
  | cons head elements induction =>
      rw [List.mapM_cons] at mapped
      obtain ⟨first, one, mapped⟩ := Option.bind_eq_some_iff.mp mapped
      obtain ⟨rest, others, mapped⟩ := Option.bind_eq_some_iff.mp mapped
      cases mapped
      cases position with
      | zero =>
          cases found
          exact ⟨first, one, rfl⟩
      | succ position => exact induction others found

theorem mapM_eq_some_map {elements : List α} (total : α → β)
    (converted : ∀ element ∈ elements,
      convert element = some (total element)) :
    elements.mapM convert = some (elements.map total) := by
  induction elements with
  | nil => rfl
  | cons element elements induction =>
      rw [List.mapM_cons, converted element List.mem_cons_self,
        induction (fun other member =>
          converted other (List.mem_cons_of_mem _ member))]
      rfl

end

theorem toUTF8_inj {first second : String} :
    first.toUTF8 = second.toUTF8 ↔ first = second :=
  String.toByteArray_inj

theorem asInteger_eq_some {word : ByteArray} {value : Int} :
    asInteger word = some value ↔
      word = value.repr.toUTF8 ∧ Fits value := by
  constructor
  · intro read
    obtain ⟨text, decoded, filtered⟩ := Option.bind_eq_some_iff.mp read
    obtain ⟨-, kept⟩ := Option.filter_eq_some_iff.mp filtered
    obtain ⟨represented, fits⟩ := of_decide_eq_true kept
    unfold String.fromUTF8? at decoded
    split at decoded
    · cases decoded
      exact ⟨congrArg String.toUTF8 represented.symm, fits⟩
    · cases decoded
  · rintro ⟨rfl, fits⟩
    have decoded : String.fromUTF8? value.repr.toUTF8 = some value.repr := by
      unfold String.fromUTF8?
      split
      · rfl
      · rename_i invalid
        exact absurd value.repr.isValidUTF8 invalid
    rw [asInteger, decoded, Option.bind_some, Int.toInt?_repr]
    exact Option.filter_eq_some_iff.mpr ⟨rfl, decide_eq_true ⟨rfl, fits⟩⟩

theorem asInteger_repr {value : Int} :
    asInteger value.repr.toUTF8 = if Fits value then some value else none := by
  split
  · rename_i fits
    exact asInteger_eq_some.mpr ⟨rfl, fits⟩
  · rename_i large
    apply Option.eq_none_iff_forall_ne_some.mpr
    intro other read
    obtain ⟨same, fits⟩ := asInteger_eq_some.mp read
    rw [Int.repr_injective (toUTF8_inj.mp same)] at large
    exact large fits

namespace Hash

theorem has_iff {hash : Hash} {field : ByteArray} :
    hash.has field = true ↔ field ∈ hash.fields.map Prod.fst := by
  simp [has]

theorem remove_assign {hash : Hash} {field : ByteArray}
    (fresh : hash.has field = false) (value : ByteArray) :
    (hash.assign field value).remove field = some hash := by
  have unlisted : field ∉ hash.fields.map Prod.fst := by
    rw [← has_iff, fresh]
    exact Bool.false_ne_true
  have popped : (hash.assign field value).fields.pop field = hash.fields :=
    Table.pop_assign unlisted value
  unfold remove
  rw [dif_pos (by rw [popped]; exact hash.nonempty)]
  simp only [popped]

theorem has_remove {hash rest : Hash} {field : ByteArray}
    (removed : hash.remove field = some rest) : rest.has field = false := by
  unfold remove at removed
  split at removed
  · cases removed
    rw [← Bool.not_eq_true, has_iff]
    exact Table.notMem_keys_pop
  · cases removed

theorem has_assign (hash : Hash) (field value : ByteArray) :
    (hash.assign field value).has field = true :=
  has_iff.mpr (Table.mem_keys_assign.mpr (Or.inr rfl))

theorem remove_single (field value : ByteArray) :
    (single field value).remove field = none := by
  simp [remove, single, Table.pop]

end Hash

namespace Store

theorem removeAll_of_notMem (store : Store) {keys : List ByteArray}
    {key : ByteArray} (unlisted : key ∉ keys) :
    (store.removeAll keys).2 key = store key := by
  induction keys generalizing store with
  | nil => rfl
  | cons first keys induction =>
      rw [List.mem_cons, not_or] at unlisted
      rw [removeAll, induction _ unlisted.2]
      exact Function.update_of_ne unlisted.1 ..

theorem removeAll_of_mem (store : Store) {keys : List ByteArray}
    {key : ByteArray} (listed : key ∈ keys) :
    (store.removeAll keys).2 key = none := by
  induction keys generalizing store with
  | nil => cases listed
  | cons first keys induction =>
      by_cases later : key ∈ keys
      · exact induction _ later
      · rw [removeAll, removeAll_of_notMem _ later]
        rcases List.mem_cons.mp listed with same | absurdly
        · rw [same]
          exact Function.update_self ..
        · exact absurd absurdly later

theorem putAll_apply (store : Store) {entries : List (ByteArray × ByteArray)}
    {key : ByteArray} (unlisted : key ∉ entries.map Prod.fst) :
    store.putAll entries key = store key := by
  apply Table.writeAll_apply
  rw [List.map_map]
  exact unlisted

/-- Removing the keys that were written restores the store if and only if it
did not have them. -/
theorem removeAll_putAll (store : Store)
    {entries : List (ByteArray × ByteArray)} {keys : List ByteArray}
    (same : ∀ key, key ∈ keys ↔ key ∈ entries.map Prod.fst) :
    ((store.putAll entries).removeAll keys).2 = store ↔
      ∀ key ∈ keys, store key = none := by
  constructor
  · intro restored key listed
    rw [← restored]
    exact removeAll_of_mem _ listed
  · intro absent
    funext key
    by_cases listed : key ∈ keys
    · rw [removeAll_of_mem _ listed, absent key listed]
    · rw [removeAll_of_notMem _ listed]
      exact store.putAll_apply (fun written =>
        listed ((same key).mpr written))

end Store

end Redis

end TinyChat
