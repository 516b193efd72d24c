import Mathlib.Data.List.Induction
import TinyChat.Lib.Table

/-!
# Handlers of the Redis service

A task of the service has a type and data.  A worker looks up the executor of
the type and calls it with the data as positional arguments.  The executors
are methods of the Redis client library or wrap one of them.
-/

namespace TinyChat

namespace Redis

inductive RedisTaskType where
  | get | batchGet | mget | hlen | hget | hgetall | ipLimiter | tokenLimiter
  | set | batchSet | setnx | mset | hset | hdel | incr | lpush | rpush
  | delete | batchDelete | unlink
  deriving DecidableEq

namespace RedisTaskType

def number : RedisTaskType → Nat
  | .get => 0
  | .batchGet => 2
  | .mget => 4
  | .hlen => 6
  | .hget => 8
  | .hgetall => 10
  | .ipLimiter => 12
  | .tokenLimiter => 14
  | .set => 1
  | .batchSet => 3
  | .setnx => 5
  | .mset => 7
  | .hset => 9
  | .hdel => 11
  | .incr => 13
  | .lpush => 15
  | .rpush => 17
  | .delete => 19
  | .batchDelete => 21
  | .unlink => 23

def all : List RedisTaskType :=
  [.get, .batchGet, .mget, .hlen, .hget, .hgetall, .ipLimiter,
    .tokenLimiter, .set, .batchSet, .setnx, .mset, .hset, .hdel, .incr,
    .lpush, .rpush, .delete, .batchDelete, .unlink]

/-- `RedisTaskType(number)`. -/
def ofNumber (number : Nat) : Option RedisTaskType :=
  all.find? (fun taskType => taskType.number = number)

/-- `RedisTaskType(task_type + 2)`. -/
def batched (taskType : RedisTaskType) : Option RedisTaskType :=
  ofNumber (taskType.number + 2)

end RedisTaskType

/-- The instance to use where a library has declared another one. -/
instance (priority := high) decidableEqByteArray : DecidableEq ByteArray :=
  ByteArray.instDecidableEq

/-- An object that is sent to Redis as one word; `other` is an object that
the encoder refuses and that is not iterable, such as `None`. -/
inductive Scalar where
  | text (content : String)
  | bytes (content : ByteArray)
  | number (value : Int)
  | other
  deriving DecidableEq

/-- A positional argument. -/
inductive Argument where
  | scalar (value : Scalar)
  | tuple (items : List Scalar)
  | dict (entries : Table Scalar Scalar)
  deriving DecidableEq

namespace Argument

/-- `tuple(argument)`. -/
def iterate : Argument → Option (List Scalar)
  | .scalar (.text content) =>
      some (content.toList.map (fun char => .text (String.singleton char)))
  | .scalar (.bytes content) =>
      some (content.toList.map (fun byte => .number byte.toNat))
  | .scalar (.number _) | .scalar .other => none
  | .tuple items => some items
  | .dict entries => some (entries.map Prod.fst)

/-- `argument[0]`. -/
def first : Argument → Option Scalar
  | .dict _ => none
  | argument => argument.iterate.bind List.head?

end Argument

/-- `dict(items)`. -/
def dictOf (items : List Argument) : Option (Table Scalar Scalar) :=
  items.foldlM (fun table item =>
    match item.iterate with
    | some [key, value] => some (table.assign key value)
    | _ => none) []

/-- The dictionary of a list of pairs. -/
def dictionary (items : List (Scalar × Scalar)) : Table Scalar Scalar :=
  items.foldl (fun table item => table.assign item.1 item.2) []

theorem dictionary_append (items : List (Scalar × Scalar))
    (item : Scalar × Scalar) :
    dictionary (items ++ [item]) =
      (dictionary items).assign item.1 item.2 := by
  rw [dictionary, List.foldl_append]
  rfl

theorem dictOf_tuples (items : List (Scalar × Scalar)) :
    dictOf (items.map (fun item => .tuple [item.1, item.2])) =
      some (dictionary items) := by
  have general : ∀ table : Table Scalar Scalar,
      (items.map (fun item => Argument.tuple
        [item.1, item.2])).foldlM (fun table item =>
          match item.iterate with
          | some [key, value] => some (table.assign key value)
          | _ => none) table =
        some (items.foldl (fun table item =>
          table.assign item.1 item.2) table) := by
    induction items with
    | nil => exact fun _ => rfl
    | cons item items induction => exact fun table => induction _
  exact general []

theorem mem_dictionary {items : List (Scalar × Scalar)}
    {entry : Scalar × Scalar} (member : entry ∈ dictionary items) :
    entry ∈ items := by
  induction items using List.reverseRecOn with
  | nil => cases member
  | append_singleton items item induction =>
      rw [dictionary_append] at member
      rcases Table.mem_of_mem_assign member with old | new
      · exact List.mem_append_left _ (induction old)
      · rw [new]
        exact List.mem_append_right _ List.mem_cons_self

theorem mem_keys_dictionary {items : List (Scalar × Scalar)} {key : Scalar} :
    key ∈ (dictionary items).map Prod.fst ↔ key ∈ items.map Prod.fst := by
  induction items using List.reverseRecOn with
  | nil => exact Iff.rfl
  | append_singleton items item induction =>
      rw [dictionary_append, Table.mem_keys_assign, induction,
        List.map_append, List.mem_append, List.map_singleton,
        List.mem_singleton]

theorem dictionary_ne_nil {items : List (Scalar × Scalar)}
    (nonempty : items ≠ []) : dictionary items ≠ [] := by
  induction items using List.reverseRecOn with
  | nil => exact absurd rfl nonempty
  | append_singleton items item induction =>
      rw [dictionary_append]
      exact Table.assign_ne_nil _ _ _

inductive RatelimiterStatus where
  | allowed
  | rejected
  | blocked
  deriving DecidableEq

/-- What a method returns; `absent` is `None`.  The empty string and empty
bytes are the same. -/
inductive Reply where
  | absent
  | truth (value : Bool)
  | number (value : Int)
  | bytes (content : ByteArray)
  | list (items : List (Option ByteArray))
  | dict (entries : List (ByteArray × ByteArray))
  | rate (status : RatelimiterStatus)
  deriving DecidableEq

namespace Reply

/-- `reply or ""`. -/
def orEmpty : Reply → Reply
  | .absent | .truth false | .number 0 | .list [] | .dict [] =>
      .bytes ByteArray.empty
  | reply => reply

/-- `[val if val is not None else "" for val in reply]`. -/
def fillMissing : Reply → Option Reply
  | .list items => some (.list (items.map (fun item =>
      some (item.getD ByteArray.empty))))
  | _ => none

/-- `responses[reply]`. -/
def select (responses : List RatelimiterStatus) : Reply → Option Reply
  | .number value =>
      let index := if value < 0 then value + responses.length else value
      if index < 0 then none
      else (responses[index.toNat]?).map .rate
  | _ => none

end Reply

/-- The methods of the client library and the registered scripts. -/
inductive Method where
  | get | mget | hlen | hget | hgetall | set | setnx | mset | hset | hdel
  | incr | decr | lpush | rpush | delete | ipRatelimiter | tokenRatelimiter
  deriving DecidableEq

/-- A call that raises an exception has no reply. -/
abbrev Executor (σ : Type) := List Argument → σ → Option Reply × σ

abbrev Backend (σ : Type) := Method → Executor σ

/-- A handler that raises an exception before it calls anything. -/
def raises {σ : Type} : Executor σ := fun _ state => (none, state)

/-- Call a method and convert its reply. -/
def Backend.call {σ : Type} (backend : Backend σ) (method : Method)
    (convert : Reply → Option Reply) : Executor σ :=
  fun arguments state =>
    let called := backend method arguments state
    (called.1.bind convert, called.2)

section

variable {σ : Type} (backend : Backend σ)

def redisGet : Executor σ
  | [key] => backend.call .get (fun reply => some reply.orEmpty) [key]
  | arguments => raises arguments

def redisMget : Executor σ
  | [items] =>
      match items.iterate with
      | some keys =>
          backend.call .mget Reply.fillMissing (keys.map .scalar)
      | none => raises []
  | arguments => raises arguments

def redisHget : Executor σ
  | [key, field] =>
      backend.call .hget (fun reply => some reply.orEmpty) [key, field]
  | arguments => raises arguments

def redisBatchGet : Executor σ := fun items =>
  match items.mapM Argument.first with
  | some keys => backend.call .mget Reply.fillMissing (keys.map .scalar)
  | none => raises []

def redisBatchSet : Executor σ := fun items =>
  match dictOf items with
  | some entries => backend .mset [.dict entries]
  | none => raises []

def redisBatchDelete : Executor σ := fun items =>
  match items.mapM Argument.first with
  | some keys => backend .delete (keys.map .scalar)
  | none => raises []

def redisSetRollback : Executor σ
  | [key, _] => backend .delete [key]
  | arguments => raises arguments

def redisMsetRollback : Executor σ
  | [.dict mapping] =>
      backend .delete (mapping.map (fun entry => .scalar entry.1))
  | arguments => raises arguments

def redisHsetRollback : Executor σ
  | [key, field, _] => backend .hdel [key, field]
  | arguments => raises arguments

def redisBatchSetRollback : Executor σ := redisBatchDelete backend

def redisIncrRollback : Executor σ
  | [key, increment] => backend .decr [key, increment]
  | arguments => raises arguments

def ipLimiterResponses : List RatelimiterStatus :=
  [.allowed, .rejected, .blocked]

def tokenLimiterResponses : List RatelimiterStatus := [.allowed, .blocked]

def redisIpRatelimiter : Executor σ
  | [keys, argv] =>
      backend.call .ipRatelimiter (Reply.select ipLimiterResponses)
        [keys, argv]
  | arguments => raises arguments

def redisTokenRatelimiter : Executor σ
  | [keys, argv] =>
      backend.call .tokenRatelimiter (Reply.select tokenLimiterResponses)
        [keys, argv]
  | arguments => raises arguments

/-- The table `_handlers`: the executor of a type, and what undoes it. -/
def handlers :
    RedisTaskType → Option (Executor σ × Option (Executor σ))
  | .batchSet =>
      some (redisBatchSet backend, some (redisBatchSetRollback backend))
  | .batchGet => some (redisBatchGet backend, none)
  | .batchDelete => some (redisBatchDelete backend, none)
  | .get => some (redisGet backend, none)
  | .mget => some (redisMget backend, none)
  | .hget => some (redisHget backend, none)
  | .set => some (backend .set, some (redisSetRollback backend))
  | .setnx => some (backend .setnx, none)
  | .mset => some (backend .mset, some (redisMsetRollback backend))
  | .hset => some (backend .hset, some (redisHsetRollback backend))
  | .hlen => some (backend .hlen, none)
  | .hdel => some (backend .hdel, none)
  | .hgetall => some (backend .hgetall, none)
  | .incr => some (backend .incr, some (redisIncrRollback backend))
  | .lpush => some (backend .lpush, none)
  | .rpush => some (backend .rpush, none)
  | .delete => some (backend .delete, none)
  | .unlink => none
  | .ipLimiter => some (redisIpRatelimiter backend, none)
  | .tokenLimiter => some (redisTokenRatelimiter backend, none)

/-- `executor(*task_data)` in the loop of a worker. -/
def execute (taskType : RedisTaskType) : Executor σ :=
  match handlers backend taskType with
  | some (executor, _) => executor
  | none => raises

/-- What the waiter of a task is resolved with: the result of the executor,
or `None` after an exception. -/
def resolve (taskType : RedisTaskType) (arguments : List Argument)
    (state : σ) : Reply × σ :=
  let executed := execute backend taskType arguments state
  (executed.1.getD .absent, executed.2)

end

end Redis

end TinyChat
