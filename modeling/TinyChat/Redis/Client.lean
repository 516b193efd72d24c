import TinyChat.Redis.Batch

/-!
# The Redis client

The operations of the client pack their arguments into the data of a task.
A worker unpacks them again when it calls the executor of the task.  Every
operation but `redis_mget` comes out as the Redis command it stands for.
-/

namespace TinyChat

namespace Redis

open Utils

inductive ResponseStatus where
  | success
  | failed
  | timeout
  deriving DecidableEq

/-- What an operation returns to its caller, unless it raises. -/
def respond : Ending Reply → Option (Reply × ResponseStatus)
  | .returned .absent => some (.absent, .failed)
  | .returned data => some (data, .success)
  | .timeout => some (.absent, .timeout)
  | .other | .cancelled => none

/-- A call of an operation that is not batched. -/
inductive ClientCall where
  | setnx (key value : Argument)
  | mget (keys : List Scalar)
  | mset (mapping : Table Scalar Scalar)
  | hlen (key : Argument)
  | hget (key field : Argument)
  | hset (key field value : Argument)
  | hgetall (key : Argument)
  | hdel (key : Argument) (fields : List Argument)
  | incr (key increment : Argument)
  | ipRatelimiter (keys argv : Argument)
  | tokenRatelimiter (keys argv : Argument)

namespace ClientCall

def taskType : ClientCall → RedisTaskType
  | .setnx _ _ => .setnx
  | .mget _ => .mget
  | .mset _ => .mset
  | .hlen _ => .hlen
  | .hget _ _ => .hget
  | .hset _ _ _ => .hset
  | .hgetall _ => .hgetall
  | .hdel _ _ => .hdel
  | .incr _ _ => .incr
  | .ipRatelimiter _ _ => .ipLimiter
  | .tokenRatelimiter _ _ => .tokenLimiter

/-- The tuple that the client passes to `redis_read` or `redis_write`. -/
def taskData : ClientCall → List Argument
  | .setnx key value => [key, value]
  | .mget keys => keys.map .scalar
  | .mset mapping => [.dict mapping]
  | .hlen key => [key]
  | .hget key field => [key, field]
  | .hset key field value => [key, field, value]
  | .hgetall key => [key]
  | .hdel key fields => key :: fields
  | .incr key increment => [key, increment]
  | .ipRatelimiter keys argv => [keys, argv]
  | .tokenRatelimiter keys argv => [keys, argv]

section

variable {σ : Type}

/-- An operation whose task is taken and executed in time. -/
def perform (backend : Backend σ) (call : ClientCall) (state : σ) :
    Option (Reply × ResponseStatus) × σ :=
  let resolved := resolve backend call.taskType call.taskData state
  (respond (request false (.answered resolved.1)), resolved.2)

/-- The Redis command that an operation stands for. -/
def command : ClientCall → Method × List Argument
  | .setnx key value => (.setnx, [key, value])
  | .mget keys => (.mget, keys.map .scalar)
  | .mset mapping => (.mset, [.dict mapping])
  | .hlen key => (.hlen, [key])
  | .hget key field => (.hget, [key, field])
  | .hset key field value => (.hset, [key, field, value])
  | .hgetall key => (.hgetall, [key])
  | .hdel key fields => (.hdel, key :: fields)
  | .incr key increment => (.incr, [key, increment])
  | .ipRatelimiter keys argv => (.ipRatelimiter, [keys, argv])
  | .tokenRatelimiter keys argv => (.tokenRatelimiter, [keys, argv])

/-- The result that a caller gets for a reply: a missing value is the empty
string, and the number of a script stands for a status. -/
def result : ClientCall → Reply → Option Reply
  | .mget _, .list items => some (.list (items.map (fun item =>
      some (item.getD ByteArray.empty))))
  | .hget _ _, .absent => some (.bytes ByteArray.empty)
  | .ipRatelimiter _ _, reply => reply.select ipLimiterResponses
  | .tokenRatelimiter _ _, reply => reply.select tokenLimiterResponses
  | _, reply => some reply

/-- What the operation is for. -/
def specification (backend : Backend σ) (call : ClientCall) (state : σ) :
    Option (Reply × ResponseStatus) × σ :=
  let called := backend call.command.1 call.command.2 state
  (respond (.returned ((called.1.bind call.result).getD .absent)), called.2)

end

/-- The library replies to `HGET` with a value or `None`, and to `MGET` with
a list. -/
structure Typed {σ : Type} (backend : Backend σ) : Prop where
  hget : ∀ arguments state reply,
    (backend .hget arguments state).1 = some reply →
    reply = .absent ∨ ∃ content, reply = .bytes content
  mget : ∀ arguments state reply,
    (backend .mget arguments state).1 = some reply →
    ∃ items, reply = .list items

/-- Whatever the store, the operation is exactly its command. -/
def Refines (call : ClientCall) : Prop :=
  ∀ (σ : Type) (backend : Backend σ), Typed backend → ∀ state : σ,
    call.perform backend state = call.specification backend state

/-- The operation is not `redis_mget`, or it gets a single key, which is a
string of one character. -/
def Packed : ClientCall → Prop
  | .mget keys => ∃ char, keys = [.text (String.singleton char)]
  | _ => True

theorem perform_eq {σ : Type} {backend : Backend σ} {call : ClientCall}
    {state : σ}
    (executed : execute backend call.taskType call.taskData state =
      ((backend call.command.1 call.command.2 state).1.bind call.result,
        (backend call.command.1 call.command.2 state).2)) :
    call.perform backend state = call.specification backend state := by
  rw [perform, resolve, executed]
  rfl

theorem perform_method {σ : Type} {backend : Backend σ} {call : ClientCall}
    {state : σ}
    (executed : execute backend call.taskType call.taskData state =
      backend call.command.1 call.command.2 state)
    (plain : call.result = some) :
    call.perform backend state = call.specification backend state := by
  apply perform_eq
  rw [executed, plain, Option.bind_fun_some]

theorem refines_hget (key field : Argument) :
    Refines (.hget key field) := by
  intro σ backend typed state
  apply perform_eq
  cases called : (backend .hget [key, field] state).1 with
  | none => simp [execute, handlers, redisHget, Backend.call, called, command,
      taskType, taskData]
  | some reply =>
      rcases typed.hget _ _ _ called with rfl | ⟨content, rfl⟩
      · simp [execute, handlers, redisHget, Backend.call, called, command,
          taskType, taskData, result, Reply.orEmpty]
      · simp [execute, handlers, redisHget, Backend.call, called, command,
          taskType, taskData, result, Reply.orEmpty]

theorem refines_mget_char (char : Char) :
    Refines (.mget [.text (String.singleton char)]) := by
  intro σ backend typed state
  apply perform_eq
  cases called : (backend .mget [.scalar (.text (String.singleton char))]
      state).1 with
  | none => simp [execute, handlers, redisMget, Backend.call, called, command,
      taskType, taskData, Argument.iterate]
  | some reply =>
      obtain ⟨items, rfl⟩ := typed.mget _ _ _ called
      simp [execute, handlers, redisMget, Backend.call, called, command,
        taskType, taskData, Argument.iterate, result, Reply.fillMissing]

/-- A library that only records the calls of its methods. -/
def recording : Backend (List (Method × List Argument)) :=
  fun method arguments log => (none, log ++ [(method, arguments)])

theorem typed_recording : Typed recording where
  hget := by
    intro arguments state reply called
    cases called
  mget := by
    intro arguments state reply called
    cases called

theorem recorded_of_refines {keys : List Scalar}
    (refines : Refines (.mget keys)) :
    (redisMget recording (keys.map .scalar) []).2 =
      [(.mget, keys.map .scalar)] :=
  congrArg Prod.snd (refines _ recording typed_recording [])

theorem packed_of_refines {keys : List Scalar}
    (refines : Refines (.mget keys)) : Packed (.mget keys) := by
  have recorded := recorded_of_refines refines
  match keys with
  | [] => cases recorded
  | _ :: _ :: _ => cases recorded
  | [.number _] => cases recorded
  | [.other] => cases recorded
  | [.bytes content] =>
      simp [redisMget, Argument.iterate, Backend.call, recording,
        List.map_eq_singleton_iff] at recorded
  | [.text content] =>
      simp only [List.map_cons, List.map_nil, redisMget, Argument.iterate,
        Backend.call, recording, List.nil_append, List.cons.injEq,
        Prod.mk.injEq, true_and, and_true, List.map_map,
        List.map_eq_singleton_iff, Function.comp_apply,
        Argument.scalar.injEq, Scalar.text.injEq] at recorded
      obtain ⟨char, -, same⟩ := recorded
      exact ⟨char, by rw [same]⟩

/-- Every operation is its Redis command, except that `redis_mget` is so for
a single key of one character only. -/
theorem refines_iff (call : ClientCall) : call.Refines ↔ call.Packed := by
  cases call with
  | mget keys =>
      constructor
      · exact packed_of_refines
      · rintro ⟨char, rfl⟩
        exact refines_mget_char char
  | hget key field => exact iff_of_true (refines_hget key field) trivial
  | ipRatelimiter keys argv | tokenRatelimiter keys argv =>
      apply iff_of_true _ trivial
      intro σ backend _ state
      apply perform_eq
      rfl
  | setnx | mset | hlen | hset | hgetall | hdel | incr =>
      apply iff_of_true _ trivial
      intro σ backend _ state
      exact perform_method rfl rfl

/-- Two keys: the executor takes the one argument `items`. -/
theorem mget_two_keys : ¬ Refines (.mget [.text "a", .text "b"]) := by
  intro refines
  have recorded := recorded_of_refines refines
  cases recorded

end ClientCall

end Redis

end TinyChat
