import TinyChat.Redis.ReadBatch
import TinyChat.Redis.WriteBatch
import TinyChat.Lib.Transition

/-!
# Refresh tokens

`AuthBackend` stores a refresh token for a user, and exchanges it for a new
pair of tokens if the client presents the same text.  The client library of
Redis returns what is stored as bytes, and a missing value is replaced by the
empty string.
-/

namespace TinyChat

namespace Auth

/-- What an operation of the Redis client returns to Python. -/
inductive Data where
  | none
  | text (content : String)
  | bytes (content : ByteArray)
  deriving DecidableEq

/-- `str(RefreshTokenKey(uid))`. -/
def refreshTokenKey (uid : Nat) : String :=
  "chatp:auth:refresh_token:uid:" ++ uid.repr

/-- `str(binascii.hexlify(random), "utf-8")`. -/
def hexlify (random : List UInt8) : String :=
  String.ofList (random.flatMap (fun byte =>
    [Nat.digitChar (byte.toNat / 16), Nat.digitChar (byte.toNat % 16)]))

/-- The token that is made of the bytes of `os.urandom(24)`. -/
def generateRefreshToken (random : Vector UInt8 24) : String :=
  hexlify random.toList

/-- What the token library and the source of random bytes yield. -/
structure Generated where
  accessToken : String
  random : Vector UInt8 24

def generateToken (generated : Generated) : String × String :=
  (generated.accessToken, generateRefreshToken generated.random)

/-- A single `redis_get`; its waiter gets `None` if the key has a value of
another type. -/
def redisGet (key : String) (store : Redis.Store) : Data :=
  match store key.toUTF8 with
  | Option.none => .text ""
  | some (.string content) =>
      if content = ByteArray.empty then .text "" else .bytes content
  | some _ => .none

/-- The value of one key in a `redis_batch_get`. -/
def redisBatchGet (key : String) (store : Redis.Store) : Data :=
  match store.find key.toUTF8 with
  | Option.none => .text ""
  | some content => .bytes content

def retrieveRefreshToken (batched : Bool) (uid : Nat) (store : Redis.Store) :
    Data :=
  if batched then redisBatchGet (refreshTokenKey uid) store
  else redisGet (refreshTokenKey uid) store

section

variable (scripts : Redis.Backend Redis.Store)

def storeRefreshToken (uid : Nat) (refreshToken : String)
    (store : Redis.Store) : Redis.Reply × Redis.Store :=
  Redis.resolve (Redis.server scripts) .set
    [.scalar (.text (refreshTokenKey uid)), .scalar (.text refreshToken)]
    store

/-- Make a pair of tokens and return it if the refresh token is stored;
`SET` replies `True` or not at all. -/
def postAuthenticate (uid : Nat) (generated : Generated)
    (store : Redis.Store) : Option (String × String) × Redis.Store :=
  let tokens := generateToken generated
  match storeRefreshToken scripts uid tokens.2 store with
  | (.truth true, next) => (some tokens, next)
  | (_, next) => (none, next)

def refresh (batched : Bool) (uid : Nat) (userRefreshToken : String)
    (generated : Generated) (store : Redis.Store) :
    Option (String × String) × Redis.Store :=
  if retrieveRefreshToken batched uid store ≠ .text userRefreshToken then
    (none, store)
  else
    let tokens := generateToken generated
    match storeRefreshToken scripts uid tokens.2 store with
    | (.truth true, next) => (some tokens, next)
    | (_, next) => (none, next)

/-- The calls of the backend. -/
inductive Call where
  | postAuthenticate (uid : Nat) (generated : Generated)
  | refresh (batched : Bool) (uid : Nat) (userRefreshToken : String)
      (generated : Generated)

def Call.uid : Call → Nat
  | .postAuthenticate uid _ => uid
  | .refresh _ uid _ _ => uid

def Call.run : Call → Redis.Store → Option (String × String) × Redis.Store
  | .postAuthenticate uid generated =>
      Auth.postAuthenticate scripts uid generated
  | .refresh batched uid userRefreshToken generated =>
      Auth.refresh scripts batched uid userRefreshToken generated

/-- Calls are executed one after another; the events are the refresh tokens
that they store for a user. -/
def step : Transition.Step Redis.Store Call (Nat × String) :=
  fun store call =>
    let result := call.run scripts store
    some (result.2, (result.1.map (fun tokens => (call.uid, tokens.2))).toList)

end

/-- The refresh token most recently stored for a user. -/
def latest (trace : List (Nat × String)) (uid : Nat) : Option String :=
  ((trace.filter (fun event => event.1 = uid)).getLast?).map Prod.snd

theorem latest_append (trace : List (Nat × String)) (owner uid : Nat)
    (refreshToken : String) :
    latest (trace ++ [(owner, refreshToken)]) uid =
      if owner = uid then some refreshToken else latest trace uid := by
  unfold latest
  rw [List.filter_append]
  split
  · rename_i same
    simp [same]
  · rename_i other
    simp [other]

theorem refreshTokenKey_inj {first second : Nat} :
    refreshTokenKey first = refreshTokenKey second ↔ first = second := by
  constructor
  · intro same
    have digits : first.repr = second.repr :=
      (String.append_right_inj _).mp same
    exact Nat.repr_inj.mp digits
  · exact congrArg refreshTokenKey

theorem hexlify_ne {random : List UInt8} (nonempty : random ≠ []) :
    hexlify random ≠ "" := by
  cases random with
  | nil => exact absurd rfl nonempty
  | cons byte random =>
      intro empty
      have digits := congrArg String.toList empty
      rw [hexlify, String.toList_ofList] at digits
      cases digits

theorem generateRefreshToken_ne (random : Vector UInt8 24) :
    generateRefreshToken random ≠ "" := by
  apply hexlify_ne
  intro empty
  have size : random.toList.length = 24 := Vector.length_toList
  rw [empty] at size
  cases size

/-- A single read and a batch differ from the service below only in that
texts and bytes are kept apart. -/
def Data.reply : Data → Redis.Reply
  | .none => .absent
  | .text content => .bytes content.toUTF8
  | .bytes content => .bytes content

section

variable {scripts : Redis.Backend Redis.Store}

theorem redisGet_reply (key : String) (store : Redis.Store) :
    (redisGet key store).reply =
      (Redis.resolve (Redis.server scripts) .get [.scalar (.text key)]
        store).1 := by
  have read : Redis.readSingly scripts (.text key) store =
      (Redis.execute (Redis.server scripts) .get [.scalar (.text key)]
        store).1 := rfl
  rw [Redis.resolve, ← read,
    Redis.readSingly_eq (Redis.encode_text key), redisGet]
  cases store key.toUTF8 with
  | none => rfl
  | some stored =>
      cases stored with
      | string content =>
          by_cases empty : content = ByteArray.empty
          · simp [empty, Data.reply]
          · simp [empty, Data.reply]
      | list | hash | other => rfl

theorem redisBatchGet_reply {keys : List String} {position : Nat}
    {key : String} (several : 2 ≤ keys.length)
    (found : keys[position]? = some key) (store : Redis.Store) :
    (Redis.readTogether scripts (keys.map .text) store)[position]? =
      some (.result (redisBatchGet key store).reply) := by
  have words : (keys.map Redis.Scalar.text).mapM Redis.Scalar.encode =
      some (keys.map String.toUTF8) := by
    rw [List.mapM_map]
    exact Redis.mapM_eq_some_map String.toUTF8 (fun _ _ => rfl)
  have within : position < (keys.map Redis.Scalar.text).length := by
    rw [List.length_map]
    exact (List.getElem?_eq_some_iff.mp found).1
  rw [Redis.readTogether_several (by simpa using several) words within
    (by rw [List.getElem?_map, found]; rfl)]
  rw [redisBatchGet, Redis.batchValue]
  cases store.find key.toUTF8 with
  | none => rfl
  | some content => rfl

theorem storeRefreshToken_eq (uid : Nat) (refreshToken : String)
    (store : Redis.Store) :
    storeRefreshToken scripts uid refreshToken store =
      (.truth true, store.put (refreshTokenKey uid).toUTF8
        refreshToken.toUTF8) :=
  Redis.resolve_set (refreshTokenKey uid) (.text refreshToken)

theorem postAuthenticate_eq (uid : Nat) (generated : Generated)
    (store : Redis.Store) :
    postAuthenticate scripts uid generated store =
      (some (generateToken generated),
        store.put (refreshTokenKey uid).toUTF8
          (generateToken generated).2.toUTF8) := by
  rw [postAuthenticate, storeRefreshToken_eq]

theorem refresh_of_retrieved {batched : Bool} {uid : Nat}
    {userRefreshToken : String} {store : Redis.Store}
    (retrieved : retrieveRefreshToken batched uid store =
      .text userRefreshToken) (generated : Generated) :
    refresh scripts batched uid userRefreshToken generated store =
      (some (generateToken generated),
        store.put (refreshTokenKey uid).toUTF8
          (generateToken generated).2.toUTF8) := by
  rw [refresh, if_neg (not_not.mpr retrieved)]
  simp only [storeRefreshToken_eq]

theorem refresh_of_ne {batched : Bool} {uid : Nat}
    {userRefreshToken : String} {store : Redis.Store}
    (different : retrieveRefreshToken batched uid store ≠
      .text userRefreshToken) (generated : Generated) :
    refresh scripts batched uid userRefreshToken generated store =
      (none, store) :=
  if_pos different

/-- The tokens in the store are the ones that were stored last. -/
structure Kept (trace : List (Nat × String)) (store : Redis.Store) :
    Prop where
  held : ∀ uid, store (refreshTokenKey uid).toUTF8 =
    (latest trace uid).map (fun token => .string token.toUTF8)
  nonempty : ∀ event ∈ trace, event.2 ≠ ""

theorem Kept.put {trace : List (Nat × String)} {store : Redis.Store}
    (kept : Kept trace store) (uid : Nat) (generated : Generated) :
    Kept (trace ++ [(uid, (generateToken generated).2)])
      (store.put (refreshTokenKey uid).toUTF8
        (generateToken generated).2.toUTF8) := by
  constructor
  case held =>
    intro other
    rw [latest_append, Redis.Store.put]
    by_cases same : uid = other
    · rw [same, if_pos rfl]
      exact Function.update_self ..
    · rw [if_neg same, ← kept.held]
      apply Function.update_of_ne
      intro key
      exact same (refreshTokenKey_inj.mp (Redis.toUTF8_inj.mp key)).symm
  case nonempty =>
    intro event member
    rcases List.mem_append.mp member with earlier | new
    · exact kept.nonempty event earlier
    · rw [List.mem_singleton.mp new]
      exact generateRefreshToken_ne generated.random

theorem Kept.step {trace events : List (Nat × String)}
    {store next : Redis.Store} {call : Call} (kept : Kept trace store)
    (stepped : step scripts store call = some (next, events)) :
    Kept (trace ++ events) next := by
  cases call with
  | postAuthenticate uid generated =>
      simp only [Auth.step, Call.run, postAuthenticate_eq] at stepped
      cases stepped
      exact kept.put uid generated
  | refresh batched uid userRefreshToken generated =>
      simp only [Auth.step, Call.run] at stepped
      by_cases retrieved : retrieveRefreshToken batched uid store =
          .text userRefreshToken
      · rw [refresh_of_retrieved retrieved] at stepped
        cases stepped
        exact kept.put uid generated
      · rw [refresh_of_ne retrieved] at stepped
        cases stepped
        rw [Option.map_none, Option.toList_none, List.append_nil]
        exact kept

theorem latest_mem {trace : List (Nat × String)} {uid : Nat}
    {refreshToken : String} (found : latest trace uid = some refreshToken) :
    (uid, refreshToken) ∈ trace := by
  obtain ⟨event, last, rfl⟩ := Option.map_eq_some_iff.mp found
  have member := List.mem_of_getLast? last
  rw [List.mem_filter, decide_eq_true_iff] at member
  rw [← member.2]
  exact member.1

theorem retrieve_of_none {uid : Nat} {store : Redis.Store}
    (absent : store (refreshTokenKey uid).toUTF8 = none) (batched : Bool) :
    retrieveRefreshToken batched uid store = .text "" := by
  cases batched with
  | false =>
      change redisGet _ _ = _
      rw [redisGet, absent]
  | true =>
      change redisBatchGet _ _ = _
      rw [redisBatchGet, Redis.Store.find, absent]

theorem retrieve_of_string {uid : Nat} {store : Redis.Store}
    {content : ByteArray}
    (held : store (refreshTokenKey uid).toUTF8 = some (.string content))
    (filled : content ≠ ByteArray.empty) (batched : Bool) :
    retrieveRefreshToken batched uid store = .bytes content := by
  cases batched with
  | false =>
      change redisGet _ _ = _
      rw [redisGet, held]
      exact if_neg filled
  | true =>
      change redisBatchGet _ _ = _
      rw [redisBatchGet, Redis.Store.find, held]

/-- A stored token is retrieved as bytes, and a missing one as the empty
string. -/
theorem Kept.retrieved {trace : List (Nat × String)} {store : Redis.Store}
    (kept : Kept trace store) (batched : Bool) (uid : Nat) :
    retrieveRefreshToken batched uid store =
      match latest trace uid with
      | none => .text ""
      | some refreshToken => .bytes refreshToken.toUTF8 := by
  have held := kept.held uid
  cases stored : latest trace uid with
  | none =>
      rw [stored] at held
      exact retrieve_of_none held batched
  | some refreshToken =>
      rw [stored] at held
      have filled : refreshToken.toUTF8 ≠ ByteArray.empty := by
        intro empty
        apply kept.nonempty _ (latest_mem stored)
        exact Redis.toUTF8_inj.mp empty
      exact retrieve_of_string held filled batched

theorem Kept.retrieved_text_iff {trace : List (Nat × String)}
    {store : Redis.Store} (kept : Kept trace store) (batched : Bool)
    (uid : Nat) (userRefreshToken : String) :
    retrieveRefreshToken batched uid store = .text userRefreshToken ↔
      latest trace uid = none ∧ userRefreshToken = "" := by
  rw [kept.retrieved]
  cases latest trace uid with
  | none => simp [eq_comm]
  | some refreshToken => simp

theorem refresh_isSome_iff (batched : Bool) (uid : Nat)
    (userRefreshToken : String) (generated : Generated)
    (store : Redis.Store) :
    (refresh scripts batched uid userRefreshToken generated
        store).1.isSome = true ↔
      retrieveRefreshToken batched uid store = .text userRefreshToken := by
  by_cases retrieved : retrieveRefreshToken batched uid store =
      .text userRefreshToken
  · simp [refresh_of_retrieved retrieved, retrieved]
  · simp [refresh_of_ne retrieved, retrieved]

end

section

variable {scripts : Redis.Backend Redis.Store} {start store : Redis.Store}
  {trace : List (Nat × String)}

/-- No token has been stored for anybody. -/
def Unused (start : Redis.Store) : Prop :=
  ∀ uid, start (refreshTokenKey uid).toUTF8 = none

theorem kept_of_run (unused : Unused start)
    (run : Transition.AnyRun (step scripts) start trace store) :
    Kept trace store := by
  refine run.invariant ?_ ?_
  · constructor
    · exact unused
    · intro event member
      cases member
  · intro trace events state next action kept _ stepped
    exact kept.step stepped

theorem run_refuses_stored (unused : Unused start)
    (run : Transition.AnyRun (step scripts) start trace store)
    {uid : Nat} {refreshToken : String}
    (stored : latest trace uid = some refreshToken) (batched : Bool)
    (generated : Generated) :
    refresh scripts batched uid refreshToken generated store =
      (none, store) := by
  apply refresh_of_ne
  rw [Ne, (kept_of_run unused run).retrieved_text_iff, stored]
  intro retrieved
  cases retrieved.1

/-- A pair is returned for the stored token and for nothing else, if and only
if the text is neither the stored token nor the empty text of somebody for
whom no token is stored. -/
theorem run_refresh_iff (unused : Unused start)
    (run : Transition.AnyRun (step scripts) start trace store)
    (batched : Bool) (uid : Nat) (userRefreshToken : String)
    (generated : Generated) :
    ((refresh scripts batched uid userRefreshToken generated
        store).1.isSome = true ↔
        latest trace uid = some userRefreshToken) ↔
      latest trace uid ≠ some userRefreshToken ∧
        ¬ (latest trace uid = none ∧ userRefreshToken = "") := by
  rw [refresh_isSome_iff, (kept_of_run unused run).retrieved_text_iff]
  cases latest trace uid with
  | none => simp
  | some refreshToken => simp

end

/-- Tokens for the fixed inputs below. -/
def sample : Generated where
  accessToken := "access"
  random := Vector.replicate 24 0

theorem run_refresh_iff_login :
    ((refresh (fun _ => Redis.raises) false 1 "unknown" sample
        (postAuthenticate (fun _ => Redis.raises) 1 sample
          (fun _ => none)).2).1.isSome = true ↔
        latest [(1, (generateToken sample).2)] 1 = some "unknown") ↔
      latest [(1, (generateToken sample).2)] 1 ≠ some "unknown" ∧
        ¬ (latest [(1, (generateToken sample).2)] 1 = none ∧
          "unknown" = "") := by
  have login : Transition.AnyRun (step (fun _ => Redis.raises))
      (fun _ => none) ([] ++ [(1, (generateToken sample).2)])
      (postAuthenticate (fun _ => Redis.raises) 1 sample
        (fun _ => none)).2 := by
    apply Transition.Run.act .refl (.postAuthenticate 1 sample) trivial
    rw [step, Call.run, postAuthenticate_eq]
    rfl
  exact run_refresh_iff (fun _ => rfl) login false 1 "unknown" sample

/-- Nobody has logged in, and an empty token is exchanged for a pair. -/
theorem empty_token_refreshed :
    ¬ ∀ (trace : List (Nat × String)) (store : Redis.Store),
      Transition.AnyRun (step (fun _ => Redis.raises)) (fun _ => none) trace
        store →
      ∀ (batched : Bool) (uid : Nat) (userRefreshToken : String)
        (generated : Generated),
        (refresh (fun _ => Redis.raises) batched uid userRefreshToken
            generated store).1.isSome = true ↔
          latest trace uid = some userRefreshToken := by
  intro claimed
  have exchanged := (claimed [] _ .refl false 1 "" sample).mp (by
    rw [refresh_isSome_iff]
    rfl)
  cases exchanged

end Auth

end TinyChat
