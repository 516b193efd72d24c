import Mathlib.Tactic.Linarith
import TinyChat.Lib.Transition
import TinyChat.Redis.IpLimiter

/-!
# The token bucket of an API

The bucket is refilled when a request does not fit, but never earlier than
an inflow window after the last refill.  Two potentials bound what is granted
in a whole run: the tokens that were granted and those that are left are at
most a full bucket for each refill, and at most the first bucket with what
has flowed in since.
-/

namespace TinyChat

namespace Redis

/-- The arguments that stay the same from call to call. -/
structure TokenLimit where
  inflowWindow : Nat := 1
  capacity : Nat := 12
  rate : Nat := 8
  inflowWindow_pos : 0 < inflowWindow := by decide

namespace TokenLimit

/-- The inflow window in milliseconds. -/
def inflow (limit : TokenLimit) : Int := limit.inflowWindow * 1000

theorem inflow_pos (limit : TokenLimit) : 0 < limit.inflow := by
  have := limit.inflowWindow_pos
  unfold inflow
  omega

end TokenLimit

/-- Both keys of a tag, which are always set together. -/
structure Bucket where
  tokens : Int
  lastRefreshed : Int
  deriving DecidableEq

namespace Bucket

def decr (bucket : Bucket) : Bucket :=
  { bucket with tokens := bucket.tokens - 1 }

def decrby (bucket : Bucket) (amount : Int) : Bucket :=
  { bucket with tokens := bucket.tokens - amount }

/-- The end of the script for a request that fits. -/
def take (bucket : Bucket) (prefetch : Nat) : Bucket :=
  if prefetch = 1 then bucket.decr else bucket.decrby prefetch

/-- What the script sets for the first request of a tag. -/
def full (limit : TokenLimit) (current : Int) : Bucket where
  tokens := limit.capacity
  lastRefreshed := current

def timePassed (bucket : Bucket) (current : Int) : Int :=
  max (current - bucket.lastRefreshed) 0

/-- What the script sets when an inflow window has passed. -/
def refill (limit : TokenLimit) (bucket : Bucket) (current : Int) :
    Bucket where
  tokens := min (bucket.tokens + bucket.timePassed current * limit.rate)
    limit.capacity
  lastRefreshed := current

end Bucket

/-- The script `TOKEN_RATELIMITER`, whose answers are the places of
`tokenLimiterResponses`.  The numbers of Lua are doubles, which are exact for
integers below 2^53. -/
def tokenRatelimiter (limit : TokenLimit) (current : Int) (prefetch : Nat) :
    Option Bucket → Bucket × RatelimiterStatus
  | some bucket =>
      if bucket.tokens < prefetch then
        if limit.inflow ≤ bucket.timePassed current then
          let refilled := bucket.refill limit current
          if refilled.tokens < prefetch then (refilled, .blocked)
          else (refilled.take prefetch, .allowed)
        else (bucket, .blocked)
      else (bucket.take prefetch, .allowed)
  | none =>
      let full := Bucket.full limit current
      if full.tokens < prefetch then (full, .blocked)
      else (full.take prefetch, .allowed)

/-- A call of the script and its answer. -/
structure TokenCall where
  current : Int
  prefetch : Nat
  status : RatelimiterStatus
  deriving DecidableEq

namespace TokenCall

/-- The tokens that a call was granted. -/
def granted (call : TokenCall) : Int :=
  if call.status = .allowed then call.prefetch else 0

end TokenCall

namespace TokenBucket

/-- The calls for one tag; an action is a time and a number of tokens. -/
def step (limit : TokenLimit) :
    Transition.Step (Option Bucket) (Int × Nat) TokenCall
  | bucket, (current, prefetch) =>
      let answer := tokenRatelimiter limit current prefetch bucket
      some (some answer.1, [⟨current, prefetch, answer.2⟩])

/-- The number of tokens that were granted. -/
def granted (trace : List TokenCall) : Int :=
  (trace.map TokenCall.granted).sum

/-- The bucket is neither negative nor overfull, and what was granted since
the time `first` has its two bounds. -/
structure Bounded (limit : TokenLimit) (first total : Int)
    (bucket : Bucket) : Prop where
  nonneg : 0 ≤ bucket.tokens
  capacity : bucket.tokens ≤ limit.capacity
  since : first ≤ bucket.lastRefreshed
  refills : ∃ number : Nat,
    number * limit.inflow ≤ bucket.lastRefreshed - first ∧
      total + bucket.tokens ≤ limit.capacity * (1 + number)
  inflow : total + bucket.tokens ≤
    limit.capacity + limit.rate * (bucket.lastRefreshed - first)

section

variable {limit : TokenLimit} {bucket : Bucket} {current first total : Int}
  {prefetch : Nat}

theorem take_eq (bucket : Bucket) (prefetch : Nat) :
    bucket.take prefetch =
      { bucket with tokens := bucket.tokens - prefetch } := by
  unfold Bucket.take Bucket.decr Bucket.decrby
  split
  · rename_i one
    rw [one, Nat.cast_one]
  · rfl

theorem bounded_full (limit : TokenLimit) (current : Int) :
    Bounded limit current 0 (.full limit current) := by
  constructor
  case nonneg => exact Int.natCast_nonneg _
  case capacity => exact le_rfl
  case since => exact le_rfl
  case refills =>
    refine ⟨0, ?_, ?_⟩
    · simp [Bucket.full]
    · simp [Bucket.full]
  case inflow => simp [Bucket.full]

theorem Bounded.take (bounded : Bounded limit first total bucket)
    (fits : ¬bucket.tokens < prefetch) :
    Bounded limit first (total + prefetch) (bucket.take prefetch) := by
  obtain ⟨number, apart, bound⟩ := bounded.refills
  have capacity := bounded.capacity
  have inflow := bounded.inflow
  rw [take_eq]
  constructor
  case nonneg => exact sub_nonneg.mpr (not_lt.mp fits)
  case capacity =>
    dsimp only
    omega
  case since => exact bounded.since
  case refills =>
    refine ⟨number, apart, ?_⟩
    dsimp only
    linarith
  case inflow =>
    dsimp only
    linarith

/-- The time of the last refill goes forward by an inflow window at least,
and no more tokens come than flow in during this time. -/
theorem Bounded.refill (bounded : Bounded limit first total bucket)
    (passed : limit.inflow ≤ bucket.timePassed current) :
    bucket.lastRefreshed ≤ current ∧
      Bounded limit first total (bucket.refill limit current) := by
  have window := limit.inflow_pos
  have elapsed : bucket.timePassed current =
      current - bucket.lastRefreshed := by
    unfold Bucket.timePassed at passed ⊢
    omega
  rw [elapsed] at passed
  have later : bucket.lastRefreshed ≤ current := by omega
  have flowed : 0 ≤ (current - bucket.lastRefreshed) * limit.rate :=
    mul_nonneg (sub_nonneg.mpr later) (Int.natCast_nonneg _)
  obtain ⟨number, apart, bound⟩ := bounded.refills
  have nonneg := bounded.nonneg
  have inflow := bounded.inflow
  refine ⟨later, ?_⟩
  unfold Bucket.refill
  rw [elapsed]
  constructor
  case nonneg =>
    exact le_min (add_nonneg nonneg flowed) (Int.natCast_nonneg _)
  case capacity => exact min_le_right _ _
  case since => exact bounded.since.trans later
  case refills =>
    refine ⟨number + 1, ?_, ?_⟩
    · push_cast
      linarith
    · have full := min_le_right
        (bucket.tokens + (current - bucket.lastRefreshed) * limit.rate)
        (limit.capacity : Int)
      push_cast
      linarith
  case inflow =>
    have some_flow := min_le_left
      (bucket.tokens + (current - bucket.lastRefreshed) * limit.rate)
      (limit.capacity : Int)
    dsimp only
    linarith

theorem Bounded.answer (bounded : Bounded limit first total bucket)
    (current : Int) (prefetch : Nat) :
    let answer := tokenRatelimiter limit current prefetch (some bucket)
    Bounded limit first
        (total + TokenCall.granted ⟨current, prefetch, answer.2⟩)
        answer.1 ∧
      bucket.lastRefreshed ≤ answer.1.lastRefreshed ∧
      (answer.1.lastRefreshed = bucket.lastRefreshed ∨
        answer.1.lastRefreshed = current) := by
  simp only [tokenRatelimiter]
  split
  · split
    · rename_i passed
      obtain ⟨later, refilled⟩ := bounded.refill passed
      split
      · refine ⟨?_, later, .inr rfl⟩
        rw [TokenCall.granted, if_neg nofun, add_zero]
        exact refilled
      · rename_i fits
        have taken := refilled.take fits
        rw [take_eq] at taken ⊢
        exact ⟨taken, later, .inr rfl⟩
    · refine ⟨?_, le_rfl, .inl rfl⟩
      rw [TokenCall.granted, if_neg nofun, add_zero]
      exact bounded
  · rename_i fits
    have taken := bounded.take fits
    rw [take_eq] at taken ⊢
    exact ⟨taken, le_rfl, .inl rfl⟩

theorem bounded_first (limit : TokenLimit) (current : Int)
    (prefetch : Nat) :
    let answer := tokenRatelimiter limit current prefetch none
    Bounded limit current
        (TokenCall.granted ⟨current, prefetch, answer.2⟩) answer.1 ∧
      answer.1.lastRefreshed = current := by
  have full := bounded_full limit current
  simp only [tokenRatelimiter]
  split
  · exact ⟨full, rfl⟩
  · rename_i fits
    have taken := full.take fits
    rw [zero_add] at taken
    rw [take_eq] at taken ⊢
    exact ⟨taken, rfl⟩

end

/-- The bucket of a tag after its calls, and the time of its last refill. -/
inductive Filled (limit : TokenLimit) :
    List TokenCall → Option Bucket → Prop where
  | absent : Filled limit [] none
  | present {call : TokenCall} {calls : List TokenCall} {bucket : Bucket} :
      Bounded limit call.current (granted (call :: calls)) bucket →
      (∃ refresh ∈ call :: calls,
        refresh.current = bucket.lastRefreshed) →
      Filled limit (call :: calls) (some bucket)

section

variable {limit : TokenLimit} {state next : Option Bucket}
  {trace events : List TokenCall} {action : Int × Nat}

theorem granted_append (before : List TokenCall) (call : TokenCall) :
    granted (before ++ [call]) = granted before + call.granted := by
  simp [granted]

theorem Filled.step (filled : Filled limit trace state)
    (stepped : step limit state action = some (next, events)) :
    Filled limit (trace ++ events) next ∧
      ∀ bucket ∈ state, ∃ after ∈ next,
        bucket.lastRefreshed ≤ after.lastRefreshed := by
  obtain ⟨current, prefetch⟩ := action
  simp only [TokenBucket.step, Option.some.injEq, Prod.mk.injEq] at stepped
  obtain ⟨rfl, rfl⟩ := stepped
  cases filled with
  | absent =>
      obtain ⟨bounded, refreshed⟩ := bounded_first limit current prefetch
      refine ⟨.present ?_ ?_, nofun⟩
      · simpa [granted] using bounded
      · exact ⟨_, List.mem_singleton_self _, refreshed.symm⟩
  | @present call calls bucket bounded refreshed =>
      obtain ⟨answered, later, last⟩ := bounded.answer current prefetch
      obtain ⟨refresh, member, same⟩ := refreshed
      constructor
      · refine @Filled.present limit call (calls ++ [_]) _ ?_ ?_
        · rw [← List.cons_append, granted_append]
          exact answered
        · rw [← List.cons_append]
          rcases last with old | new
          · exact ⟨refresh, List.mem_append_left _ member,
              same.trans old.symm⟩
          · exact ⟨_, List.mem_append_right _ (List.mem_singleton_self _),
              new.symm⟩
      · intro before known
        cases known
        exact ⟨_, rfl, later⟩

theorem run_filled
    (run : Transition.AnyRun (step limit) none trace state) :
    Filled limit trace state :=
  run.invariant .absent (fun filled _ stepped => (filled.step stepped).1)

/-- Whatever the order of the times: the bucket stays within its capacity,
the time of the last refill never decreases, and what was granted between the
first time and the largest one is bounded in two ways. -/
theorem run_bounded_tokens
    (run : Transition.AnyRun (step limit) none trace state) :
    (∀ bucket ∈ state, 0 ≤ bucket.tokens ∧
      bucket.tokens ≤ limit.capacity) ∧
    (∀ action next events, step limit state action = some (next, events) →
      ∀ bucket ∈ state, ∃ after ∈ next,
        bucket.lastRefreshed ≤ after.lastRefreshed) ∧
    ∀ first ∈ trace.head?, ∀ last ∈ trace,
      (∀ call ∈ trace, call.current ≤ last.current) →
      granted trace ≤ limit.capacity *
        (1 + (last.current - first.current) /
          (1000 * limit.inflowWindow)) ∧
      granted trace ≤ limit.capacity +
        limit.rate * (last.current - first.current) := by
  have filled := run_filled run
  refine ⟨?_, ?_, ?_⟩
  · intro bucket known
    cases filled with
    | absent => cases known
    | present bounded _ =>
        cases known
        exact ⟨bounded.nonneg, bounded.capacity⟩
  · intro action next events stepped
    exact (filled.step stepped).2
  · intro first head last _ largest
    cases filled with
    | absent => cases head
    | @present call calls bucket bounded refreshed =>
        cases head
        obtain ⟨refresh, member, same⟩ := refreshed
        have until_last := largest refresh member
        rw [same] at until_last
        have nonneg := bounded.nonneg
        constructor
        · obtain ⟨number, apart, bound⟩ := bounded.refills
          have window := limit.inflow_pos
          have same_window : (1000 * limit.inflowWindow : Int) =
              limit.inflow := mul_comm _ _
          have refills : (number : Int) ≤
              (last.current - first.current) /
                (1000 * limit.inflowWindow) := by
            rw [same_window, Int.le_ediv_iff_mul_le window]
            linarith
          have capacity := mul_le_mul_of_nonneg_left refills
            (Int.natCast_nonneg limit.capacity)
          linarith
        · have inflow := bounded.inflow
          have rate := mul_le_mul_of_nonneg_left
            (sub_le_sub_right until_last first.current)
            (Int.natCast_nonneg limit.rate)
          linarith

end

/-- Twelve tokens of the first second and two that flow in later, with a
clock that goes back in between. -/
theorem run_bounded_tokens_back : ∃ trace bucket,
    Transition.AnyRun (step { rate := 1, inflowWindow := 2 }) none trace
      (some bucket) ∧
    granted trace = 14 ∧ 0 ≤ bucket.tokens ∧ bucket.tokens ≤ 12 := by
  have some_granted : ∃ trace state,
      Transition.AnyRun (step { rate := 1, inflowWindow := 2 }) none trace
        state ∧ granted trace = 14 ∧ state.isSome = true := by
    apply Transition.Run.exists_both_of_exec
      [(0, 12), (1000, 1), (-5, 1), (2000, 2)]
    decide
  obtain ⟨trace, state, run, number, present⟩ := some_granted
  obtain ⟨bucket, rfl⟩ := Option.isSome_iff_exists.mp present
  exact ⟨trace, bucket, run, number, (run_bounded_tokens run).1 bucket rfl⟩

end TokenBucket

end Redis

end TinyChat
