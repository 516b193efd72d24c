import TinyChat.Lib.Transition
import TinyChat.Redis.Handlers

/-!
# The rate limiter of an IP address

A sorted set has an entry for every call that was not rejected.  The whole
key expires a trace cycle after an entry that was alone in its trace window,
together with the entries that came later.
-/

namespace TinyChat

namespace Redis

/-- The arguments that stay the same from call to call; `SET` refuses an
expiry that is not positive. -/
structure IpLimit where
  slidingWindow : Int := 3
  traceCycle : Int := 30
  traceThreshold : Int := 6
  blockedTime : Int := 600
  slidingWindow_pos : 0 < slidingWindow := by decide
  slidingWindow_lt : slidingWindow < traceCycle := by decide
  blockedTime_pos : 0 < blockedTime := by decide

/-- `ZCOUNT`. -/
def zcount (entries : List Int) (first last : Int) : Nat :=
  entries.countP (fun entry => first ≤ entry ∧ entry ≤ last)

/-- `ZADD`, where the member is the text of the score. -/
def zadd (entries : List Int) (entry : Int) : List Int :=
  if entry ∈ entries then entries else entries ++ [entry]

/-- The keys of an address, with the time of the last call and the entries
that have vanished with an expired key. -/
structure IpKeys where
  now : Option Int := none
  entries : List Int := []
  expireAt : Option Int := none
  blockedUntil : Option Int := none
  forgotten : List Int := []
  deriving DecidableEq

namespace IpKeys

def expired (time : Option Int) (current : Int) : Bool :=
  time.any (fun last => last < current)

/-- A key that has expired is gone. -/
def purge (keys : IpKeys) (current : Int) : IpKeys :=
  if expired keys.expireAt current then
    { keys with
      entries := []
      expireAt := none
      forgotten := keys.forgotten ++ keys.entries }
  else keys

/-- `SET` with `NX` and `EX`. -/
def block (keys : IpKeys) (current blockedTime : Int) : IpKeys :=
  if keys.blockedUntil.isSome ∧ !expired keys.blockedUntil current then keys
  else { keys with blockedUntil := some (current + blockedTime * 1000) }

end IpKeys

/-- The script `IP_RATELIMITER`, whose answers are the places of
`ipLimiterResponses`. -/
def ipRatelimiter (limit : IpLimit) (current : Int) (keys : IpKeys) :
    IpKeys × RatelimiterStatus :=
  let windowStart := current - limit.slidingWindow * 1000
  if 1 ≤ zcount keys.entries windowStart current then (keys, .rejected)
  else
    let added := { keys with entries := zadd keys.entries current }
    let traceWindowStart := current - limit.traceCycle * 1000
    let traceWindowCount := zcount added.entries traceWindowStart current
    if limit.traceThreshold < traceWindowCount then
      (added.block current limit.blockedTime, .blocked)
    else if traceWindowCount = 1 then
      ({ added with expireAt := some (current + limit.traceCycle * 1000) },
        .allowed)
    else (added, .allowed)

namespace IpKeys

/-- A call at a time that is not before the last one; the event is its time
and its answer. -/
def step (limit : IpLimit) :
    Transition.Step IpKeys Int (Int × RatelimiterStatus)
  | keys, current =>
      if keys.now.all (fun last => last ≤ current) then
        let answer := ipRatelimiter limit current (keys.purge current)
        some ({ answer.1 with now := some current }, [(current, answer.2)])
      else none

end IpKeys

/-- The times of the calls that were not rejected. -/
def accepted (trace : List (Int × RatelimiterStatus)) : List Int :=
  (trace.filter (fun call => call.2 ≠ .rejected)).map Prod.fst

/-- What the limiter promises: the calls that it does not reject are further
apart than the sliding window, and those beyond the threshold of the trace
cycle are blocked. -/
structure Limited (limit : IpLimit)
    (trace : List (Int × RatelimiterStatus)) : Prop where
  spaced : (accepted trace).Pairwise
    (fun first second => limit.slidingWindow * 1000 < second - first)
  counted : Transition.EachEvent
    (fun before call => call.2 ≠ .rejected →
      limit.traceThreshold + 1 ≤ zcount (accepted before ++ [call.1])
        (call.1 - limit.traceCycle * 1000) call.1 →
      call.2 = .blocked) [] trace

/-- A call that finds no entry in its sliding window has not lost one there
with an expired key, and the entries of its trace window that were lost do
not make the difference to the threshold. -/
def IpKeys.Remembered (limit : IpLimit) (keys : IpKeys)
    (current : Int) : Prop :=
  let purged := keys.purge current
  let windowStart := current - limit.slidingWindow * 1000
  let traceWindowStart := current - limit.traceCycle * 1000
  0 < zcount purged.entries windowStart current ∨
    zcount purged.forgotten windowStart current = 0 ∧
      (limit.traceThreshold ≤
          zcount purged.entries traceWindowStart current ∨
        zcount purged.forgotten traceWindowStart current +
          zcount purged.entries traceWindowStart current <
            limit.traceThreshold)

section

variable {limit : IpLimit} {current first last : Int}
  {entries later : List Int}

theorem zcount_append :
    zcount (entries ++ later) first last =
      zcount entries first last + zcount later first last :=
  List.countP_append

theorem zcount_self (some_window : first ≤ last) :
    zcount [last] first last = 1 := by
  simp [zcount, some_window]

theorem zcount_eq_zero :
    zcount entries first last = 0 ↔
      ∀ entry ∈ entries, ¬(first ≤ entry ∧ entry ≤ last) := by
  simp [zcount, List.countP_eq_zero]

theorem zadd_new (none_there : zcount entries first last = 0)
    (some_window : first ≤ last) :
    zadd entries last = entries ++ [last] := by
  rw [zadd, if_neg]
  intro member
  exact zcount_eq_zero.mp none_there last member ⟨some_window, Int.le_refl _⟩

/-- The last times of a list are apart from a time that is not before. -/
theorem spaced_iff {window : Int} (before : ∀ entry ∈ entries,
    entry ≤ last) :
    (∀ entry ∈ entries, window < last - entry) ↔
      zcount entries (last - window) last = 0 := by
  rw [zcount_eq_zero]
  constructor
  · intro apart entry member within
    have := apart entry member
    omega
  · intro none_there entry member
    have := none_there entry member
    have := before entry member
    omega

end

namespace IpKeys

variable {limit : IpLimit} {keys next : IpKeys} {current : Int}
  {trace events : List (Int × RatelimiterStatus)}

@[simp] theorem block_entries (keys : IpKeys) (current blockedTime : Int) :
    (keys.block current blockedTime).entries = keys.entries := by
  unfold block
  split <;> rfl

@[simp] theorem block_forgotten (keys : IpKeys) (current blockedTime : Int) :
    (keys.block current blockedTime).forgotten = keys.forgotten := by
  unfold block
  split <;> rfl

theorem purge_entries (keys : IpKeys) (current : Int) :
    (keys.purge current).forgotten ++ (keys.purge current).entries =
      keys.forgotten ++ keys.entries := by
  unfold purge
  split
  · exact List.append_nil _
  · rfl

/-- Everything that a call can do. -/
inductive Answered (limit : IpLimit) (keys : IpKeys) (current : Int) :
    IpKeys → RatelimiterStatus → Prop where
  | rejected :
      0 < zcount keys.entries (current - limit.slidingWindow * 1000)
        current →
      Answered limit keys current keys .rejected
  | accepted {next : IpKeys} {status : RatelimiterStatus} :
      zcount keys.entries (current - limit.slidingWindow * 1000) current =
        0 →
      next.entries = keys.entries ++ [current] →
      next.forgotten = keys.forgotten →
      status ≠ .rejected →
      (status = .blocked ↔ limit.traceThreshold ≤
        zcount keys.entries (current - limit.traceCycle * 1000) current) →
      Answered limit keys current next status

theorem ipRatelimiter_answered (limit : IpLimit) (current : Int)
    (keys : IpKeys) :
    Answered limit keys current (ipRatelimiter limit current keys).1
      (ipRatelimiter limit current keys).2 := by
  have sliding := limit.slidingWindow_pos
  have cycle := limit.slidingWindow_lt
  unfold ipRatelimiter
  simp only
  split
  · rename_i found
    exact .rejected found
  · rename_i missing
    have none_there : zcount keys.entries
        (current - limit.slidingWindow * 1000) current = 0 := by omega
    have added := zadd_new none_there (by omega)
    have counted : zcount (zadd keys.entries current)
        (current - limit.traceCycle * 1000) current =
          zcount keys.entries (current - limit.traceCycle * 1000) current +
            1 := by
      rw [added, zcount_append, zcount_self (by omega)]
    rw [counted]
    split
    · rename_i above
      refine .accepted none_there ?_ ?_ nofun (iff_of_true rfl ?_)
      · rw [block_entries]
        exact added
      · rw [block_forgotten]
      · omega
    · rename_i below
      split
      · exact .accepted none_there added rfl nofun
          (iff_of_false nofun (by omega))
      · exact .accepted none_there added rfl nofun
          (iff_of_false nofun (by omega))

/-- The entries are the calls that were not rejected, but for those that the
key has lost. -/
structure Recorded (trace : List (Int × RatelimiterStatus))
    (keys : IpKeys) : Prop where
  accepted : accepted trace = keys.forgotten ++ keys.entries
  before : ∀ time ∈ Redis.accepted trace, ∃ now ∈ keys.now, time ≤ now

theorem accepted_append (trace events : List (Int × RatelimiterStatus)) :
    Redis.accepted (trace ++ events) =
      Redis.accepted trace ++ Redis.accepted events := by
  rw [Redis.accepted, List.filter_append, List.map_append]
  rfl

theorem accepted_rejected (current : Int) :
    Redis.accepted [(current, .rejected)] = [] := rfl

theorem accepted_other {status : RatelimiterStatus} (current : Int)
    (other : status ≠ .rejected) :
    Redis.accepted [(current, status)] = [current] := by
  simp [Redis.accepted, other]

theorem step_answered
    (stepped : step limit keys current = some (next, events)) :
    (∀ last ∈ keys.now, last ≤ current) ∧
      ∃ after status, events = [(current, status)] ∧
        next = { after with now := some current } ∧
        Answered limit (keys.purge current) current after status := by
  simp only [step] at stepped
  split at stepped
  · rename_i ordered
    simp only [Option.some.injEq, Prod.mk.injEq] at stepped
    obtain ⟨rfl, rfl⟩ := stepped
    refine ⟨?_, _, _, rfl, rfl, ipRatelimiter_answered limit current _⟩
    intro last member
    rw [Option.mem_def] at member
    simpa [member] using ordered
  · cases stepped

theorem Recorded.times (recorded : Recorded trace keys)
    (ordered : ∀ last ∈ keys.now, last ≤ current) :
    ∀ time ∈ Redis.accepted trace, time ≤ current := by
  intro time member
  obtain ⟨now, known, before⟩ := recorded.before time member
  exact Int.le_trans before (ordered now known)

theorem Recorded.step (recorded : Recorded trace keys)
    (stepped : step limit keys current = some (next, events)) :
    Recorded (trace ++ events) next := by
  obtain ⟨ordered, after, status, rfl, rfl, answered⟩ :=
    step_answered stepped
  have times := recorded.times ordered
  have known := purge_entries keys current
  cases answered with
  | rejected _ =>
      constructor
      case accepted =>
        rw [accepted_append, accepted_rejected, List.append_nil,
          recorded.accepted]
        exact known.symm
      case before =>
        rw [accepted_append, accepted_rejected, List.append_nil]
        intro time member
        exact ⟨current, rfl, times time member⟩
  | accepted _ entries forgotten other _ =>
      constructor
      case accepted =>
        rw [accepted_append, accepted_other current other,
          recorded.accepted, forgotten, entries, ← List.append_assoc,
          known]
      case before =>
        rw [accepted_append, accepted_other current other]
        intro time member
        refine ⟨current, rfl, ?_⟩
        rcases List.mem_append.mp member with old | new
        · exact times time old
        · exact Int.le_of_eq (List.mem_singleton.mp new)

theorem run_recorded {allowed : IpKeys → Int → Prop}
    (run : Transition.Run (step limit) allowed {} trace keys) :
    Recorded trace keys :=
  run.invariant ⟨rfl, fun _ member => nomatch member⟩
    (fun recorded _ stepped => recorded.step stepped)

/-- One call keeps the promises exactly when it remembers what it needs. -/
theorem limited_step_iff (recorded : Recorded trace keys)
    (limited : Limited limit trace)
    (stepped : step limit keys current = some (next, events)) :
    Limited limit (trace ++ events) ↔ keys.Remembered limit current := by
  obtain ⟨ordered, after, status, rfl, rfl, answered⟩ :=
    step_answered stepped
  have times := recorded.times ordered
  have known := purge_entries keys current
  cases answered with
  | rejected found =>
      refine iff_of_true ?_ (.inl found)
      constructor
      case spaced =>
        rw [accepted_append, accepted_rejected, List.append_nil]
        exact limited.spaced
      case counted =>
        rw [Transition.eachEvent_append]
        refine ⟨limited.counted, ?_, trivial⟩
        intro other
        exact absurd rfl other
  | accepted none_there _ _ other counted =>
      have spaced : (Redis.accepted (trace ++ [(current, status)])).Pairwise
          (fun first second =>
            limit.slidingWindow * 1000 < second - first) ↔
          zcount (keys.purge current).forgotten
            (current - limit.slidingWindow * 1000) current = 0 := by
        rw [accepted_append, accepted_other current other,
          List.pairwise_append]
        simp only [limited.spaced, List.pairwise_singleton, true_and,
          List.forall_mem_singleton]
        rw [spaced_iff times, recorded.accepted, ← known, zcount_append,
          none_there, Nat.add_zero]
      have blocked : Transition.EachEvent
          (fun before call => call.2 ≠ .rejected →
            limit.traceThreshold + 1 ≤
              zcount (Redis.accepted before ++ [call.1])
                (call.1 - limit.traceCycle * 1000) call.1 →
            call.2 = .blocked) [] (trace ++ [(current, status)]) ↔
          (limit.traceThreshold ≤
              zcount (keys.purge current).forgotten
                (current - limit.traceCycle * 1000) current +
              zcount (keys.purge current).entries
                (current - limit.traceCycle * 1000) current →
            limit.traceThreshold ≤ zcount (keys.purge current).entries
              (current - limit.traceCycle * 1000) current) := by
        have sliding := limit.slidingWindow_pos
        have cycle := limit.slidingWindow_lt
        rw [Transition.eachEvent_append, and_iff_right limited.counted,
          Transition.eachEvent_cons, List.nil_append,
          and_iff_left (Transition.eachEvent_nil _)]
        dsimp only
        rw [counted, zcount_append, zcount_self (by omega),
          recorded.accepted, ← known, zcount_append]
        constructor
        · intro reached enough
          exact reached other (by omega)
        · intro reached _ enough
          exact reached (by omega)
      constructor
      · intro all
        refine .inr ⟨spaced.mp all.spaced, ?_⟩
        have reached := blocked.mp all.counted
        omega
      · intro remembered
        rcases remembered with found | ⟨kept, enough⟩
        · omega
        · refine ⟨spaced.mpr kept, blocked.mpr ?_⟩
          omega

/-- As long as every call remembers what it needs, the limiter keeps its
promises; a call that does not breaks one of them. -/
theorem run_limited
    (run : Transition.Run (step limit) (Remembered limit) {} trace keys) :
    Limited limit trace ∧
      ∀ current next events, step limit keys current = some (next, events) →
        (Limited limit (trace ++ events) ↔
          keys.Remembered limit current) := by
  have limited : Limited limit trace := by
    induction run with
    | refl => exact ⟨.nil, trivial⟩
    | snoc run remembered stepped induction =>
        exact (limited_step_iff (run_recorded run) induction stepped).mpr
          remembered
  refine ⟨limited, ?_⟩
  intro current next events stepped
  exact limited_step_iff (run_recorded run) limited stepped

instance decidableRemembered (limit : IpLimit) (keys : IpKeys)
    (current : Int) : Decidable (keys.Remembered limit current) :=
  inferInstanceAs (Decidable (_ ∨ _ ∧ (_ ∨ _)))

theorem run_limited_expired : ∃ trace keys,
    Transition.Run (step {}) (Remembered {}) {} trace keys ∧
      keys.forgotten = [0, 4000] ∧ Limited {} trace := by
  have lost : ∃ trace keys,
      Transition.Run (step {}) (Remembered {}) {} trace keys ∧
        keys.forgotten = [0, 4000] := by
    apply Transition.Run.exists_state_of_exec [0, 1000, 4000, 33000]
    decide
  obtain ⟨trace, keys, run, forgotten⟩ := lost
  exact ⟨trace, keys, run, forgotten, (run_limited run).1⟩

/-- The key takes an entry of the last second with it, and the next call is
let through; with a threshold of one, a second call is not blocked. -/
theorem expiry_forgets :
    (∃ trace keys, Transition.AnyRun (step {}) {} trace keys ∧
      ¬Limited {} trace) ∧
    ∃ trace keys, Transition.AnyRun (step { traceThreshold := 1 }) {} trace
      keys ∧ ¬Limited { traceThreshold := 1 } trace := by
  have early : ∃ trace keys, Transition.AnyRun (step {}) {} trace keys ∧
      accepted trace = [0, 29000, 30001] := by
    apply Transition.Run.exists_both_of_exec [0, 29000, 30001]
    decide
  have lenient : ∃ trace keys,
      Transition.AnyRun (step { traceThreshold := 1 }) {} trace keys ∧
        trace = [(0, .allowed), (29000, .blocked), (32001, .allowed)] := by
    apply Transition.Run.exists_both_of_exec [0, 29000, 32001]
    decide
  constructor
  · obtain ⟨trace, keys, run, let_through⟩ := early
    refine ⟨trace, keys, run, ?_⟩
    intro limited
    have spaced := limited.spaced
    rw [let_through] at spaced
    revert spaced
    decide
  · obtain ⟨trace, keys, run, rfl⟩ := lenient
    refine ⟨_, keys, run, ?_⟩
    intro limited
    have counted := limited.counted
    revert counted
    decide

end IpKeys

end Redis

end TinyChat
