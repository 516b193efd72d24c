import Mathlib.Data.List.Perm.Basic
import TinyChat.HttpGateway.Admission

/-!
# How often a handler runs

Within any window of a run the handler of a limited route runs at most as
often as the requests that were already behind the limiter and what the
bucket can grant: twice its capacity, and once more for every inflow window
since the oldest time that a limiter has given to its script.
-/

namespace TinyChat

namespace Redis

namespace TokenBucket

/-- A bucket at the end of a window in which `total` tokens were granted and
no script was given a time before `oldest`; only the first refill may come
earlier than an inflow window after it. -/
structure Windowed (limit : TokenLimit) (oldest total now : Int)
    (bucket : Bucket) : Prop where
  nonneg : 0 ≤ bucket.tokens
  capacity : bucket.tokens ≤ limit.capacity
  refreshed : bucket.lastRefreshed ≤ now
  refills : ∃ number : Nat,
    total + bucket.tokens ≤ limit.capacity * (1 + number) ∧
      (number = 0 ∨ (number - 1) * limit.inflow ≤
        bucket.lastRefreshed - oldest)

variable {limit : TokenLimit} {oldest total now later current : Int}
  {bucket : Bucket} {prefetch : Nat}

theorem Windowed.restart (windowed : Windowed limit oldest total now bucket)
    (other : Int) : Windowed limit other 0 now bucket where
  nonneg := windowed.nonneg
  capacity := windowed.capacity
  refreshed := windowed.refreshed
  refills := by
    have capacity := windowed.capacity
    refine ⟨0, ?_, .inl rfl⟩
    simpa using capacity

theorem windowed_full (limit : TokenLimit) (oldest : Int)
    (past : current ≤ now) :
    Windowed limit oldest 0 now (.full limit current) where
  nonneg := Int.natCast_nonneg _
  capacity := le_rfl
  refreshed := past
  refills := by
    refine ⟨0, ?_, .inl rfl⟩
    simp [Bucket.full]

theorem Windowed.wait (windowed : Windowed limit oldest total now bucket)
    (passed : now ≤ later) : Windowed limit oldest total later bucket :=
  { windowed with refreshed := windowed.refreshed.trans passed }

theorem Windowed.take (windowed : Windowed limit oldest total now bucket)
    (fits : ¬ bucket.tokens < prefetch) :
    Windowed limit oldest (total + prefetch) now (bucket.take prefetch) := by
  obtain ⟨number, bound, apart⟩ := windowed.refills
  have capacity := windowed.capacity
  rw [take_eq]
  constructor
  case nonneg => exact sub_nonneg.mpr (not_lt.mp fits)
  case capacity =>
    dsimp only
    omega
  case refreshed => exact windowed.refreshed
  case refills =>
    refine ⟨number, ?_, apart⟩
    dsimp only
    linarith

theorem Windowed.refill (windowed : Windowed limit oldest total now bucket)
    (passed : limit.inflow ≤ bucket.timePassed current)
    (within : oldest ≤ current) (past : current ≤ now) :
    Windowed limit oldest total now (bucket.refill limit current) := by
  have window := limit.inflow_pos
  have elapsed : bucket.timePassed current =
      current - bucket.lastRefreshed := by
    unfold Bucket.timePassed at passed ⊢
    omega
  obtain ⟨number, bound, apart⟩ := windowed.refills
  have nonneg := windowed.nonneg
  have flowed : 0 ≤ bucket.timePassed current * limit.rate :=
    mul_nonneg (by omega) (Int.natCast_nonneg _)
  unfold Bucket.refill
  constructor
  case nonneg =>
    exact le_min (add_nonneg nonneg flowed) (Int.natCast_nonneg _)
  case capacity => exact min_le_right _ _
  case refreshed => exact past
  case refills =>
    have full := min_le_right
      (bucket.tokens + bucket.timePassed current * limit.rate)
      (limit.capacity : Int)
    refine ⟨number + 1, ?_, .inr ?_⟩
    · push_cast
      linarith
    · push_cast
      rcases apart with none_yet | apart
      · rw [none_yet]
        simpa using within
      · rw [elapsed] at passed
        linarith

/-- A call of the script keeps the bounds of the window, whatever the times
of the other calls are. -/
theorem Windowed.answer (windowed : Windowed limit oldest total now bucket)
    (within : oldest ≤ current) (past : current ≤ now) (prefetch : Nat) :
    let answer := tokenRatelimiter limit current prefetch (some bucket)
    Windowed limit oldest
      (total + TokenCall.granted ⟨current, prefetch, answer.2⟩) now
      answer.1 := by
  have refused : RatelimiterStatus.blocked ≠ .allowed := by decide
  simp only [tokenRatelimiter]
  split
  · split
    · rename_i passed
      have refilled := windowed.refill passed within past
      split
      · rw [TokenCall.granted, if_neg refused, add_zero]
        exact refilled
      · rename_i fits
        exact refilled.take fits
    · rw [TokenCall.granted, if_neg refused, add_zero]
      exact windowed
  · rename_i fits
    exact windowed.take fits

theorem windowed_first (limit : TokenLimit) (oldest : Int)
    (past : current ≤ now) (prefetch : Nat) :
    let answer := tokenRatelimiter limit current prefetch none
    Windowed limit oldest
      (TokenCall.granted ⟨current, prefetch, answer.2⟩) now answer.1 := by
  have full := windowed_full limit oldest past
  simp only [tokenRatelimiter]
  split
  · exact full
  · rename_i fits
    have taken := full.take fits
    rw [zero_add] at taken
    exact taken

theorem Windowed.bound (windowed : Windowed limit oldest total now bucket)
    (within : oldest ≤ now) :
    total ≤ limit.capacity * (2 + (now - oldest) / limit.inflow) := by
  obtain ⟨number, bound, apart⟩ := windowed.refills
  have window := limit.inflow_pos
  have nonneg := windowed.nonneg
  have refreshed := windowed.refreshed
  have refills : (number : Int) ≤ 1 + (now - oldest) / limit.inflow := by
    rcases apart with none_yet | apart
    · have flowed := Int.ediv_nonneg (sub_nonneg.mpr within) window.le
      omega
    · have counted : (number : Int) - 1 ≤ (now - oldest) / limit.inflow := by
        rw [Int.le_ediv_iff_mul_le window]
        linarith
      omega
  have capacity := mul_le_mul_of_nonneg_left refills
    (Int.natCast_nonneg limit.capacity)
  linarith

end TokenBucket

end Redis

namespace HttpGateway

open Transition Auth Redis

theorem apiLimit_eq {first second : Endpoint} (one : first ∈ endpoints)
    (two : second ∈ endpoints) (same : first.handler = second.handler) :
    first.apiLimit = second.apiLimit := by
  have nodup : (endpoints.map Endpoint.handler).Nodup := by decide
  rw [List.inj_on_of_nodup_map nodup one two same]

/-- The request waits for the handler, which the limiter has allowed. -/
def Request.waits (handler : String) (request : Request) : Bool :=
  request.stage = .handling ∧ request.endpoint.handler = handler

/-- The handler runs. -/
def GatewayEvent.handles (handler : String) : GatewayEvent → Bool
  | .handled _ other _ _ _ => other = handler
  | _ => false

/-- The tokens that a handler is granted by an event. -/
def GatewayEvent.granted (handler : String) : GatewayEvent → Int
  | .apiLimited _ _ other call =>
      if other = handler then call.granted else 0
  | _ => 0

def waiting (handler : String) (gateway : Gateway) : Nat :=
  gateway.requests.countP (Request.waits handler)

def handledCount (handler : String) (events : List GatewayEvent) : Nat :=
  events.countP (GatewayEvent.handles handler)

def grantedTotal (handler : String) (events : List GatewayEvent) : Int :=
  (events.map (GatewayEvent.granted handler)).sum

/-- The events neither grant a token nor run the handler. -/
def Silent (handler : String) (events : List GatewayEvent) : Prop :=
  ∀ event ∈ events, event.handles handler = false ∧
    event.granted handler = 0

/-- Every route of the handler has the limit. -/
def Limited (handler : String) (limit : TokenLimit) : Prop :=
  ∀ endpoint ∈ endpoints,
    endpoint.handler = handler → endpoint.apiLimit = some limit

theorem grantedTotal_append (handler : String)
    (events later : List GatewayEvent) :
    grantedTotal handler (events ++ later) =
      grantedTotal handler events + grantedTotal handler later := by
  simp [grantedTotal]

theorem handledCount_append (handler : String)
    (events later : List GatewayEvent) :
    handledCount handler (events ++ later) =
      handledCount handler events + handledCount handler later :=
  List.countP_append

section

variable {handler : String} {limit : TokenLimit} {gateway : Gateway}
  {request : Request} {index : Nat}

theorem waits_eq_false (limited : Limited handler limit)
    {changed : Request} (known : changed.endpoint ∈ endpoints)
    (below : ∀ limit ∈ changed.endpoint.apiLimit,
      ¬ 3 ≤ changed.stage.rank) : changed.waits handler = false := by
  apply decide_eq_false
  rintro ⟨stage, same⟩
  apply below limit (limited _ known same)
  rw [stage]
  decide

theorem waiting_set_le (found : gateway.requests[index]? = some request)
    (changed : Request) :
    waiting handler (gateway.setRequest index changed) ≤
      waiting handler gateway +
        if changed.waits handler = true then 1 else 0 := by
  obtain ⟨bound, _⟩ := List.getElem?_eq_some_iff.mp found
  unfold waiting Gateway.setRequest
  rw [List.countP_set bound]
  omega

theorem waiting_respond_le (gateway : Gateway) (index : Nat) :
    waiting handler (gateway.respond index) ≤ waiting handler gateway :=
  (List.eraseIdx_sublist _ _).countP_le

theorem waiting_respond (found : gateway.requests[index]? = some request) :
    waiting handler (gateway.respond index) +
        (if request.waits handler = true then 1 else 0) =
      waiting handler gateway := by
  obtain ⟨bound, here⟩ := List.getElem?_eq_some_iff.mp found
  have same := (List.getElem_cons_eraseIdx_perm bound).countP_eq
    (Request.waits handler)
  rw [here, List.countP_cons] at same
  exact same

/-- The request is for one of the routes, and has come to its layer. -/
def Request.Known (now : Int) (request : Request) : Prop :=
  request.endpoint ∈ endpoints ∧ request.entered ≤ now

/-- All requests are known, also those that a limiter has given up. -/
structure Known (gateway : Gateway) : Prop where
  requests : ∀ request ∈ gateway.requests, request.Known gateway.now
  abandoned : ∀ request ∈ gateway.abandoned, request.Known gateway.now

theorem Known.found (known : Known gateway)
    (found : gateway.requests[index]? = some request) :
    request.Known gateway.now :=
  known.requests request (List.mem_of_getElem? found)

theorem Known.setRequest (known : Known gateway) (index : Nat)
    {changed : Request} (also : changed.Known gateway.now) :
    Known (gateway.setRequest index changed) where
  requests := by
    intro other member
    rcases List.mem_or_eq_of_mem_set member with earlier | rfl
    · exact known.requests other earlier
    · exact also
  abandoned := known.abandoned

theorem Known.respond (known : Known gateway) (index : Nat) :
    Known (gateway.respond index) where
  requests := fun other member =>
    known.requests other (List.mem_of_mem_eraseIdx member)
  abandoned := known.abandoned

theorem Known.abandon (known : Known gateway)
    (also : request.Known gateway.now) :
    Known (gateway.abandon request) where
  requests := known.requests
  abandoned := by
    intro other member
    rcases List.mem_append.mp member with earlier | new
    · exact known.abandoned other earlier
    · rw [List.mem_singleton.mp new]
      exact also

theorem Known.wait (known : Known gateway) {next : Gateway}
    (clock : gateway.now ≤ next.now)
    (requests : next.requests = gateway.requests)
    (abandoned : next.abandoned = gateway.abandoned) : Known next where
  requests := by
    intro request member
    rw [requests] at member
    obtain ⟨listed, entered⟩ := known.requests request member
    exact ⟨listed, entered.trans clock⟩
  abandoned := by
    intro request member
    rw [abandoned] at member
    obtain ⟨listed, entered⟩ := known.abandoned request member
    exact ⟨listed, entered.trans clock⟩

/-- What a step does for one handler: a request comes to wait only with a
token of the bucket, and a handler runs only for one that has waited. -/
structure Flow (handler : String) (limit : TokenLimit)
    (gateway next : Gateway) (events : List GatewayEvent) : Prop where
  known : Known next
  clock : gateway.now ≤ next.now
  count : (handledCount handler events : Int) + waiting handler next ≤
    waiting handler gateway + grantedTotal handler events
  bucket : next.buckets handler = gateway.buckets handler ∧
      grantedTotal handler events = 0 ∨
    ∃ current ≤ gateway.now,
      let answer :=
        tokenRatelimiter limit current 1 (gateway.buckets handler)
      (∃ number answered, .apiLimited number answered handler
        ⟨current, 1, answer.2⟩ ∈ events) ∧
      next.buckets handler = some answer.1 ∧
        grantedTotal handler events =
          TokenCall.granted ⟨current, 1, answer.2⟩

variable {next : Gateway} {events : List GatewayEvent}
  {action : GatewayAction} {libraries : Libraries}
  {tokens : TokenLibraries}

theorem Silent.handledCount (silent : Silent handler events) :
    handledCount handler events = 0 := by
  apply List.countP_eq_zero.mpr
  intro event member
  rw [(silent event member).1]
  exact Bool.false_ne_true

theorem Silent.grantedTotal (silent : Silent handler events) :
    grantedTotal handler events = 0 := by
  apply List.sum_eq_zero
  intro amount member
  obtain ⟨event, listed, rfl⟩ := List.mem_map.mp member
  exact (silent event listed).2

/-- Nothing is granted, and no handler runs. -/
theorem Flow.quiet (known : Known next) (clock : gateway.now ≤ next.now)
    (fewer : waiting handler next ≤ waiting handler gateway)
    (buckets : next.buckets = gateway.buckets)
    (silent : Silent handler events) :
    Flow handler limit gateway next events := by
  refine ⟨known, clock, ?_, .inl ⟨by rw [buckets], silent.grantedTotal⟩⟩
  rw [silent.handledCount, silent.grantedTotal]
  omega

theorem silent_account (happened : List AccountEvent) :
    Silent handler (happened.map .account) := by
  intro event member
  obtain ⟨_, _, rfl⟩ := List.mem_map.mp member
  exact ⟨rfl, rfl⟩

theorem silent_nil (handler : String) : Silent handler [] := by
  intro event member
  cases member

theorem silent_singleton {event : GatewayEvent}
    (silent : event.handles handler = false ∧ event.granted handler = 0) :
    Silent handler [event] := by
  intro other member
  rw [List.mem_singleton.mp member]
  exact silent

theorem Flow.respond (known : Known gateway) (index : Nat)
    (silent : Silent handler events) :
    Flow handler limit gateway (gateway.respond index) events :=
  .quiet (known.respond index) (Int.le_refl _)
    (waiting_respond_le gateway index) rfl silent

/-- A request goes on, but not to the handler. -/
theorem Flow.setRequest (known : Known gateway)
    (limited : Limited handler limit)
    (found : gateway.requests[index]? = some request) {changed : Request}
    (also : changed.Known gateway.now)
    (below : ∀ limit ∈ changed.endpoint.apiLimit,
      ¬ 3 ≤ changed.stage.rank)
    (silent : Silent handler events) :
    Flow handler limit gateway (gateway.setRequest index changed)
      events := by
  have outside := waits_eq_false limited also.1 below
  have bound := @waiting_set_le handler gateway request index found changed
  rw [outside] at bound
  exact .quiet (known.setRequest index also) (Int.le_refl _) bound rfl
    silent

/-- A layer before the limiter of the handler, or that limiter without an
answer. -/
theorem Flow.proceed (known : Known gateway)
    (limited : Limited handler limit)
    (found : gateway.requests[index]? = some request) (stage : Stage)
    (answer : Option Nat)
    (below : answer = none → ∀ limit ∈ request.endpoint.apiLimit,
      ¬ 3 ≤ stage.rank)
    (silent : Silent handler events) :
    let proceeded := gateway.proceed index request stage answer
    Flow handler limit gateway proceeded.1 (events ++ proceeded.2) := by
  cases answer with
  | none =>
      simp only [Gateway.proceed, List.append_nil]
      have also := (known.found found).1
      exact .setRequest known limited found ⟨also, Int.le_refl _⟩
        (below rfl) silent
  | some status =>
      apply Flow.respond known
      intro event member
      rcases List.mem_append.mp member with earlier | new
      · exact silent event earlier
      · rw [List.mem_singleton.mp new]
        exact ⟨rfl, rfl⟩

theorem Flow.authenticated (known : Known gateway)
    (limited : Limited handler limit)
    (found : gateway.requests[index]? = some request)
    (token : Option String) (authentication : Authentication) :
    let entered := gateway.authenticated index request token authentication
    Flow handler limit gateway entered.1 entered.2 := by
  obtain ⟨_, _, api⟩ := request.endpoint.afterAuthentication_rank
  have also := (known.found found).1
  cases authentication with
  | uid uid =>
      exact .setRequest known limited found ⟨also, Int.le_refl _⟩ api
        (silent_singleton ⟨rfl, rfl⟩)
  | refreshed uid accessToken refreshToken =>
      exact .setRequest known limited found ⟨also, Int.le_refl _⟩ api
        (silent_singleton ⟨rfl, rfl⟩)
  | error status info =>
      exact .respond known index (silent_singleton ⟨rfl, rfl⟩)
  | raised => exact .respond known index (silent_singleton ⟨rfl, rfl⟩)

theorem granted_one (time : Int) (status : RatelimiterStatus) :
    TokenCall.granted ⟨time, 1, status⟩ =
      if status = .allowed then 1 else 0 := rfl

theorem Flow.runApiLimiter (limited : Limited handler limit)
    (listed : request.Known gateway.now) {own : TokenLimit}
    (api : request.endpoint.apiLimit = some own) (answered : Bool) :
    let ran := gateway.runApiLimiter request own
    let event := Gateway.apiLimited request answered ran.2
    (request.endpoint.handler = handler → event.granted handler =
      if ran.2 = .allowed then 1 else 0) ∧
    (request.endpoint.handler ≠ handler → event.granted handler = 0) ∧
    (ran.1.buckets handler = gateway.buckets handler ∧
        event.granted handler = 0 ∨
      ∃ current ≤ gateway.now,
        let answer :=
          tokenRatelimiter limit current 1 (gateway.buckets handler)
        (∃ number answered, event = .apiLimited number answered handler
          ⟨current, 1, answer.2⟩) ∧
        ran.1.buckets handler = some answer.1 ∧
          event.granted handler =
            TokenCall.granted ⟨current, 1, answer.2⟩) := by
  by_cases same : request.endpoint.handler = handler
  · have equal : own = limit := by
      have both := limited _ listed.1 same
      rw [api] at both
      exact Option.some.inj both
    subst equal same
    refine ⟨fun _ => ?_, fun different => absurd rfl different,
      .inr ⟨request.entered, listed.2, ⟨request.number, answered, ?_⟩, ?_,
        ?_⟩⟩
    · simp [Gateway.apiLimited, GatewayEvent.granted, granted_one]
    · rfl
    · simp [Gateway.runApiLimiter]
    · simp [Gateway.apiLimited, GatewayEvent.granted,
        Gateway.runApiLimiter]
  · refine ⟨fun equal => absurd equal same, fun _ => if_neg same,
      .inl ⟨?_, if_neg same⟩⟩
    exact Function.update_of_ne (Ne.symm same) _ _

theorem Flow.executeApiLimiter (known : Known gateway)
    (limited : Limited handler limit) (listed : request.Known gateway.now)
    {own : TokenLimit} (api : request.endpoint.apiLimit = some own) :
    let ran := gateway.runApiLimiter request own
    Flow handler limit gateway ran.1
      [Gateway.apiLimited request false ran.2] := by
  intro ran
  obtain ⟨grants, ignores, bucket⟩ :=
    Flow.runApiLimiter limited listed api false
  have nonneg : 0 ≤ (Gateway.apiLimited request false ran.2).granted
      handler := by
    by_cases same : request.endpoint.handler = handler
    · rw [grants same]
      split <;> omega
    · rw [ignores same]
  have still : Known ran.1 := known.wait (Int.le_refl _) rfl rfl
  refine ⟨still, Int.le_refl _, ?_, ?_⟩
  · have total : grantedTotal handler
        [Gateway.apiLimited request false ran.2] =
          (Gateway.apiLimited request false ran.2).granted handler := by
      simp [grantedTotal]
    rw [total]
    have none_handled : handledCount handler
        [Gateway.apiLimited request false ran.2] = 0 := rfl
    rw [none_handled]
    have same : waiting handler ran.1 = waiting handler gateway := rfl
    rw [same]
    omega
  · simp only [grantedTotal, List.map_singleton, List.sum_singleton,
      List.mem_singleton]
    rcases bucket with kept | ⟨current, past, ⟨number, answered, named⟩,
      drawn⟩
    · exact .inl kept
    · exact .inr ⟨current, past, ⟨number, answered, named.symm⟩, drawn⟩

theorem waiting_proceed_le (found : gateway.requests[index]? = some request)
    (answer : Option Nat) :
    waiting handler (gateway.proceed index request .handling answer).1 ≤
      waiting handler gateway +
        if answer = none ∧ request.endpoint.handler = handler then 1
        else 0 := by
  cases answer with
  | none =>
      apply (waiting_set_le found _).trans
      simp [Request.waits]
  | some status =>
      exact (waiting_respond_le gateway index).trans (Nat.le_add_right _ _)

theorem Flow.apiLimit (known : Known gateway)
    (limited : Limited handler limit)
    (found : gateway.requests[index]? = some request) {own : TokenLimit}
    (api : request.endpoint.apiLimit = some own) :
    let ran := gateway.runApiLimiter request own
    let proceeded := ran.1.proceed index request .handling
      (apiLimiter (.success ran.2))
    Flow handler limit gateway proceeded.1
      (Gateway.apiLimited request true ran.2 :: proceeded.2) := by
  intro ran proceeded
  obtain ⟨grants, ignores, bucket⟩ :=
    Flow.runApiLimiter limited (known.found found) api true
  have fewer : waiting handler proceeded.1 ≤ waiting handler gateway +
      if apiLimiter (.success ran.2) = none ∧
        request.endpoint.handler = handler then 1 else 0 :=
    @waiting_proceed_le handler ran.1 request index found _
  have silent : Silent handler proceeded.2 := by
    simp only [proceeded, Gateway.proceed]
    split
    · exact silent_nil handler
    · exact silent_singleton ⟨rfl, rfl⟩
  have handled : handledCount handler
      (Gateway.apiLimited request true ran.2 :: proceeded.2) = 0 := by
    rw [handledCount, List.countP_cons_of_neg Bool.false_ne_true]
    exact silent.handledCount
  have rest : (proceeded.2.map (GatewayEvent.granted handler)).sum = 0 :=
    silent.grantedTotal
  have total : grantedTotal handler
      (Gateway.apiLimited request true ran.2 :: proceeded.2) =
        (Gateway.apiLimited request true ran.2).granted handler := by
    rw [grantedTotal, List.map_cons, List.sum_cons, rest, add_zero]
  have still : Known ran.1 := known.wait (Int.le_refl _) rfl rfl
  refine ⟨?_, ?_, ?_, ?_⟩
  · simp only [proceeded, Gateway.proceed]
    split
    · exact still.setRequest index ⟨(known.found found).1, Int.le_refl _⟩
    · exact still.respond index
  · simp only [proceeded, Gateway.proceed]
    split
    · exact Int.le_refl _
    · exact Int.le_refl _
  · rw [handled, total]
    by_cases same : request.endpoint.handler = handler
    · rw [grants same]
      cases status : ran.2 with
      | allowed =>
          simp only [status, apiLimiter, same] at fewer
          simp only [if_true]
          simp only [true_and, if_true] at fewer
          omega
      | rejected =>
          simp only [status, apiLimiter, reduceCtorEq, false_and, if_false]
            at fewer
          simp only [reduceCtorEq, if_false]
          omega
      | blocked =>
          simp only [status, apiLimiter, reduceCtorEq, false_and, if_false]
            at fewer
          simp only [reduceCtorEq, if_false]
          omega
    · rw [ignores same]
      simp only [same, and_false, if_false] at fewer
      omega
  · rw [total]
    have kept : proceeded.1.buckets = ran.1.buckets := by
      simp only [proceeded, Gateway.proceed]
      split <;> rfl
    rw [kept]
    rcases bucket with kept | ⟨current, past, ⟨number, answered, named⟩,
      drawn⟩
    · exact .inl kept
    · exact .inr ⟨current, past,
        ⟨number, answered, named ▸ List.mem_cons_self⟩, drawn⟩

theorem Flow.handle (known : Known gateway)
    (found : gateway.requests[index]? = some request)
    (stage : request.stage = .handling) (uid : Option Nat) (time : Int) :
    Flow handler limit gateway (gateway.respond index)
      [.handled request.number request.endpoint.handler request.key uid
        time] := by
  refine ⟨known.respond index, Int.le_refl _, ?_, .inl ⟨rfl, rfl⟩⟩
  have left : waiting handler (gateway.respond index) + _ =
      waiting handler gateway := waiting_respond found
  have granted : grantedTotal handler [.handled request.number
      request.endpoint.handler request.key uid time] = 0 := rfl
  rw [granted]
  by_cases same : request.endpoint.handler = handler
  · simp only [Request.waits, stage, same, and_self, decide_true, if_true]
      at left
    simp only [handledCount, List.countP_singleton, GatewayEvent.handles,
      same, decide_true, if_true]
    omega
  · simp only [handledCount, List.countP_singleton, GatewayEvent.handles,
      same, decide_false, Bool.false_eq_true, if_false]
    omega

theorem Flow.of_abandon
    (flow : Flow handler limit (gateway.abandon request) next events) :
    Flow handler limit gateway next events :=
  ⟨flow.known, flow.clock, flow.count, flow.bucket⟩

theorem step_flow (limited : Limited handler limit)
    (known : Known gateway)
    (stepped : Gateway.step libraries tokens gateway action =
      some (next, events)) :
    Flow handler limit gateway next events := by
  cases action with
  | account action =>
      obtain ⟨⟨moved, reports⟩, happened, equality⟩ :=
        Option.map_eq_some_iff.mp stepped
      cases equality
      have clock : gateway.now ≤ moved.now := registration_now happened
      exact .quiet (known.wait clock rfl rfl) clock (Nat.le_refl _) rfl
        (silent_account _)
  | authLogin email password ended stored =>
      simp only [Gateway.step] at stepped
      have login := Option.some.inj stepped
      unfold Gateway.authLogin at login
      split at login
      · split at login
        · cases login
          refine .quiet (known.wait (Int.le_refl _) rfl rfl)
            (Int.le_refl _) (Nat.le_refl _) rfl ?_
          intro event member
          rcases List.mem_cons.mp member with rfl | later
          · exact ⟨rfl, rfl⟩
          · rw [List.mem_singleton.mp later]
            exact ⟨rfl, rfl⟩
        · cases login
          exact .quiet known (Int.le_refl _) (Nat.le_refl _) rfl
            (silent_singleton ⟨rfl, rfl⟩)
      · cases login
        exact .quiet known (Int.le_refl _) (Nat.le_refl _) rfl
          (silent_singleton ⟨rfl, rfl⟩)
  | arrive address place authorization refresh transport =>
      simp only [Gateway.step] at stepped
      split at stepped
      · cases stepped
      · rename_i endpoint listed
        have member := List.mem_of_getElem? listed
        split at stepped
        · cases stepped
          obtain ⟨_, _, api⟩ := endpoint.afterAdmission_rank
          refine .quiet ⟨?_, known.abandoned⟩ (Int.le_refl _) ?_ rfl
            (silent_singleton ⟨rfl, rfl⟩)
          · intro other present
            rcases List.mem_append.mp present with earlier | new
            · exact known.requests other earlier
            · rw [List.mem_singleton.mp new]
              exact ⟨member, Int.le_refl _⟩
          · simp only [waiting, List.countP_append, List.countP_singleton]
            rw [waits_eq_false limited member api]
            exact Nat.le_refl _
        · rename_i status _
          cases stepped
          refine .quiet (known.wait (Int.le_refl _) rfl rfl)
            (Int.le_refl _) (Nat.le_refl _) rfl ?_
          apply silent_singleton
          split <;> exact ⟨rfl, rfl⟩
  | authenticate index service authRefresh =>
      simp only [Gateway.step] at stepped
      split at stepped
      · cases stepped
      · rename_i request found
        split at stepped
        · have entered := Flow.authenticated known limited found
            (request.authorization.bind bearer) (authenticateToken
              (service.map (fun transport token =>
                transport.carry (some (gateway.authToken tokens token))))
              (fun _ => authRefresh) request.authorization request.refresh)
          rw [Option.some.inj stepped] at entered
          exact entered
        · cases stepped
  | executeIpLimiter index =>
      simp only [Gateway.step] at stepped
      split at stepped
      · cases stepped
      · split at stepped
        · cases stepped
          exact .quiet (known.wait (Int.le_refl _) rfl rfl)
            (Int.le_refl _) (Nat.le_refl _) rfl
            (silent_singleton ⟨rfl, rfl⟩)
        · cases stepped
  | ipLimit index transport =>
      simp only [Gateway.step] at stepped
      split at stepped
      · cases stepped
      · rename_i request found
        obtain ⟨_, api⟩ := request.endpoint.afterIpLimiter_rank
        split at stepped
        · rename_i own stage limits
          split at stepped
          · cases stepped
            let ran := gateway.runIpLimiter request own
            have still : ran.1.requests[index]? = some request := found
            have silent : Silent handler
                [gateway.ipLimited request own true ran.2] :=
              silent_singleton ⟨rfl, rfl⟩
            have routed : Known ran.1 := known.wait (Int.le_refl _) rfl rfl
            have flow := Flow.proceed routed limited still
              request.endpoint.afterIpLimiter (ipLimiter (.success ran.2))
              (fun _ => api) silent
            exact ⟨flow.known, flow.clock, flow.count, flow.bucket⟩
          · have flow := Flow.proceed (known.abandon (known.found found))
              limited found request.endpoint.afterIpLimiter
              (ipLimiter (transport.carry none)) (fun _ => api)
              (silent_nil handler)
            rw [Option.some.inj stepped] at flow
            exact flow.of_abandon
        · cases stepped
  | executeApiLimiter index =>
      simp only [Gateway.step] at stepped
      split at stepped
      · cases stepped
      · rename_i request found
        split at stepped
        · rename_i own stage api
          cases stepped
          exact .executeApiLimiter known limited (known.found found) api
        · cases stepped
  | apiLimit index transport =>
      simp only [Gateway.step] at stepped
      split at stepped
      · cases stepped
      · rename_i request found
        split at stepped
        · rename_i own stage api
          split at stepped
          · cases stepped
            exact .apiLimit known limited found api
          · have flow := Flow.proceed (known.abandon (known.found found))
              limited found .handling (apiLimiter (transport.carry none))
              (fun passed => absurd (Tracked.apiLimiter_none passed)
                Tracked.carry_none)
              (silent_nil handler)
            rw [Option.some.inj stepped] at flow
            exact flow.of_abandon
        · cases stepped
  | executeAbandoned index =>
      simp only [Gateway.step] at stepped
      split at stepped
      · cases stepped
      · rename_i request left
        have listed := known.abandoned request (List.mem_of_getElem? left)
        split at stepped
        · cases stepped
          exact .quiet (known.wait (Int.le_refl _) rfl rfl)
            (Int.le_refl _) (Nat.le_refl _) rfl
            (silent_singleton ⟨rfl, rfl⟩)
        · rename_i own _ api
          cases stepped
          exact .executeApiLimiter known limited listed api
        · cases stepped
  | handle index =>
      simp only [Gateway.step] at stepped
      split at stepped
      · cases stepped
      · rename_i request found
        split at stepped
        · rename_i stage
          cases stepped
          exact .handle known found stage _ _
        · cases stepped

end

/-! ## Windows -/

/-- The bucket at the end of a window, if there is one. -/
def Drawn (limit : TokenLimit) (start total now : Int) :
    Option Bucket → Prop
  | none => total = 0
  | some bucket => TokenBucket.Windowed limit start total now bucket

/-- The event is not a script of the handler with an older time. -/
def GatewayEvent.since (handler : String) (oldest : Int) :
    GatewayEvent → Bool
  | .apiLimited _ _ other call => other ≠ handler ∨ oldest ≤ call.current
  | _ => true

/-- No script of the handler was given an older time. -/
def Dated (handler : String) (oldest : Int) (events : List GatewayEvent) :
    Prop :=
  ∀ event ∈ events, event.since handler oldest = true

instance (handler : String) (oldest : Int) (events : List GatewayEvent) :
    Decidable (Dated handler oldest events) :=
  inferInstanceAs (Decidable (∀ event ∈ events, _))

/-- What has happened in a window. -/
structure Paced (handler : String) (limit : TokenLimit) (oldest : Int)
    (start : Gateway) (events : List GatewayEvent) (gateway : Gateway) :
    Prop where
  known : Known gateway
  count : (handledCount handler events : Int) + waiting handler gateway ≤
    waiting handler start + grantedTotal handler events
  drawn : Drawn limit oldest (grantedTotal handler events) gateway.now
    (gateway.buckets handler)

section

variable {handler : String} {limit : TokenLimit} {oldest : Int}
  {start gateway next : Gateway} {events later : List GatewayEvent}
  {libraries : Libraries} {tokens : TokenLibraries}

theorem Dated.of_mem (dated : Dated handler oldest events)
    {number : Nat} {answered : Bool} {call : TokenCall}
    (member : .apiLimited number answered handler call ∈ events) :
    oldest ≤ call.current := by
  simpa [GatewayEvent.since] using dated _ member

theorem dated_append :
    Dated handler oldest (events ++ later) ↔
      Dated handler oldest events ∧ Dated handler oldest later :=
  List.forall_mem_append

theorem exists_dated (handler : String) (events : List GatewayEvent) :
    ∃ oldest, Dated handler oldest events := by
  induction events with
  | nil => exact ⟨0, fun _ member => absurd member List.not_mem_nil⟩
  | cons event events induction =>
      obtain ⟨oldest, dated⟩ := induction
      cases event with
      | apiLimited number answered other call =>
          refine ⟨min oldest call.current, List.forall_mem_cons.mpr ⟨?_, ?_⟩⟩
          · simp [GatewayEvent.since]
          · intro event member
            have older := dated event member
            cases event with
            | apiLimited number answered other call =>
                simp only [GatewayEvent.since, decide_eq_true_eq] at older ⊢
                rcases older with different | older
                · exact .inl different
                · exact .inr ((min_le_left _ _).trans older)
            | _ => rfl
      | _ => exact ⟨oldest, List.forall_mem_cons.mpr ⟨rfl, dated⟩⟩

theorem paced_empty (handler : String) (limit : TokenLimit)
    (oldest : Int) : Paced handler limit oldest {} [] {} where
  known :=
    ⟨fun _ member => absurd member List.not_mem_nil,
      fun _ member => absurd member List.not_mem_nil⟩
  count := Int.le_refl _
  drawn := rfl

theorem Paced.restart (other : Int)
    (paced : Paced handler limit oldest start events gateway) :
    Paced handler limit other gateway [] gateway where
  known := paced.known
  count := by
    simp [handledCount, grantedTotal]
  drawn := by
    have drawn := paced.drawn
    cases held : gateway.buckets handler with
    | none => rfl
    | some bucket =>
        rw [held] at drawn
        exact TokenBucket.Windowed.restart drawn other

theorem Paced.flow
    (paced : Paced handler limit oldest start events gateway)
    (dated : Dated handler oldest later)
    (flow : Flow handler limit gateway next later) :
    Paced handler limit oldest start (events ++ later) next where
  known := flow.known
  count := by
    have earlier := paced.count
    have new := flow.count
    rw [handledCount_append, grantedTotal_append]
    push_cast
    omega
  drawn := by
    have drawn := paced.drawn
    rw [grantedTotal_append]
    rcases flow.bucket with ⟨kept, silent⟩ |
      ⟨current, past, ⟨number, answered, member⟩, filled, granted⟩
    · rw [kept, silent, add_zero]
      cases held : gateway.buckets handler with
      | none =>
          rw [held] at drawn
          exact drawn
      | some bucket =>
          rw [held] at drawn
          exact TokenBucket.Windowed.wait drawn flow.clock
    · have within : oldest ≤ current := dated.of_mem member
      have reached : current ≤ next.now := past.trans flow.clock
      rw [filled, granted]
      cases held : gateway.buckets handler with
      | none =>
          rw [held] at drawn
          have none_yet : grantedTotal handler events = 0 := drawn
          rw [none_yet, zero_add]
          exact TokenBucket.windowed_first limit oldest reached 1
      | some bucket =>
          rw [held] at drawn
          have waited := TokenBucket.Windowed.wait drawn flow.clock
          exact waited.answer within reached 1

theorem Paced.run (limited : Limited handler limit)
    (paced : Paced handler limit oldest start [] start)
    (run : AnyRun (Gateway.step libraries tokens) start events gateway)
    (dated : Dated handler oldest events) :
    Paced handler limit oldest start events gateway := by
  induction run with
  | refl => exact paced
  | snoc _ _ stepped induction =>
      obtain ⟨earlier, last⟩ := dated_append.mp dated
      have before := induction earlier
      exact before.flow last (step_flow limited before.known stepped)

end

/-- In any window of a run, whatever is lost, late or executed twice, the
handler of a limited route runs at most as often as the requests that had
passed its limiter before, and what the bucket grants: twice its capacity, and
its capacity again for every inflow window since the oldest time that a
script of the window was given. -/
theorem handled_window {libraries : Libraries} {tokens : TokenLibraries}
    {trace events : List GatewayEvent} {gateway next : Gateway}
    {endpoint : Endpoint} {limit : TokenLimit} {oldest : Int}
    (listed : endpoint ∈ endpoints)
    (limited : endpoint.apiLimit = some limit)
    (reached : AnyRun (Gateway.step libraries tokens) {} trace gateway)
    (run : AnyRun (Gateway.step libraries tokens) gateway events next)
    (dated : Dated endpoint.handler oldest events)
    (within : oldest ≤ next.now) :
    (handledCount endpoint.handler events : Int) ≤
      waiting endpoint.handler gateway +
        limit.capacity * (2 + (next.now - oldest) / limit.inflow) := by
  have alike : Limited endpoint.handler limit := by
    intro other member same
    rw [apiLimit_eq member listed same, limited]
  obtain ⟨first, dates⟩ := exists_dated endpoint.handler trace
  have before := Paced.run alike
    (paced_empty endpoint.handler limit first) reached dates
  have paced := Paced.run alike (before.restart oldest) run dated
  have count := paced.count
  have granted : grantedTotal endpoint.handler events ≤
      limit.capacity * (2 + (next.now - oldest) / limit.inflow) := by
    have drawn := paced.drawn
    cases held : next.buckets endpoint.handler with
    | none =>
        rw [held] at drawn
        have none_yet : grantedTotal endpoint.handler events = 0 := drawn
        have passed := Int.ediv_nonneg (sub_nonneg.mpr within)
          limit.inflow_pos.le
        rw [none_yet]
        exact mul_nonneg (Int.natCast_nonneg _) (by omega)
    | some bucket =>
        rw [held] at drawn
        exact TokenBucket.Windowed.bound drawn within
  omega

/-- A request of `query_user` whose limiter waits for Redis. -/
def sampleWaiting : List GatewayAction :=
  sampleRequests.take (sampleRequests.length - 2) ++
    [.account (.wait 700), .apiLimit 0 .answered, .handle 0]

/-- The script is executed 700 milliseconds after the time that it is
given. -/
theorem handled_window_sample :
    ∃ (events : List GatewayEvent) (next : Gateway),
      next.now = 700 ∧ handledCount "query_user" events = 1 ∧
      (handledCount "query_user" events : Int) ≤
        1024 * (2 + 700 / 1000) := by
  obtain ⟨events, next, run, once, dated, now⟩ :
      ∃ (events : List GatewayEvent) (next : Gateway),
        AnyRun (Gateway.step sampleLibraries sampleTokens) {} events next ∧
        handledCount "query_user" events = 1 ∧
        Dated "query_user" 0 events ∧ next.now = 700 := by
    apply Run.exists_both_of_exec sampleWaiting
    decide +kernel
  have listed : endpoints.get ⟨3, by decide⟩ ∈ endpoints :=
    List.get_mem _ _
  have bound := handled_window listed rfl .refl run dated
    (by rw [now]; decide)
  refine ⟨events, next, now, once, ?_⟩
  simpa [endpoints, waiting, now, TokenLimit.inflow] using bound

end HttpGateway

end TinyChat
