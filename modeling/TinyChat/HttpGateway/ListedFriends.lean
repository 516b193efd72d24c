import TinyChat.HttpGateway.Friendships

/-!
# Lists of friends and their owners

A response of `get_friends` in a run is the list of the user whom the request
was handled for, in the state in which it was handled.
-/

namespace TinyChat

namespace HttpGateway

open Transition Auth User

/-- The user had been authenticated for a request by a token from a login at
most ten days before. -/
def AuthenticatedFor (before : List FriendGatewayEvent)
    (number uid : Nat) : Prop :=
  ∃ token time email password start,
    .gateway (.authenticated number uid token time) ∈ before ∧
    .gateway (.loggedIn uid email password token start) ∈ before ∧
    start ≤ time ∧ time < start + expirationDelta * second

/-- The place of a response in a run: the request is handled for the user in
the state after the events `before`, which is where the list is from, and the
run goes on with the events `after`. -/
structure Served (libraries : Libraries) (tokens : TokenLibraries)
    (trace : List FriendGatewayEvent) (system : FriendGateway)
    (number uid : Nat) (response : FriendListResponse)
    (before after : List FriendGatewayEvent) (state next : FriendGateway)
    (index : Nat) (calls : ListCalls) (key : String) (time : Int) :
    Prop where
  split : trace = before ++
    .gateway (.handled number "get_friends" key (some uid) time) ::
      .listed number uid response :: after
  earlier : Run (FriendGateway.step libraries tokens)
    (FriendGateway.Signed tokens) {} before state
  stepped : FriendGateway.step libraries tokens state
      (.getFriends index calls) =
    some (next,
      [.gateway (.handled number "get_friends" key (some uid) time),
        .listed number uid response])
  later : Run (FriendGateway.step libraries tokens)
    (FriendGateway.Signed tokens) next after system
  authenticated : AuthenticatedFor before number uid
  answered : response = state.friendList calls uid

variable {libraries : Libraries} {tokens : TokenLibraries}
  {trace events : List FriendGatewayEvent} {system next : FriendGateway}
  {number uid : Nat} {response : FriendListResponse}

theorem Served.snoc {before after : List FriendGatewayEvent}
    {state moved : FriendGateway} {index : Nat} {calls : ListCalls}
    {key : String} {time : Int} {action : FriendGatewayAction}
    (served : Served libraries tokens trace system number uid response
      before after state moved index calls key time)
    (signed : FriendGateway.Signed tokens system action)
    (stepped : FriendGateway.step libraries tokens system action =
      some (next, events)) :
    Served libraries tokens (trace ++ events) next number uid response
      before (after ++ events) state moved index calls key time where
  split := by
    rw [served.split]
    simp
  earlier := served.earlier
  stepped := served.stepped
  later := served.later.snoc signed stepped
  authenticated := served.authenticated
  answered := served.answered

theorem not_listed (happened : List GatewayEvent)
    (reports : List ConfirmReport)
    (report : ConfirmReport → FriendGatewayEvent)
    (other : ∀ told, report told ≠ .listed number uid response) :
    .listed number uid response ∉
      happened.map .gateway ++ reports.map report := by
  intro member
  rcases List.mem_append.mp member with gateway | told
  · obtain ⟨_, -, same⟩ := List.mem_map.mp gateway
    cases same
  · obtain ⟨_, -, same⟩ := List.mem_map.mp told
    exact other _ same

/-- Only the route `get_friends` lists anybody. -/
theorem FriendGateway.listed_step {action : FriendGatewayAction}
    (stepped : FriendGateway.step libraries tokens system action =
      some (next, events))
    (listed : .listed number uid response ∈ events) :
    ∃ index calls after happened,
      action = .getFriends index calls ∧
      system.gateway.handling index "get_friends" = some (number, uid) ∧
      Gateway.step libraries tokens system.gateway (.handle index) =
        some (after, happened) ∧
      events = happened.map .gateway ++ [.listed number uid response] ∧
      response = system.friendList calls uid := by
  have handled : ∀ {index : Nat} {action : FriendAction} {told : Nat},
      system.handle libraries tokens index action (.confirming told) =
        some (next, events) → False := by
    intro index action told handled
    obtain ⟨served, -, rest⟩ := Option.bind_eq_some_iff.mp handled
    obtain ⟨result, -, equality⟩ := Option.map_eq_some_iff.mp rest
    cases equality
    refine not_listed _ _ _ ?_ listed
    intro report same
    cases same
  cases action with
  | gateway action =>
      obtain ⟨⟨after, happened⟩, -, equality⟩ :=
        Option.map_eq_some_iff.mp stepped
      cases equality
      obtain ⟨_, -, same⟩ := List.mem_map.mp listed
      cases same
  | friendRequest index addressId requestMsg published =>
      obtain ⟨request, -, moved⟩ := Option.bind_eq_some_iff.mp stepped
      exact (handled moved).elim
  | friendConfirm index validAppid addressId action flicked published =>
      obtain ⟨request, -, moved⟩ := Option.bind_eq_some_iff.mp stepped
      exact (handled moved).elim
  | getFriends index calls =>
      obtain ⟨⟨told, user⟩, handling, moved⟩ :=
        Option.bind_eq_some_iff.mp stepped
      obtain ⟨⟨after, happened⟩, served, equality⟩ :=
        Option.map_eq_some_iff.mp moved
      cases equality
      rcases List.mem_append.mp listed with gateway | own
      · obtain ⟨_, -, same⟩ := List.mem_map.mp gateway
        cases same
      · cases List.mem_singleton.mp own
        exact ⟨index, calls, after, happened, rfl, handling, served, rfl,
          rfl⟩
  | worker action =>
      simp only [FriendGateway.step] at stepped
      split at stepped
      · obtain ⟨result, -, equality⟩ := Option.map_eq_some_iff.mp stepped
        cases equality
        obtain ⟨_, -, same⟩ := List.mem_map.mp listed
        cases same
      · cases stepped

/-- Every response of `get_friends` is the list of the user whom its request
is handled for, in the state in which it is handled. -/
theorem listed_to_owner (lawful : tokens.Lawful)
    (run : Run (FriendGateway.step libraries tokens)
      (FriendGateway.Signed tokens) {} trace system)
    (listed : .listed number uid response ∈ trace) :
    ∃ before after state next index calls key time,
      Served libraries tokens trace system number uid response before after
        state next index calls key time := by
  induction run with
  | refl => cases listed
  | snoc earlier signed stepped induction =>
      rcases List.mem_append.mp listed with old | new
      · obtain ⟨before, after, state, next, index, calls, key, time,
          served⟩ := induction old
        exact ⟨before, _, state, next, index, calls, key, time,
          served.snoc signed stepped⟩
      · obtain ⟨index, calls, after, happened, rfl, handling, moved, rfl,
          answered⟩ := FriendGateway.listed_step stepped new
        obtain ⟨token, time, key, ended, served, authenticated, email,
          password, start, login, fresh⟩ :=
            (run_vouched lawful earlier).authorised (by decide) handling
        rw [served] at moved
        cases moved
        exact ⟨_, [], _, _, index, calls, key, ended,
          { split := rfl
            earlier := earlier
            stepped := stepped
            later := .refl
            authenticated := ⟨token, time, email, password, start,
              authenticated, login, fresh⟩
            answered := answered }⟩

/-- The first of the two users asks for the list. -/
def sampleListing : List FriendGatewayAction :=
  sampleFriendship ++
    [.gateway (.arrive "here" 6 (some "Bearer a") none .answered),
      .gateway (.authenticate 0 (some .answered) .failed),
      .getFriends 0 reachingCalls]

theorem listed_to_owner_sample :
    ∃ trace before state calls,
      .listed 1 1 (.data [eve]) ∈ trace ∧ before <+: trace ∧
      AuthenticatedFor before 1 1 ∧
      .data [eve] = FriendGateway.friendList state calls 1 := by
  obtain ⟨trace, system, run, listed⟩ :
      ∃ (trace : List FriendGatewayEvent) (system : FriendGateway),
        Run sampleGatewayStep (FriendGateway.Signed sampleTokens) {} trace
          system ∧
        .listed 1 1 (.data [eve]) ∈ trace := by
    apply Run.exists_both_of_exec sampleListing
    decide +kernel
  obtain ⟨before, after, state, next, index, calls, key, time, served⟩ :=
    listed_to_owner sampleTokens_lawful run listed
  exact ⟨trace, before, state, calls, listed,
    served.split ▸ List.prefix_append _ _, served.authenticated,
    served.answered⟩

end HttpGateway

end TinyChat
