import TinyChat.HttpGateway.FriendRoutes

/-!
# Friendships

Every friendship goes back to a confirmation that was told to one of the two
users, whom a token of a login had authenticated.  It shows in both lists of
friends, and it stays there.
-/

namespace TinyChat

namespace HttpGateway

open Transition Auth User

/-! ## The invariant -/

theorem seqs_withUsers (accounts : Accounts) (database : Database) :
    (database.withUsers accounts).seqs =
      accounts.users.map (fun account => (account.seq : Int)) := by
  rw [Database.seqs, Database.withUsers, List.map_map]
  apply List.map_congr_left
  intro account _
  cases found : Rows.find UserRow.seq database.users account.seq with
  | none => simp [found]
  | some user => simpa [found] using (Rows.mem_of_find found).2

/-- The statements of a confirmation were executed. -/
def executes (confirm : FriendConfirm) : ConfirmReport → Bool
  | .processed other ended _ _ => other = confirm ∧ ended = .executed
  | .answered _ _ _ _ => false

/-- An accepting confirmation was processed with its statements. -/
def WasAccepted (reports : List ConfirmReport) (confirm : FriendConfirm) :
    Prop :=
  confirm.action = 0 ∧ ∃ report ∈ reports, executes confirm report = true

instance (reports : List ConfirmReport) (confirm : FriendConfirm) :
    Decidable (WasAccepted reports confirm) :=
  inferInstanceAs (Decidable (_ ∧ _))

/-- What is known of the accounts and the tables of friends. -/
structure Associated (trace : List FriendGatewayEvent)
    (system : FriendGateway) : Prop where
  wellFormed : system.gateway.registration.accounts.WellFormed
  coherent : FriendSystem.Coherent (friendReports trace) system.friends
  users : system.friends.database.seqs =
    system.gateway.registration.accounts.users.map
      (fun account => (account.seq : Int))
  owned : system.friends.database.Owned
  numbered : system.friends.database.Numbered
  linked : ∀ ownerId friendId sessionId,
    (ownerId, friendId, sessionId) ∈ system.friends.database.links →
      ∃ confirm : FriendConfirm, confirm.Accepts ownerId friendId sessionId ∧
        FriendSystem.Answered (friendReports trace) confirm
  processed : ∀ confirm, WasAccepted (friendReports trace) confirm →
    ∃ sessionId, system.friends.database.Linked confirm.requestId
      confirm.addressId sessionId

/-- Accounts and friendships stay. -/
structure FriendGateway.Keeps (before after : FriendGateway) : Prop where
  accounts : before.gateway.registration.accounts.Grows
    after.gateway.registration.accounts
  links : ∀ link ∈ before.friends.database.links,
    link ∈ after.friends.database.links

/-- A report is the answer of a route or stems from a confirmation that the
worker has processed. -/
theorem step_reported {friends after : FriendSystem} {action : FriendAction}
    {reports : List ConfirmReport} {report : ConfirmReport}
    (moved : FriendSystem.step friends action = some (after, reports))
    (member : report ∈ reports) :
    (ownOfWorker action = false ∧
      ∃ uid addressId response confirm,
        report = .answered uid addressId response confirm) ∨
    (ownOfWorker action = true ∧
      ∃ confirm attempts cancelled ended,
        report = .processed confirm ended friends.database after.database ∧
        FriendServicer.confirmFriend confirm attempts cancelled
          friends.database = (some (.success, ended), after.database)) := by
  cases action with
  | friendRequest uid addressId requestMsg published =>
      cases moved
      cases member
  | friendConfirm validAppid uid addressId action flicked published =>
      simp only [FriendSystem.step] at moved
      split at moved
      · cases moved
        cases member
      · cases moved
        exact .inl ⟨rfl, _, _, _, _, List.mem_singleton.mp member⟩
  | addFriend index attempt acked =>
      simp only [FriendSystem.step] at moved
      split at moved
      · cases moved
        cases member
      · cases moved
  | confirmFriend index attempts cancelled acked =>
      simp only [FriendSystem.step] at moved
      split at moved
      · split at moved
        · rename_i replied
          cases moved
          exact .inr ⟨rfl, _, attempts, cancelled, _,
            List.mem_singleton.mp member, replied⟩
        · cases moved
          cases member
      · cases moved
  | respondFriend action ownerId friendId =>
      simp only [FriendSystem.step] at moved
      split at moved
      · cases moved
        cases member
      · cases moved
        cases member

theorem worker_silent {friends after : FriendSystem} {action : FriendAction}
    {reports : List ConfirmReport} {confirm : FriendConfirm}
    (own : ownOfWorker action = true)
    (moved : FriendSystem.step friends action = some (after, reports)) :
    ¬ FriendSystem.Answered reports confirm := by
  intro told
  rcases step_reported moved told with ⟨route, -⟩ |
    ⟨-, _, _, _, _, processed, -⟩
  · rw [own] at route
    cases route
  · cases processed

theorem route_silent {friends after : FriendSystem} {action : FriendAction}
    {reports : List ConfirmReport} {confirm : FriendConfirm}
    (own : ownOfWorker action = false)
    (moved : FriendSystem.step friends action = some (after, reports)) :
    ∀ report ∈ reports, executes confirm report = false := by
  intro report member
  rcases step_reported moved member with ⟨-, _, _, _, _, answered⟩ |
    ⟨worker, -⟩
  · rw [answered]
    rfl
  · rw [own] at worker
    cases worker

theorem linked_of_wasAccepted {friends after : FriendSystem}
    {action : FriendAction} {reports : List ConfirmReport}
    {confirm : FriendConfirm}
    (paired : Paired friends.database.links friends.database.sessions)
    (moved : FriendSystem.step friends action = some (after, reports))
    (accepted : WasAccepted reports confirm) :
    ∃ sessionId, after.database.Linked confirm.requestId confirm.addressId
      sessionId := by
  obtain ⟨accepts, report, member, executed⟩ := accepted
  rcases step_reported moved member with ⟨-, _, _, _, _, answered⟩ |
    ⟨-, other, _, _, _, processed, replied⟩
  · rw [answered] at executed
    cases executed
  · rw [processed] at executed
    obtain ⟨rfl, rfl⟩ := of_decide_eq_true executed
    rcases FriendServicer.confirmFriend_success replied with
      ⟨-, accepted⟩ | ⟨status, refused, -, -⟩
    · generalize after.database = reached at accepted ⊢
      cases accepted with
      | executed created =>
          obtain ⟨-, pair, -⟩ := Database.createFriend_cases paired created
          obtain ⟨sessionId, -, linked⟩ := pair.stored
          exact ⟨sessionId, linked⟩
      | nothing unavailable => cases unavailable _ rfl
    · omega

theorem answered_grow {trace : List FriendGatewayEvent}
    {confirm : FriendConfirm}
    (told : FriendSystem.Answered (friendReports trace) confirm)
    (events : List FriendGatewayEvent) :
    FriendSystem.Answered (friendReports (trace ++ events)) confirm := by
  rw [friendReports_append]
  exact FriendSystem.answered_append told

namespace Associated

variable {libraries : Libraries} {tokens : TokenLibraries}
  {trace events : List FriendGatewayEvent} {system next : FriendGateway}

theorem initial (libraries : Libraries) : Associated [] {} where
  wellFormed := (Remembers.start libraries).wellFormed
  coherent := by
    have empty : Transition.AnyRun FriendSystem.step (FriendSystem.start [])
        [] (FriendSystem.start []) :=
      .refl
    exact FriendSystem.coherent_of_run empty
  users := rfl
  owned := fun _ _ _ member => absurd member List.not_mem_nil
  numbered := List.nodup_nil
  linked := fun _ _ _ member => absurd member List.not_mem_nil
  processed := by
    rintro confirm ⟨-, report, member, -⟩
    exact absurd member List.not_mem_nil

theorem advance (associated : Associated trace system)
    {gateway : Gateway} {friends : FriendSystem}
    (same : gateway.registration = system.gateway.registration)
    (coherent : FriendSystem.Coherent
      (friendReports trace ++ friendReports events) friends)
    (grown : system.friends.database.Grows system.friends.Queued
      friends.database)
    (processed : ∀ confirm, WasAccepted (friendReports events) confirm →
      ∃ sessionId, friends.database.Linked confirm.requestId
        confirm.addressId sessionId) :
    Associated (trace ++ events)
        { gateway := gateway, friends := friends } ∧
      system.Keeps { gateway := gateway, friends := friends } := by
  constructor
  · constructor
    case wellFormed =>
      rw [same]
      exact associated.wellFormed
    case coherent =>
      rw [friendReports_append]
      exact coherent
    case users =>
      rw [grown.seqs, same]
      exact associated.users
    case owned => exact grown.owned associated.owned
    case numbered => exact grown.numbered associated.numbered
    case linked =>
      intro ownerId friendId sessionId member
      rcases grown.new _ _ _ member with old | ⟨-, confirm, queued, accepts⟩
      · obtain ⟨confirm, accepts, told⟩ := associated.linked _ _ _ old
        exact ⟨confirm, accepts, answered_grow told events⟩
      · have told := associated.coherent.queued confirm queued
        exact ⟨confirm, accepts, answered_grow told events⟩
    case processed =>
      rintro confirm ⟨accepts, report, member, executed⟩
      rw [friendReports_append] at member
      rcases List.mem_append.mp member with old | new
      · obtain ⟨sessionId, linked⟩ :=
          associated.processed confirm ⟨accepts, report, old, executed⟩
        exact ⟨sessionId, linked_iff.mpr
          (grown.kept _ (linked_iff.mp linked))⟩
      · exact processed confirm ⟨accepts, report, new, executed⟩
  · constructor
    case accounts =>
      rw [same]
      exact .refl _
    case links => exact grown.kept

theorem gateway (associated : Associated trace system)
    {action : GatewayAction} {after : Gateway}
    {happened : List GatewayEvent}
    (stepped : Gateway.step libraries tokens system.gateway action =
      some (after, happened)) :
    Associated (trace ++ happened.map .gateway) (system.setGateway after) ∧
      system.Keeps (system.setGateway after) := by
  obtain ⟨wellFormed, grown⟩ :=
    Gateway.step_grows associated.wellFormed stepped
  refine ⟨?_, grown, fun link member => member⟩
  constructor
  case wellFormed => exact wellFormed
  case coherent =>
    rw [friendReports_append, friendReports_gateway, List.append_nil]
    exact ⟨associated.coherent.paired, associated.coherent.queued,
      associated.coherent.reported⟩
  case users => exact seqs_withUsers _ _
  case owned =>
    intro ownerId friendId sessionId member
    have user := associated.owned ownerId friendId sessionId member
    rw [associated.users] at user
    obtain ⟨account, known, number⟩ := List.mem_map.mp user
    obtain ⟨grownAccount, present, became⟩ := grown account known
    change ownerId ∈ Database.seqs (Database.withUsers _ _)
    rw [seqs_withUsers, ← number, ← became.seq]
    exact List.mem_map_of_mem (f := fun row : AccountRow => (row.seq : Int))
      present
  case numbered => exact associated.numbered
  case linked =>
    intro ownerId friendId sessionId member
    obtain ⟨confirm, accepts, told⟩ := associated.linked _ _ _ member
    exact ⟨confirm, accepts, answered_grow told _⟩
  case processed =>
    intro confirm accepted
    rw [friendReports_append, friendReports_gateway, List.append_nil]
      at accepted
    exact associated.processed confirm accepted

theorem handle (associated : Associated trace system)
    {index number uid : Nat} {handler : String}
    (handling : system.gateway.handling index handler = some (number, uid))
    {action : FriendAction}
    (stepped : system.handle libraries tokens index action
      (.confirming number) = some (next, events))
    (own : ownOfWorker action = false) :
    Associated (trace ++ events) next ∧ system.Keeps next := by
  obtain ⟨request, found, stage, -, -, -⟩ := Gateway.handling_eq handling
  unfold FriendGateway.handle at stepped
  rw [Gateway.step_handle found stage, Option.bind_some] at stepped
  obtain ⟨⟨after, reports⟩, moved, equality⟩ :=
    Option.map_eq_some_iff.mp stepped
  cases equality
  apply associated.advance
  · rfl
  · rw [friendReports_append, friendReports_gateway,
      friendReports_confirming, List.nil_append]
    exact associated.coherent.step moved
  · exact FriendSystem.step_grows associated.coherent.paired
      associated.owned moved
  · rintro confirm ⟨-, report, member, executed⟩
    rw [friendReports_append, friendReports_gateway, List.nil_append,
      friendReports_confirming] at member
    rw [route_silent own moved report member] at executed
    cases executed

theorem step (associated : Associated trace system)
    {action : FriendGatewayAction}
    (stepped : FriendGateway.step libraries tokens system action =
      some (next, events)) :
    Associated (trace ++ events) next ∧ system.Keeps next := by
  cases action with
  | gateway action =>
      obtain ⟨⟨after, happened⟩, moved, equality⟩ :=
        Option.map_eq_some_iff.mp stepped
      cases equality
      exact associated.gateway moved
  | friendRequest index addressId requestMsg published =>
      obtain ⟨⟨number, uid⟩, handling, handled⟩ :=
        Option.bind_eq_some_iff.mp stepped
      exact associated.handle handling handled rfl
  | friendConfirm index validAppid addressId action flicked published =>
      obtain ⟨⟨number, uid⟩, handling, handled⟩ :=
        Option.bind_eq_some_iff.mp stepped
      exact associated.handle handling handled rfl
  | getFriends index calls =>
      obtain ⟨⟨number, uid⟩, handling, handled⟩ :=
        Option.bind_eq_some_iff.mp stepped
      obtain ⟨request, found, stage, -, -, -⟩ :=
        Gateway.handling_eq handling
      rw [Gateway.step_handle found stage] at handled
      cases handled
      apply associated.advance
      · rfl
      · rw [friendReports_append, friendReports_gateway, List.nil_append]
        change FriendSystem.Coherent (friendReports trace ++ []) _
        rw [List.append_nil]
        exact associated.coherent
      · exact .refl _
      · rintro confirm ⟨-, report, member, -⟩
        rw [friendReports_append, friendReports_gateway] at member
        exact absurd member List.not_mem_nil
  | worker action =>
      simp only [FriendGateway.step] at stepped
      split at stepped
      · rename_i own
        obtain ⟨⟨after, reports⟩, moved, equality⟩ :=
          Option.map_eq_some_iff.mp stepped
        cases equality
        apply associated.advance
        · rfl
        · rw [friendReports_worker]
          exact associated.coherent.step moved
        · exact FriendSystem.step_grows associated.coherent.paired
            associated.owned moved
        · intro confirm accepted
          rw [friendReports_worker] at accepted
          exact linked_of_wasAccepted associated.coherent.paired moved accepted
      · cases stepped

end Associated

/-- Whoever was told a session had been authenticated. -/
structure Vouched (libraries : Libraries) (tokens : TokenLibraries)
    (trace : List FriendGatewayEvent) (system : FriendGateway) : Prop where
  tracked : Tracked libraries tokens (gatewayEvents trace) system.gateway
  justified : EachEvent (Justified libraries) [] (gatewayEvents trace)
  answered : ∀ confirm,
    FriendSystem.Answered (friendReports trace) confirm →
      Authorised trace confirm

namespace Vouched

variable {libraries : Libraries} {tokens : TokenLibraries}
  {trace events : List FriendGatewayEvent} {system next : FriendGateway}

theorem initial : Vouched libraries tokens [] {} where
  tracked := .empty
  justified := trivial
  answered := fun _ member => absurd member List.not_mem_nil

theorem advance (vouched : Vouched libraries tokens trace system)
    (tracked : Tracked libraries tokens
      (gatewayEvents trace ++ gatewayEvents events) next.gateway)
    (justified : EachEvent (Justified libraries) (gatewayEvents trace)
      (gatewayEvents events))
    (authorised : ∀ confirm,
      FriendSystem.Answered (friendReports events) confirm →
        Authorised (trace ++ events) confirm) :
    Vouched libraries tokens (trace ++ events) next := by
  constructor
  case tracked =>
    rw [gatewayEvents_append]
    exact tracked
  case justified =>
    rw [gatewayEvents_append]
    exact (eachEvent_append _ _ _).mpr ⟨vouched.justified, justified⟩
  case answered =>
    intro confirm told
    unfold FriendSystem.Answered at told
    rw [friendReports_append] at told
    rcases List.mem_append.mp told with old | new
    · exact (vouched.answered confirm old).grow events
    · exact authorised confirm new

theorem gateway (vouched : Vouched libraries tokens trace system)
    (lawful : tokens.Lawful) {action : GatewayAction}
    (signed : Gateway.Signed tokens system.gateway action)
    {happened : List GatewayEvent}
    (stepped : Gateway.step libraries tokens system.gateway action =
      some (next.gateway, happened))
    (same : gatewayEvents events = happened)
    (authorised : ∀ confirm,
      FriendSystem.Answered (friendReports events) confirm →
        Authorised (trace ++ events) confirm) :
    Vouched libraries tokens (trace ++ events) next := by
  obtain ⟨tracked, justified⟩ := vouched.tracked.step lawful signed stepped
  rw [← same] at tracked justified
  exact vouched.advance tracked justified authorised

theorem authorised (vouched : Vouched libraries tokens trace system)
    {index number uid : Nat} {handler : String}
    (required : ∀ endpoint ∈ endpoints, endpoint.handler = handler →
      endpoint.authenticated = true)
    (handling : system.gateway.handling index handler = some (number, uid)) :
    ∃ token time key handled,
      Gateway.step libraries tokens system.gateway (.handle index) =
        some (system.gateway.respond index,
          [.handled number handler key (some uid) handled]) ∧
      .gateway (.authenticated number uid token time) ∈ trace ∧
      ∃ email password start,
        .gateway (.loggedIn uid email password token start) ∈ trace ∧
        start ≤ time ∧ time < start + expirationDelta * second := by
  obtain ⟨request, found, stage, named, known, rfl⟩ :=
    Gateway.handling_eq handling
  have sound :=
    vouched.tracked.requests request (List.mem_of_getElem? found)
  have reached : 1 ≤ request.stage.rank := by
    rw [stage]
    decide
  obtain ⟨user, token, time, same, authenticated⟩ :=
    sound.authenticated (required _ sound.known named) reached
  rw [known] at same
  cases same
  obtain ⟨earlier, later, split, email, password, start, login, fresh⟩ :=
    eachEvent_mem vouched.justified authenticated
  have before : GatewayEvent.loggedIn uid email password token start ∈
      gatewayEvents trace := by
    rw [split]
    exact List.mem_append_left _ login
  have handled := @Gateway.step_handle libraries tokens _ _ _ found stage
  rw [named, known] at handled
  exact ⟨token, time, request.key, system.gateway.now, handled,
    mem_gatewayEvents.mp authenticated, email, password, start,
    mem_gatewayEvents.mp before, fresh⟩

theorem silent {happened : List GatewayEvent} {confirm : FriendConfirm}
    (none : friendReports events = []) :
    ¬ FriendSystem.Answered
      (friendReports (happened.map .gateway ++ events)) confirm := by
  unfold FriendSystem.Answered
  rw [friendReports_append, friendReports_gateway, none]
  exact List.not_mem_nil

theorem step (vouched : Vouched libraries tokens trace system)
    (lawful : tokens.Lawful) {action : FriendGatewayAction}
    (signed : system.Signed tokens action)
    (stepped : FriendGateway.step libraries tokens system action =
      some (next, events)) :
    Vouched libraries tokens (trace ++ events) next := by
  cases action with
  | gateway action =>
      obtain ⟨⟨after, happened⟩, moved, equality⟩ :=
        Option.map_eq_some_iff.mp stepped
      cases equality
      refine vouched.gateway lawful signed moved
        (gatewayEvents_gateway happened) ?_
      intro confirm told
      unfold FriendSystem.Answered at told
      rw [friendReports_gateway] at told
      exact absurd told List.not_mem_nil
  | friendRequest index addressId requestMsg published =>
      obtain ⟨⟨number, uid⟩, handling, handled⟩ :=
        Option.bind_eq_some_iff.mp stepped
      obtain ⟨⟨after, happened⟩, moved, rest⟩ :=
        Option.bind_eq_some_iff.mp handled
      cases rest
      refine vouched.gateway lawful (by trivial) moved ?_ ?_
      · rw [gatewayEvents_append, gatewayEvents_gateway]
        exact List.append_nil _
      · intro confirm told
        exact absurd told (silent rfl)
  | friendConfirm index validAppid addressId action flicked published =>
      obtain ⟨⟨number, uid⟩, handling, handled⟩ :=
        Option.bind_eq_some_iff.mp stepped
      obtain ⟨token, time, key, ended, served, authenticated, login⟩ :=
        vouched.authorised (by decide) handling
      unfold FriendGateway.handle at handled
      rw [served, Option.bind_some] at handled
      obtain ⟨⟨after, reports⟩, moved, equality⟩ :=
        Option.map_eq_some_iff.mp handled
      cases equality
      refine vouched.gateway lawful (by trivial) served ?_ ?_
      · rw [gatewayEvents_append, gatewayEvents_gateway,
          gatewayEvents_confirming, List.append_nil]
      · intro confirm told
        simp only [FriendSystem.step] at moved
        unfold FriendSystem.Answered at told
        rw [friendReports_append, friendReports_gateway, List.nil_append,
          friendReports_confirming] at told
        split at moved
        · cases moved
          cases told
        · cases moved
          have same := List.mem_singleton.mp told
          obtain ⟨email, password, start, logged, fresh⟩ := login
          refine ⟨number, uid, token, time,
            (ConfirmReport.answered.inj same).1, ?_, ⟨key, ended, ?_⟩,
            List.mem_append_left _ authenticated, email, password, start,
            List.mem_append_left _ logged, fresh⟩
          · rw [same]
            apply List.mem_append_right
            exact List.mem_append_right _ List.mem_cons_self
          · apply List.mem_append_right
            exact List.mem_append_left _ List.mem_cons_self
  | getFriends index calls =>
      obtain ⟨⟨number, uid⟩, handling, handled⟩ :=
        Option.bind_eq_some_iff.mp stepped
      obtain ⟨⟨after, happened⟩, moved, equality⟩ :=
        Option.map_eq_some_iff.mp handled
      cases equality
      refine vouched.gateway lawful (by trivial) moved ?_ ?_
      · rw [gatewayEvents_append, gatewayEvents_gateway]
        exact List.append_nil _
      · intro confirm told
        exact absurd told (silent rfl)
  | worker action =>
      simp only [FriendGateway.step] at stepped
      split at stepped
      · rename_i own
        obtain ⟨⟨after, reports⟩, moved, equality⟩ :=
          Option.map_eq_some_iff.mp stepped
        cases equality
        apply vouched.advance
        · rw [gatewayEvents_worker, List.append_nil]
          exact vouched.tracked
        · rw [gatewayEvents_worker]
          exact trivial
        · intro confirm told
          rw [friendReports_worker] at told
          exact absurd told (worker_silent own moved)
      · cases stepped

end Vouched

variable {libraries : Libraries} {tokens : TokenLibraries}
  {trace later : List FriendGatewayEvent} {system next : FriendGateway}

theorem run_associated
    (run : AnyRun (FriendGateway.step libraries tokens) {} trace system) :
    Associated trace system :=
  run.invariant (.initial libraries) (fun associated _ stepped =>
    (associated.step stepped).1)

theorem run_keeps (associated : Associated trace system)
    (run : AnyRun (FriendGateway.step libraries tokens) system later next) :
    Associated (trace ++ later) next ∧ system.Keeps next := by
  induction run with
  | refl =>
      rw [List.append_nil]
      exact ⟨associated, .refl _, fun _ member => member⟩
  | snoc _ _ stepped induction =>
      obtain ⟨reached, kept⟩ := induction
      obtain ⟨after, keeps⟩ := reached.step stepped
      rw [List.append_assoc] at after
      exact ⟨after, kept.accounts.trans keeps.accounts,
        fun link member => keeps.links link (kept.links link member)⟩

theorem run_vouched (lawful : tokens.Lawful)
    (run : Run (FriendGateway.step libraries tokens)
      (FriendGateway.Signed tokens) {} trace system) :
    Vouched libraries tokens trace system :=
  run.invariant .initial (fun vouched signed stepped =>
    vouched.step lawful signed stepped)

/-- The response of `get_friends` to a user in a state. -/
def FriendGateway.friendList (system : FriendGateway) (calls : ListCalls)
    (uid : Nat) : FriendListResponse :=
  calls.response uid system.gateway.registration.accounts
    system.friends.database

theorem mem_friendList {calls : ListCalls} {uid : Nat}
    {friends : List ListedFriend}
    (answered : system.friendList calls uid = .data friends)
    {friend : ListedFriend} :
    friend ∈ friends ↔
      ∃ account ∈ system.gateway.registration.accounts.users,
        system.friends.database.Linked uid account.seq friend.sessionId ∧
        friend = (friendDetailedInfo friend.sessionId account).listed := by
  rw [ListCalls.response_data answered]
  constructor
  · intro member
    obtain ⟨info, listed, rfl⟩ := List.mem_map.mp member
    obtain ⟨account, known, linked, same⟩ := mem_getFriends.mp listed
    exact ⟨account, known, linked, congrArg FriendDetailedInfo.listed same⟩
  · rintro ⟨account, known, linked, same⟩
    rw [same]
    exact List.mem_map_of_mem
      (mem_getFriends.mpr ⟨account, known, linked, rfl⟩)

namespace Associated

theorem account (associated : Associated trace system)
    {ownerId friendId sessionId : Int}
    (linked : system.friends.database.Linked ownerId friendId sessionId) :
    ∃ account ∈ system.gateway.registration.accounts.users,
      (account.seq : Int) = ownerId := by
  have user := associated.owned _ _ _ (linked_iff.mp linked)
  rw [associated.users] at user
  exact List.mem_map.mp user

theorem pair (associated : Associated trace system)
    {first second other another sessionId : Int}
    (one : system.friends.database.Linked first second sessionId)
    (two : system.friends.database.Linked other another sessionId) :
    (first = other ∧ second = another) ∨
      (first = another ∧ second = other) := by
  have stored : ∀ {owner friend : Int},
      system.friends.database.Linked owner friend sessionId →
      SessionRow.mk sessionId (min owner friend) (max owner friend) ∈
        system.friends.database.sessions := by
    intro owner friend linked
    have held := associated.coherent.paired.held _ _ _
      (linked_iff.mp linked)
    have member : SessionRow.mk sessionId (min owner friend)
        (max owner friend) ∈ system.friends.database.sessions.filter
          (fun row => row.lowerId = min owner friend ∧
            row.higherId = max owner friend) := by
      rw [held]
      exact List.mem_singleton_self _
    exact (List.mem_filter.mp member).1
  have same := List.inj_on_of_nodup_map associated.numbered (stored one)
    (stored two) rfl
  exact Database.pair_of_bounds (congrArg SessionRow.lowerId same)
    (congrArg SessionRow.higherId same)

end Associated

/-- In every reachable state the lists of friends are mutual, with the same
session on both sides, which belongs to no other pair; a list has everybody
once, and never its owner. -/
theorem friends_mutual
    (run : AnyRun (FriendGateway.step libraries tokens) {} trace system)
    {calls : ListCalls} {uid : Nat} {friends : List ListedFriend}
    (answered : system.friendList calls uid = .data friends) :
    (friends.map ListedFriend.seq).Nodup ∧
      ∀ friend ∈ friends, friend.seq ≠ uid ∧
        ∀ (theirs : ListCalls) (seq : Nat) (others : List ListedFriend),
          system.friendList theirs seq = .data others →
          (seq = friend.seq → ∃ other ∈ others, other.seq = uid ∧
            other.sessionId = friend.sessionId) ∧
          ∀ other ∈ others, other.sessionId = friend.sessionId →
            (seq = uid ∧ other.seq = friend.seq) ∨
              (seq = friend.seq ∧ other.seq = uid) := by
  have associated := run_associated run
  have paired := associated.coherent.paired
  constructor
  · rw [ListCalls.response_data answered, List.map_map]
    exact getFriends_nodup associated.wellFormed paired uid
  · intro friend member
    obtain ⟨account, known, linked, same⟩ :=
      (mem_friendList answered).mp member
    have number : account.seq = friend.seq := by
      rw [same]
      rfl
    rw [number] at linked
    have twin : system.friends.database.Linked friend.seq uid
        friend.sessionId :=
      linked_iff.mpr (paired.mirrored _ _ _ (linked_iff.mp linked))
    constructor
    · intro self
      rw [self] at linked
      exact paired.distinct _ _ _ (linked_iff.mp linked) rfl
    · intro theirs seq others replied
      constructor
      · rintro rfl
        obtain ⟨own, present, mine⟩ := associated.account linked
        have listed : (friendDetailedInfo friend.sessionId own).listed ∈
            others := by
          apply (mem_friendList replied).mpr
          refine ⟨own, present, ?_, rfl⟩
          rw [mine]
          exact twin
        exact ⟨_, listed, Int.ofNat.inj mine, rfl⟩
      · intro other present session
        obtain ⟨theirAccount, -, theirLink, copied⟩ :=
          (mem_friendList replied).mp present
        have theirNumber : theirAccount.seq = other.seq := by
          rw [copied]
          rfl
        rw [theirNumber, session] at theirLink
        have both := associated.pair theirLink linked
        omega

/-- The calls of the route succeed. -/
def reachingCalls : ListCalls where
  service := some .answered
  ended := .answered

/-- One user confirms the registration, another one does not. -/
def sampleAccounts : List RegistrationAction :=
  sampleActions ++ sampleConfirmation ++
    [.userRegister ⟨"eve", "e@f", "x"⟩ "s", .iterate 0 0 9 .answered]

/-- The first one logs in and calls the route. -/
def sampleCalls : List GatewayAction :=
  sampleAccounts.map .account ++
    [.authLogin "a@b" "two" .answered true,
      .arrive "here" 5 (some "Bearer a") none .answered,
      .authenticate 0 (some .answered) .failed, .ipLimit 0 .answered,
      .apiLimit 0 .answered]

/-- The other one is accepted. -/
def sampleFriendship : List FriendGatewayAction :=
  sampleCalls.map .gateway ++
    [.friendConfirm 0 true 3 0 (.success 7) true,
      .worker (.confirmFriend 0 [.executed] false true)]

def sampleConfirm : FriendConfirm where
  requestId := 1
  addressId := 3
  action := 0
  sessionId := 7

def eve : ListedFriend where
  sessionId := 7
  seq := 3
  uid := 9
  username := "eve"
  email := "e@f"
  remark := ""

def bob : ListedFriend where
  sessionId := 7
  seq := 1
  uid := 7
  username := "bob"
  email := "a@b"
  remark := ""

def sampleGatewayStep :
    Step FriendGateway FriendGatewayAction FriendGatewayEvent :=
  FriendGateway.step sampleLibraries sampleTokens

theorem friends_mutual_sample :
    ∃ trace system,
      Run sampleGatewayStep (FriendGateway.Signed sampleTokens) {} trace
        system ∧
      ∃ others, system.friendList reachingCalls 3 = .data others ∧
        ∃ other ∈ others, other.seq = 1 ∧ other.sessionId = 7 := by
  obtain ⟨trace, system, run, mine, theirs⟩ :
      ∃ (trace : List FriendGatewayEvent) (system : FriendGateway),
        Run sampleGatewayStep (FriendGateway.Signed sampleTokens) {} trace
          system ∧
        system.friendList reachingCalls 1 = .data [eve] ∧
        system.friendList reachingCalls 3 = .data [bob] := by
    apply Run.exists_both_of_exec sampleFriendship
    decide +kernel
  refine ⟨trace, system, run, [bob], theirs, ?_⟩
  have both := (friends_mutual run.any mine).2 eve
    (List.mem_singleton_self _)
  exact (both.2 reachingCalls 3 [bob] theirs).1 rfl

/-- Nobody is listed as a friend without an accepting confirmation, whose
session is the listed one, by one of the two users, who was authenticated. -/
theorem friends_authorised (lawful : tokens.Lawful)
    (run : Run (FriendGateway.step libraries tokens)
      (FriendGateway.Signed tokens) {} trace system)
    {calls : ListCalls} {uid : Nat} {friends : List ListedFriend}
    (answered : system.friendList calls uid = .data friends) :
    ∀ friend ∈ friends, ∃ confirm : FriendConfirm,
      confirm.Accepts uid friend.seq friend.sessionId ∧
      Authorised trace confirm := by
  intro friend member
  obtain ⟨account, known, linked, same⟩ :=
    (mem_friendList answered).mp member
  have number : account.seq = friend.seq := by
    rw [same]
    rfl
  rw [number] at linked
  obtain ⟨confirm, accepts, told⟩ :=
    (run_associated run.any).linked _ _ _ (linked_iff.mp linked)
  exact ⟨confirm, accepts, (run_vouched lawful run).answered confirm told⟩

theorem friends_authorised_sample :
    ∃ trace, ∃ confirm : FriendConfirm, confirm.Accepts 1 3 7 ∧
      Authorised trace confirm := by
  obtain ⟨trace, system, run, mine⟩ :
      ∃ (trace : List FriendGatewayEvent) (system : FriendGateway),
        Run sampleGatewayStep (FriendGateway.Signed sampleTokens) {} trace
          system ∧
        system.friendList reachingCalls 1 = .data [eve] := by
    apply Run.exists_state_of_exec sampleFriendship
    decide +kernel
  exact ⟨trace, friends_authorised sampleTokens_lawful run mine eve
    (List.mem_singleton_self _)⟩

/-- A friend stays listed, under the same number, id, email and session. -/
theorem friends_remain
    (run : AnyRun (FriendGateway.step libraries tokens) {} trace system)
    (rest : AnyRun (FriendGateway.step libraries tokens) system later next)
    {calls again : ListCalls} {uid : Nat}
    {friends others : List ListedFriend}
    (answered : system.friendList calls uid = .data friends)
    (repeated : next.friendList again uid = .data others) :
    ∀ friend ∈ friends, ∃ other ∈ others, other.seq = friend.seq ∧
      other.uid = friend.uid ∧ other.email = friend.email ∧
      other.sessionId = friend.sessionId := by
  obtain ⟨-, kept⟩ := run_keeps (run_associated run) rest
  intro friend member
  obtain ⟨account, known, linked, same⟩ :=
    (mem_friendList answered).mp member
  obtain ⟨after, present, became⟩ := kept.accounts account known
  have listed : (friendDetailedInfo friend.sessionId after).listed ∈
      others := by
    apply (mem_friendList repeated).mpr
    refine ⟨after, present, ?_, rfl⟩
    rw [became.seq]
    exact linked_iff.mpr (kept.links _ (linked_iff.mp linked))
  refine ⟨_, listed, ?_, ?_, ?_, rfl⟩
  · rw [same]
    exact became.seq
  · rw [same]
    exact became.uid
  · rw [same]
    exact became.email

/-- A user who is blocked afterwards is still listed. -/
theorem friends_remain_sample :
    ∃ (system next : FriendGateway) (others : List ListedFriend),
      system.friendList reachingCalls 1 = .data [eve] ∧
      next.friendList reachingCalls 1 = .data others ∧
      ∃ other ∈ others, other.seq = eve.seq ∧ other.uid = eve.uid ∧
        other.email = eve.email ∧ other.sessionId = eve.sessionId := by
  obtain ⟨trace, system, run, ready⟩ :
      ∃ (trace : List FriendGatewayEvent) (system : FriendGateway),
        Run sampleGatewayStep (FriendGateway.Signed sampleTokens) {} trace
          system ∧
        (system.friendList reachingCalls 1 = .data [eve] ∧
          ((exec sampleGatewayStep (FriendGateway.Signed sampleTokens)
            system [.worker (.respondFriend "Blocked" 1 3)]).any
              (fun result =>
                result.1.friendList reachingCalls 1 = .data [eve])) =
            true) := by
    apply Run.exists_state_of_exec sampleFriendship
    decide +kernel
  obtain ⟨mine, blocked⟩ := ready
  obtain ⟨later, next, rest, repeated⟩ :
      ∃ (later : List FriendGatewayEvent) (next : FriendGateway),
        Run sampleGatewayStep (FriendGateway.Signed sampleTokens) system
          later next ∧
        next.friendList reachingCalls 1 = .data [eve] :=
    Run.exists_state_of_exec _ blocked
  exact ⟨system, next, [eve], mine, repeated,
    friends_remain run.any rest.any mine repeated eve
      (List.mem_singleton_self _)⟩

/-- Once an accepting confirmation was processed and its statements were
executed, the two users list each other in every state that follows. -/
theorem accepted_listed
    (run : AnyRun (FriendGateway.step libraries tokens) {} trace system)
    {confirm : FriendConfirm}
    (accepted : WasAccepted (friendReports trace) confirm)
    {calls : ListCalls} {uid seq : Nat} {friends : List ListedFriend}
    (between : confirm.Between uid seq)
    (answered : system.friendList calls uid = .data friends) :
    ∃ friend ∈ friends, friend.seq = seq := by
  have associated := run_associated run
  obtain ⟨sessionId, direct⟩ := associated.processed confirm accepted
  have twin : system.friends.database.Linked confirm.addressId
      confirm.requestId sessionId :=
    linked_iff.mpr
      (associated.coherent.paired.mirrored _ _ _ (linked_iff.mp direct))
  have both : system.friends.database.Linked uid seq sessionId ∧
      system.friends.database.Linked seq uid sessionId := by
    rcases between with ⟨one, two⟩ | ⟨one, two⟩
    · rw [← one, ← two]
      exact ⟨direct, twin⟩
    · rw [← one, ← two]
      exact ⟨twin, direct⟩
  obtain ⟨account, known, number⟩ := associated.account both.2
  refine ⟨(friendDetailedInfo sessionId account).listed, ?_,
    Int.ofNat.inj number⟩
  apply (mem_friendList answered).mpr
  refine ⟨account, known, ?_, rfl⟩
  rw [number]
  exact both.1

theorem accepted_listed_sample :
    ∃ (trace : List FriendGatewayEvent) (friends : List ListedFriend),
      WasAccepted (friendReports trace) sampleConfirm ∧
        ∃ friend ∈ friends, friend.seq = 1 := by
  obtain ⟨trace, system, run, accepted, theirs⟩ :
      ∃ (trace : List FriendGatewayEvent) (system : FriendGateway),
        Run sampleGatewayStep (FriendGateway.Signed sampleTokens) {} trace
          system ∧
        WasAccepted (friendReports trace) sampleConfirm ∧
        system.friendList reachingCalls 3 = .data [bob] := by
    apply Run.exists_both_of_exec sampleFriendship
    decide +kernel
  have between : sampleConfirm.Between 3 1 := .inr ⟨rfl, rfl⟩
  exact ⟨trace, [bob], accepted, accepted_listed run.any accepted
    between theirs⟩

end HttpGateway

end TinyChat
