import TinyChat.User.Confirmation

/-!
# The session id that is announced

The gateway tells the client who accepts a request a new session id and puts
it into the event.  If the two users already have a session, the tables keep
its id.
-/

namespace TinyChat

namespace User

variable {database next : Database} {confirm : FriendConfirm}
  {attempts : List Attempt}

namespace FriendServicer

/-- The transaction is executed, or the tables stay as they are. -/
inductive Accepted (confirm : FriendConfirm) (database : Database) :
    Option (FriendOpStatus × Attempt) → Database → Prop where
  | executed {selected : Option Int} {created : Database} :
      database.createFriend confirm.requestId confirm.addressId
        confirm.sessionId = .ok (selected, created) →
      Accepted confirm database (some (.success, .executed))
        (created.respondFriendRequest .accepted confirm.requestId
          confirm.addressId)
  | nothing {reply : Option (FriendOpStatus × Attempt)} :
      (∀ ended, reply = some (.success, ended) → ended = .unavailable) →
      Accepted confirm database reply database

theorem accepted_failed {status : FriendOpStatus} {attempt : Attempt}
    (failed : status ≠ .success) :
    Accepted confirm database (some (status, attempt)) database := by
  apply Accepted.nothing
  intro ended same
  cases same
  exact absurd rfl failed

theorem accept_accepted (confirm : FriendConfirm) (attempts : List Attempt)
    (database : Database) :
    Accepted confirm database (accept confirm attempts database).1
      (accept confirm attempts database).2 := by
  induction attempts with
  | nil =>
      apply Accepted.nothing
      intro ended same
      cases same
  | cons attempt attempts induction =>
      cases attempt with
      | unavailable =>
          apply Accepted.nothing
          intro ended same
          cases same
          rfl
      | createLost trouble =>
          cases trouble with
          | timedOut | disconnected | other => exact accepted_failed (by decide)
      | updateLost trouble =>
          simp only [accept, createFriend]
          cases created : database.createFriend confirm.requestId
              confirm.addressId confirm.sessionId with
          | ok result => exact accepted_failed (by decide)
          | error failure =>
              cases failure with
              | uniqueViolation => exact induction
              | cardinalityViolation | foreignKeyViolation | outOfRange
              | invalidText => exact accepted_failed (by decide)
      | executed =>
          simp only [accept, createFriend]
          cases created : database.createFriend confirm.requestId
              confirm.addressId confirm.sessionId with
          | ok result => exact .executed created
          | error failure =>
              cases failure with
              | uniqueViolation => exact induction
              | cardinalityViolation | foreignKeyViolation | outOfRange
              | invalidText => exact accepted_failed (by decide)

theorem confirmFriend_success {cancelled : Bool} {ended : Attempt}
    (replied : confirmFriend confirm attempts cancelled database =
      (some (.success, ended), next)) :
    (confirm.action = 0 ∧
        Accepted confirm database (some (.success, ended)) next) ∨
      ∃ status, (confirm.action = 1 ∧ status = .rejected ∨
          confirm.action = 2 ∧ status = .ignored) ∧
        ended = .executed ∧
        next = database.respondFriendRequest status confirm.requestId
          confirm.addressId := by
  have responded : ∀ {status : RequestStatus},
      respond confirm status attempts database =
        (some (.success, ended), next) →
      ended = .executed ∧
        next = database.respondFriendRequest status confirm.requestId
          confirm.addressId := by
    intro status result
    match attempts with
    | [] => cases result
    | .unavailable :: _ => cases result
    | .createLost trouble :: _ | .updateLost trouble :: _ =>
        cases trouble with
        | timedOut | disconnected | other => cases result
    | .executed :: _ =>
        cases result
        exact ⟨rfl, rfl⟩
  cases cancelled with
  | true => cases congrArg Prod.fst replied
  | false =>
      change (if confirm.action = 0 then accept confirm attempts database
        else if confirm.action = 1 then
          respond confirm .rejected attempts database
        else if confirm.action = 2 then
          respond confirm .ignored attempts database
        else (none, database)) = _ at replied
      split at replied
      · rename_i zero
        have accepted := accept_accepted confirm attempts database
        rw [replied] at accepted
        exact Or.inl ⟨zero, accepted⟩
      · split at replied
        · rename_i one
          exact Or.inr ⟨.rejected, Or.inl ⟨one, rfl⟩, responded replied⟩
        · split at replied
          · rename_i two
            exact Or.inr ⟨.ignored, Or.inr ⟨two, rfl⟩, responded replied⟩
          · cases replied

/-- A confirmation adds a pair at most. -/
theorem Accepted.paired {reply : Option (FriendOpStatus × Attempt)}
    (paired : Paired database.links database.sessions)
    (accepted : Accepted confirm database reply next) :
    Paired next.links next.sessions := by
  cases accepted with
  | executed created =>
      obtain ⟨distinct, pair, -⟩ :=
        Database.createFriend_cases paired created
      have after := pair.paired paired distinct
      exact after
  | nothing => exact paired

theorem respond_tables (confirm : FriendConfirm) (status : RequestStatus)
    (attempts : List Attempt) (database : Database) :
    (respond confirm status attempts database).2.links = database.links ∧
      (respond confirm status attempts database).2.sessions =
        database.sessions := by
  match attempts with
  | [] | .unavailable :: _ | .createLost _ :: _ | .updateLost _ :: _
  | .executed :: _ => exact ⟨rfl, rfl⟩

theorem confirmFriend_paired (confirm : FriendConfirm)
    (attempts : List Attempt) (cancelled : Bool)
    (paired : Paired database.links database.sessions) :
    Paired (confirmFriend confirm attempts cancelled database).2.links
      (confirmFriend confirm attempts cancelled database).2.sessions := by
  have kept : ∀ status, Paired
      (respond confirm status attempts database).2.links
      (respond confirm status attempts database).2.sessions := by
    intro status
    obtain ⟨links, sessions⟩ :=
      respond_tables confirm status attempts database
    rw [links, sessions]
    exact paired
  simp only [confirmFriend]
  split
  · exact (accept_accepted confirm attempts database).paired paired
  · split
    · exact kept .rejected
    · split
      · exact kept .ignored
      · exact paired

end FriendServicer

/-- The tables have the session id of the event for the two users. -/
def Announced (confirm : FriendConfirm) (database : Database) : Prop :=
  database.Linked confirm.requestId confirm.addressId confirm.sessionId ∧
    database.Linked confirm.addressId confirm.requestId confirm.sessionId ∧
    database.sessionsOf confirm.requestId confirm.addressId =
      [⟨confirm.sessionId, min confirm.requestId confirm.addressId,
        max confirm.requestId confirm.addressId⟩]

instance (ownerId friendId sessionId : Int) (database : Database) :
    Decidable (database.Linked ownerId friendId sessionId) :=
  inferInstanceAs (Decidable (∃ row ∈ database.friends, _))

instance (confirm : FriendConfirm) (database : Database) :
    Decidable (Announced confirm database) :=
  inferInstanceAs (Decidable (_ ∧ _ ∧ _))

theorem announced_iff (paired : Paired database.links database.sessions) :
    Announced confirm database ↔
      database.Linked confirm.requestId confirm.addressId
        confirm.sessionId := by
  constructor
  · exact fun announced => announced.1
  · intro linked
    have member := linked_iff.mp linked
    exact ⟨linked, linked_iff.mpr (paired.mirrored _ _ _ member),
      paired.held _ _ _ member⟩

/-- The two users have the session id of the event, or no session, and the
statements are executed. -/
def Announceable (confirm : FriendConfirm) (ended : Attempt)
    (database : Database) : Prop :=
  database.Linked confirm.requestId confirm.addressId confirm.sessionId ∨
    (∀ known,
      ¬ database.Linked confirm.requestId confirm.addressId known) ∧
      ended = .executed

theorem announced_accepted_iff {ended : Attempt}
    (paired : Paired database.links database.sessions)
    (accepted : FriendServicer.Accepted confirm database
      (some (.success, ended)) next) :
    Announced confirm next ↔ Announceable confirm ended database := by
  have after := accepted.paired paired
  rw [announced_iff after]
  cases accepted with
  | nothing unavailable =>
      have idle := unavailable ended rfl
      subst idle
      constructor
      · exact Or.inl
      · rintro (linked | ⟨-, absurdly⟩)
        · exact linked
        · cases absurdly
  | executed created =>
      rename_i reached
      obtain ⟨distinct, pair, -⟩ :=
        Database.createFriend_cases paired created
      change reached.Linked _ _ _ ↔ _
      cases pair with
      | fresh unlinked unused free links sessions =>
          obtain ⟨stored, same, linked⟩ := (Database.Created.fresh unlinked
            unused free links sessions).stored
          cases same
          exact iff_of_true linked (Or.inr ⟨unlinked, rfl⟩)
      | known linked links sessions =>
          rw [linked_iff, links, ← linked_iff]
          constructor
          · exact Or.inl
          · rintro (same | ⟨unlinked, -⟩)
            · exact same
            · exact absurd linked (unlinked _)

theorem createFriendRequest_tables {requestId addressId : Int}
    {requestMsg : Option String}
    (created : database.createFriendRequest requestId addressId requestMsg =
      .ok next) :
    next.links = database.links ∧ next.sessions = database.sessions := by
  unfold Database.createFriendRequest at created
  split at created
  · obtain ⟨checked, references, inserted⟩ := Fallible.bind_ok.mp created
    obtain ⟨rfl, -⟩ := Database.checkReferences_ok references
    cases inserted
    exact ⟨rfl, rfl⟩
  · cases created
    exact ⟨rfl, rfl⟩

theorem addFriend_tables (requestId addressId : Int)
    (requestMsg : Option String) (attempt : Attempt) (database : Database) :
    (FriendServicer.addFriend requestId addressId requestMsg attempt
        database).2.links = database.links ∧
      (FriendServicer.addFriend requestId addressId requestMsg attempt
        database).2.sessions = database.sessions := by
  cases attempt with
  | unavailable | createLost | updateLost => exact ⟨rfl, rfl⟩
  | executed =>
      simp only [FriendServicer.addFriend]
      split
      · rename_i created
        exact createFriendRequest_tables created
      · exact ⟨rfl, rfl⟩

namespace FriendSystem

variable {system after : FriendSystem}
  {trace events : List ConfirmReport} {seqs : List Int}

/-- The gateway has answered with the session id of the event. -/
def Answered (trace : List ConfirmReport) (confirm : FriendConfirm) : Prop :=
  .answered confirm.requestId confirm.addressId
    (.sessionId confirm.sessionId) confirm ∈ trace

/-- What is known about the events of a run. -/
structure Coherent (trace : List ConfirmReport) (system : FriendSystem) :
    Prop where
  paired : Paired system.database.links system.database.sessions
  queued : ∀ confirm, .confirm confirm ∈ system.queue →
    Answered trace confirm
  reported : ∀ confirm ended before next,
    .processed confirm ended before next ∈ trace →
      Answered trace confirm ∧
        Paired before.links before.sessions ∧
        ∃ attempts cancelled,
          FriendServicer.confirmFriend confirm attempts cancelled before =
            (some (.success, ended), next)

theorem answered_append (earlier : Answered trace confirm) :
    Answered (trace ++ events) confirm :=
  List.mem_append_left _ earlier

/-- A step that reports nothing. -/
theorem Coherent.silent (coherent : Coherent trace system)
    (paired : Paired after.database.links after.database.sessions)
    (queued : ∀ confirm, .confirm confirm ∈ after.queue →
      .confirm confirm ∈ system.queue) :
    Coherent (trace ++ []) after := by
  rw [List.append_nil]
  exact ⟨paired, fun confirm member =>
    coherent.queued confirm (queued confirm member), coherent.reported⟩

theorem mem_publish {published : Bool} {event other : FriendEvent}
    (member : other ∈ (system.publish published event).queue) :
    other ∈ system.queue ∨ other = event := by
  unfold publish at member
  split at member
  · exact (List.mem_append.mp member).imp_right List.mem_singleton.mp
  · exact Or.inl member

theorem mem_settle {index : Nat} {succeeded acked : Bool}
    {other : FriendEvent}
    (member : other ∈
      (system.settle index succeeded acked database).queue) :
    other ∈ system.queue := by
  simp only [settle] at member
  split at member
  · exact List.mem_of_mem_eraseIdx member
  · exact member

theorem friendConfirm_answer {validAppid : Bool} {uid addressId action : Int}
    {flicked : FlickResult} {response : Response}
    (answered : Gateway.friendConfirm validAppid uid addressId action
      flicked = (response, some confirm)) :
    uid = confirm.requestId ∧ addressId = confirm.addressId ∧
      response = .sessionId confirm.sessionId := by
  unfold Gateway.friendConfirm at answered
  split at answered
  · cases answered
  · split at answered
    · split at answered
      · cases answered
      · cases answered
        exact ⟨rfl, rfl, rfl⟩
      · cases answered
      · cases answered
    · cases answered
      exact ⟨rfl, rfl, rfl⟩

theorem Coherent.answer (coherent : Coherent trace system)
    {validAppid : Bool} {uid addressId action : Int} {flicked : FlickResult}
    {response : Response}
    (answered : Gateway.friendConfirm validAppid uid addressId action
      flicked = (response, some confirm)) (published : Bool) :
    Coherent (trace ++ [.answered uid addressId response confirm])
      (system.publish published (.confirm confirm)) := by
  obtain ⟨rfl, rfl, rfl⟩ := friendConfirm_answer answered
  constructor
  case paired =>
    have same : (system.publish published (.confirm confirm)).database =
        system.database := by
      unfold publish
      split
      · rfl
      · rfl
    rw [same]
    exact coherent.paired
  case queued =>
    intro other member
    rcases mem_publish member with old | new
    · exact answered_append (coherent.queued other old)
    · cases new
      exact List.mem_append_right _ List.mem_cons_self
  case reported =>
    intro other ended before next member
    rcases List.mem_append.mp member with old | new
    · obtain ⟨earlier, rest⟩ := coherent.reported _ _ _ _ old
      exact ⟨answered_append earlier, rest⟩
    · cases List.mem_singleton.mp new

theorem Coherent.process (coherent : Coherent trace system) {index : Nat}
    {attempts : List Attempt} {cancelled : Bool} {ended : Attempt}
    (found : system.queue[index]? = some (.confirm confirm))
    (replied : FriendServicer.confirmFriend confirm attempts cancelled
      system.database = (some (.success, ended), next))
    (acked : Bool) :
    Coherent
      (trace ++ [.processed confirm ended system.database next])
      (system.settle index true acked next) := by
  have paired := FriendServicer.confirmFriend_paired confirm attempts
    cancelled coherent.paired
  rw [replied] at paired
  constructor
  case paired => exact paired
  case queued =>
    intro other member
    exact answered_append (coherent.queued other (mem_settle member))
  case reported =>
    intro other last before reached member
    rcases List.mem_append.mp member with old | new
    · obtain ⟨earlier, rest⟩ := coherent.reported _ _ _ _ old
      exact ⟨answered_append earlier, rest⟩
    · cases List.mem_singleton.mp new
      refine ⟨answered_append ?_, coherent.paired, attempts, cancelled,
        replied⟩
      exact coherent.queued _ (List.mem_of_getElem? found)

theorem Coherent.step {action : FriendAction}
    (coherent : Coherent trace system)
    (stepped : FriendSystem.step system action = some (after, events)) :
    Coherent (trace ++ events) after := by
  cases action with
  | friendRequest uid addressId requestMsg published =>
      cases stepped
      apply coherent.silent
      · have same : (system.publish published
            (.request uid addressId requestMsg)).database =
              system.database := by
          unfold publish
          split
          · rfl
          · rfl
        rw [same]
        exact coherent.paired
      · intro confirm member
        rcases mem_publish member with old | new
        · exact old
        · cases new
  | friendConfirm validAppid uid addressId action flicked published =>
      simp only [FriendSystem.step] at stepped
      split at stepped
      · cases stepped
        exact coherent.silent coherent.paired (fun _ member => member)
      · rename_i response confirm answered
        cases stepped
        exact coherent.answer answered published
  | addFriend index attempt acked =>
      simp only [FriendSystem.step] at stepped
      split at stepped
      · rename_i requestId addressId requestMsg found
        cases stepped
        apply coherent.silent
        · obtain ⟨links, sessions⟩ := addFriend_tables requestId addressId
            requestMsg attempt system.database
          simp only [settle]
          rw [links, sessions]
          exact coherent.paired
        · exact fun _ member => mem_settle member
      · cases stepped
  | confirmFriend index attempts cancelled acked =>
      simp only [FriendSystem.step] at stepped
      split at stepped
      · rename_i confirm found
        split at stepped
        · rename_i ended next replied
          cases stepped
          exact coherent.process found replied acked
        · rename_i reply next failed replied
          cases stepped
          apply coherent.silent
          · have paired := FriendServicer.confirmFriend_paired confirm
              attempts cancelled coherent.paired
            rw [replied] at paired
            exact paired
          · exact fun _ member => mem_settle member
      · cases stepped
  | respondFriend action ownerId friendId =>
      simp only [FriendSystem.step] at stepped
      split at stepped
      · rename_i changed next responded
        cases stepped
        apply coherent.silent
        · obtain ⟨links, sessions⟩ := Database.respondFriend_links responded
          change Paired next.links next.sessions
          rw [links, sessions]
          exact coherent.paired
        · exact fun _ member => member
      · cases stepped
        exact coherent.silent coherent.paired (fun _ member => member)

theorem coherent_of_run
    (run : Transition.AnyRun FriendSystem.step (start seqs) trace system) :
    Coherent trace system := by
  refine run.invariant ?_ ?_
  · constructor
    · exact Database.paired_empty seqs
    · intro confirm member
      cases member
    · intro confirm ended before next member
      cases member
  · intro trace events state next action coherent _ stepped
    exact coherent.step stepped

/-- Whenever an event is processed, its session id has been told to the
client, and for an accepted request the tables have it if and only if they had
it or had no session for the two users and the statements are executed. -/
theorem run_announcedSession
    (run : Transition.AnyRun FriendSystem.step (start seqs) trace system) :
    ∀ confirm ended before next,
      .processed confirm ended before next ∈ trace →
        Answered trace confirm ∧
          (confirm.action = 0 →
            (Announced confirm next ↔ Announceable confirm ended before)) := by
  intro confirm ended before next member
  obtain ⟨answered, paired, attempts, cancelled, replied⟩ :=
    (coherent_of_run run).reported _ _ _ _ member
  refine ⟨answered, ?_⟩
  intro zero
  rcases FriendServicer.confirmFriend_success replied with ⟨-, accepted⟩ |
    ⟨status, wrong, -⟩
  · exact announced_accepted_iff paired accepted
  · omega

/-- The report of an accepted request whose session id is not in the
tables. -/
def Unannounced : ConfirmReport → Bool
  | .processed confirm _ _ next =>
      confirm.action = 0 ∧ ¬ Announced confirm next
  | .answered _ _ _ _ => false

/-- User 2 accepts a request of user 1. -/
def accepting (sessionId : Int) : List FriendAction :=
  [.friendConfirm true 2 1 0 (.success sessionId) true,
    .confirmFriend 0 [.executed] false true]

theorem run_announcedSession_once :
    ∃ (trace : List ConfirmReport) (system : FriendSystem),
      (∀ confirm ended before next,
        .processed confirm ended before next ∈ trace →
          Answered trace confirm ∧
            (confirm.action = 0 →
              (Announced confirm next ↔
                Announceable confirm ended before))) ∧
      trace.length = 2 ∧ system.database.sessions = [⟨7, 1, 2⟩] := by
  have reached : ∃ (trace : List ConfirmReport) (system : FriendSystem),
      Transition.AnyRun FriendSystem.step (start [1, 2]) trace system ∧
      trace.length = 2 ∧ system.database.sessions = [⟨7, 1, 2⟩] := by
    apply Transition.Run.exists_both_of_exec (accepting 7)
    decide +kernel
  obtain ⟨trace, system, run, facts⟩ := reached
  exact ⟨trace, system, run_announcedSession run, facts⟩

/-- The request is accepted twice. -/
theorem second_session_unannounced :
    ¬ ∀ (seqs : List Int) (trace : List ConfirmReport)
      (system : FriendSystem),
      Transition.AnyRun FriendSystem.step (start seqs) trace system →
      ∀ confirm ended before next,
        .processed confirm ended before next ∈ trace →
          confirm.action = 0 → Announced confirm next := by
  intro claimed
  have reached : ∃ (trace : List ConfirmReport) (system : FriendSystem),
      Transition.AnyRun FriendSystem.step (start [1, 2]) trace system ∧
      trace.any Unannounced = true := by
    apply Transition.Run.exists_both_of_exec (accepting 7 ++ accepting 8)
    decide +kernel
  obtain ⟨trace, system, run, some⟩ := reached
  obtain ⟨report, member, unannounced⟩ := List.any_eq_true.mp some
  cases report with
  | answered => cases unannounced
  | processed confirm ended before next =>
      obtain ⟨zero, different⟩ := of_decide_eq_true unannounced
      exact different (claimed _ _ _ run _ _ _ _ member zero)

end FriendSystem

end User

end TinyChat
