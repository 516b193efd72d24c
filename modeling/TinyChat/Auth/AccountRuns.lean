import TinyChat.Auth.AccountHistory

/-!
# What holds of accounts in every run

A login answers what the history says; an account that was confirmed is
never changed; and an account is confirmed only by a token that was signed
for it, at most ten minutes before.
-/

namespace TinyChat

namespace Auth

open Transition User

variable {libraries : Libraries} {trace events : List AccountEvent}
  {registration next : Registration} {action : RegistrationAction}

namespace Registration

theorem userRegister_accounts (handler : Registering) (skipped uid : Nat)
    (ended : StatementEnd) (accounts : Accounts) :
    (UserServicer.userRegister handler.request
      (hashPassword libraries handler) skipped uid ended accounts).2 =
      if executed ended then
        (accounts.registerUser skipped uid handler.request.email
          (hashPassword libraries handler) handler.request.username).2
      else accounts := by
  cases ended with
  | unavailable => rfl
  | lost trouble applied =>
      cases applied with
      | false => rfl
      | true => rfl
  | answered => rfl

theorem userRegisterConfirm_accounts (seq : Nat) (ended : StatementEnd)
    (accounts : Accounts) :
    (UserServicer.userRegisterConfirm seq ended accounts).2 =
      if executed ended then accounts.confirmUser seq else accounts := by
  cases ended with
  | unavailable => rfl
  | lost trouble applied =>
      cases applied with
      | false => rfl
      | true => rfl
  | answered => rfl

@[simp] theorem afterIteration_accounts (registration : Registration)
    (index : Nat) (iteration : Iteration) :
    (afterIteration registration index iteration).accounts =
      registration.accounts := by
  unfold afterIteration
  split <;> rfl

/-- What a step does to the accounts, with the events that belong to it. -/
inductive AccountStep (libraries : Libraries)
    (before : Accounts) : Accounts → List AccountEvent → Prop where
  | quiet {events : List AccountEvent} :
      (∀ event ∈ events, event.Quiet) →
      AccountStep libraries before before events
  | registered {after : Accounts} {row : Option AccountRow}
      {password salt : String} :
      Accounts.Registered (libraries.generatePasswordHash password salt)
        before after row →
      before.nextSeq ≤ after.nextSeq →
      AccountStep libraries before after
        (row.toList.map (fun row => .registered ⟨password, salt, row⟩))
  | confirmed {seq : Nat} {ended : StatementEnd} :
      executed ended = true →
      AccountStep libraries before (before.confirmUser seq)
        (confirmedEvents seq ended before)

theorem confirmedEvents_unexecuted {ended : StatementEnd}
    (unexecuted : executed ended = false) (seq : Nat)
    (accounts : Accounts) : confirmedEvents seq ended accounts = [] := by
  unfold confirmedEvents
  split
  · rfl
  · simp [unexecuted]

theorem accountStep (wellFormed : registration.accounts.WellFormed)
    (stepped : step libraries registration action = some (next, events)) :
    AccountStep libraries registration.accounts next.accounts events := by
  have silent : ∀ event ∈ ([] : List AccountEvent), event.Quiet := by
    intro event member
    cases member
  cases action with
  | wait elapsed =>
      cases stepped
      exact .quiet silent
  | userRegister request salt =>
      cases stepped
      exact .quiet silent
  | iterate index skipped uid ended =>
      simp only [step] at stepped
      split at stepped
      · cases stepped
      · rename_i handler _
        cases stepped
        rw [afterIteration_accounts]
        simp only [userRegister_accounts, storedEvents]
        cases applied : executed ended with
        | false => exact .quiet silent
        | true =>
            obtain ⟨registered, later⟩ :=
              Accounts.registerUser_registered skipped uid
                handler.request.email handler.request.username wellFormed
                (libraries.fits handler.request.password handler.salt)
            exact .registered registered later
  | authRegister index server stamp =>
      simp only [step] at stepped
      split at stepped
      · cases stepped
      · cases stepped
        apply AccountStep.quiet
        intro event member
        cases List.mem_singleton.mp member
        trivial
  | authRegisterConfirm server token =>
      simp only [step] at stepped
      split at stepped
      · cases stepped
        apply AccountStep.quiet
        intro event member
        cases List.mem_singleton.mp member
        trivial
      · cases stepped
        exact .quiet silent
  | userRegisterConfirm index ended =>
      simp only [step] at stepped
      split at stepped
      · cases stepped
      · rename_i seq _
        cases stepped
        simp only [userRegisterConfirm_accounts]
        cases applied : executed ended with
        | false =>
            rw [confirmedEvents_unexecuted applied]
            exact .quiet silent
        | true => exact .confirmed applied
  | userLogin email password ended =>
      cases stepped
      apply AccountStep.quiet
      intro event member
      cases List.mem_singleton.mp member
      trivial

theorem AccountStep.remembers {before after : Accounts}
    (changed : AccountStep libraries before after events)
    (remembers : Remembers libraries trace before) :
    Remembers libraries (trace ++ events) after := by
  cases changed with
  | quiet quiet => exact remembers.quiet remembers.wellFormed rfl quiet
  | registered registered later =>
      exact remembers.registerUser registered later
  | confirmed executed => exact remembers.confirmUser _ executed

theorem AccountStep.grows {before after : Accounts}
    (changed : AccountStep libraries before after events)
    (wellFormed : before.WellFormed) : before.Grows after := by
  cases changed with
  | quiet quiet => exact .refl _
  | registered registered later => exact registered.grows wellFormed
  | confirmed executed => exact Accounts.confirmUser_grows _ _

theorem AccountStep.wellFormed {before after : Accounts}
    (changed : AccountStep libraries before after events)
    (wellFormed : before.WellFormed) : after.WellFormed := by
  cases changed with
  | quiet _ => exact wellFormed
  | registered registered later => exact registered.wellFormed wellFormed later
  | confirmed _ => exact Accounts.confirmUser_wellFormed wellFormed _

theorem run_remembers {allowed : Registration → RegistrationAction → Prop}
    (run : Run (step libraries) allowed {} trace registration) :
    Remembers libraries trace registration.accounts := by
  induction run with
  | refl => exact .start libraries
  | snoc _ _ stepped induction =>
      exact (accountStep induction.wellFormed stepped).remembers induction

theorem run_grows {allowed : Registration → RegistrationAction → Prop}
    {later : List AccountEvent}
    (wellFormed : registration.accounts.WellFormed)
    (run : Run (step libraries) allowed registration later next) :
    next.accounts.WellFormed ∧ registration.accounts.Grows next.accounts := by
  induction run with
  | refl => exact ⟨wellFormed, .refl _⟩
  | snoc _ _ stepped induction =>
      obtain ⟨reached, grown⟩ := induction
      have changed := accountStep reached stepped
      exact ⟨changed.wellFormed reached, grown.trans (changed.grows reached)⟩

end Registration

namespace Remembers

variable {accounts : Accounts}

theorem userLogin_eq (remembers : Remembers libraries trace accounts)
    (email password : String) :
    UserServicer.userLogin libraries.checkPasswordHash email password
        .answered accounts =
      expectedLogin libraries trace email password := by
  unfold UserServicer.userLogin expectedLogin
  cases found : accounts.find email with
  | none =>
      cases last : lastEntry trace email with
      | none => rfl
      | some entry =>
          obtain ⟨member, same⟩ := lastEntry_mem last
          obtain ⟨row, listed, equal, _⟩ := remembers.kept entry member
          exact absurd (equal.trans same)
            (Rows.find_eq_none_iff.mp found row listed)
  | some row =>
      obtain ⟨member, rfl⟩ := Rows.mem_of_find found
      obtain ⟨entry, last, describes⟩ := remembers.last row member
      have seq : entry.row.seq = row.seq :=
        congrArg UserDetailedInfo.seq describes.info
      simp only [last, seq, ← remembers.confirmed row member,
        describes.password, describes.info]

end Remembers

/-! ## Libraries for examples -/

/-- A token that counts. -/
def tally (server stamp : Nat) (info : ConfirmInfo) : List Char :=
  List.replicate server 'a' ++ List.replicate stamp 'b' ++
    List.replicate info.confirm 'c' ++ List.replicate info.exp.toNat 'd' ++
    List.replicate (-info.exp).toNat 'e'

def untally (server : Nat) (token : String) : Loaded :=
  let marks := token.toList
  if marks.count 'a' = server then
    .info ⟨marks.count 'c', marks.count 'd' - marks.count 'e'⟩
  else .raised

/-- The hash of a password is its beginning. -/
def sampleLibraries : Libraries where
  generatePasswordHash password _ :=
    String.ofList (password.toList.take 128)
  checkPasswordHash hash password :=
    hash = String.ofList (password.toList.take 128)
  dumps server stamp info := String.ofList (tally server stamp info)
  loads := untally
  clock _ := 300 * second
  fits := by
    intro password salt
    simp [List.length_take]

theorem sampleLibraries_loads (server stamp : Nat) (info : ConfirmInfo) :
    sampleLibraries.loads server (sampleLibraries.dumps server stamp info) =
      .info info := by
  have exp : max info.exp 0 - max (-info.exp) 0 = info.exp := by
    omega
  simp [sampleLibraries, untally, tally, List.count_replicate, exp]

theorem sampleLibraries_checks (password salt : String) :
    sampleLibraries.checkPasswordHash
      (sampleLibraries.generatePasswordHash password salt) password =
        true := by
  simp [sampleLibraries]

/-- Two registrations of one email and a token for the first one. -/
def sampleActions : List RegistrationAction :=
  [.userRegister ⟨"ann", "a@b", "one"⟩ "s", .iterate 0 0 7 .answered,
    .authRegister 0 2 1, .userRegister ⟨"bob", "a@b", "two"⟩ "t",
    .iterate 0 0 8 .answered]

/-- The token comes back. -/
def sampleConfirmation : List RegistrationAction :=
  [.authRegisterConfirm 2 "aabc", .userRegisterConfirm 0 .answered]

/-- In every reachable state a login is answered by the history: it succeeds
if and only if the account was confirmed and the password is that of the last
registration for the email. -/
theorem login_answers_history
    (run : AnyRun (Registration.step libraries) {} trace registration)
    (email password : String) :
    UserServicer.userLogin libraries.checkPasswordHash email password
        .answered registration.accounts =
      expectedLogin libraries trace email password :=
  (Registration.run_remembers run).userLogin_eq email password

/-- The last registration before the confirmation counts, not the one that
the token was signed for. -/
theorem login_answers_last_password :
    ∃ (trace : List AccountEvent) (registration : Registration),
      UserServicer.userLogin sampleLibraries.checkPasswordHash "a@b" "two"
          .answered registration.accounts =
        expectedLogin sampleLibraries trace "a@b" "two" ∧
      expectedLogin sampleLibraries trace "a@b" "two" =
        .success ⟨1, 7, "bob"⟩ := by
  obtain ⟨trace, registration, run, success⟩ :
      ∃ (trace : List AccountEvent) (registration : Registration),
        AnyRun (Registration.step sampleLibraries) {} trace registration ∧
        expectedLogin sampleLibraries trace "a@b" "two" =
          .success ⟨1, 7, "bob"⟩ := by
    apply Run.exists_both_of_exec (sampleActions ++ sampleConfirmation)
    decide +kernel
  exact ⟨trace, registration, login_answers_history run _ _, success⟩

/-- An account keeps its number, its id and its email, no other account ever
shares one of them, and after its confirmation nothing of it is changed. -/
theorem accounts_settle {later : List AccountEvent}
    (earlier : AnyRun (Registration.step libraries) {} trace registration)
    (run : AnyRun (Registration.step libraries) registration later next) :
    ∀ old ∈ registration.accounts.users, ∃ new ∈ next.accounts.users,
      old.Becomes new ∧ ∀ other ∈ next.accounts.users,
        other.seq = old.seq ∨ other.uid = old.uid ∨
          other.email = old.email → other = new := by
  obtain ⟨wellFormed, grown⟩ :=
    Registration.run_grows (Registration.run_remembers earlier).wellFormed
      run
  intro old member
  obtain ⟨new, listed, becomes⟩ := grown old member
  refine ⟨new, listed, becomes, ?_⟩
  rintro other present (same | same | same)
  · exact wellFormed.row_eq present listed (same.trans becomes.seq.symm)
  · exact List.inj_on_of_nodup_map wellFormed.uids present listed
      (same.trans becomes.uid.symm)
  · exact wellFormed.email_eq present listed
      (same.trans becomes.email.symm)

/-- A registration after the confirmation changes nothing. -/
theorem accounts_settle_confirmed :
    ∃ (final : Registration), final.accounts.nextSeq = 4 ∧
      ∃ new ∈ final.accounts.users,
        AccountRow.Becomes ⟨1, 7, "a@b", "two", "bob", true⟩ new ∧
        ∀ other ∈ final.accounts.users,
          other.seq = 1 ∨ other.uid = 7 ∨ other.email = "a@b" →
            other = new := by
  obtain ⟨_, registration, run, reached⟩ :
      ∃ (trace : List AccountEvent) (registration : Registration),
        AnyRun (Registration.step sampleLibraries) {} trace registration ∧
        registration =
          { accounts := ⟨[⟨1, 7, "a@b", "two", "bob", true⟩], 3⟩
            registered := [1]
            issued := [⟨2, "aabc", ⟨1, 0⟩, 0⟩] } := by
    apply Run.exists_state_of_exec (sampleActions ++ sampleConfirmation)
    decide +kernel
  obtain ⟨_, final, again, taken⟩ :
      ∃ (trace : List AccountEvent) (final : Registration),
        AnyRun (Registration.step sampleLibraries) registration trace
          final ∧ final.accounts.nextSeq = 4 := by
    subst reached
    apply Run.exists_state_of_exec
      [.userRegister ⟨"eve", "a@b", "three"⟩ "u", .iterate 0 0 9 .answered]
    decide +kernel
  exact ⟨final, taken, accounts_settle run again
    ⟨1, 7, "a@b", "two", "bob", true⟩ (by simp [reached])⟩

/-! ## Why an account is confirmed -/

/-- What is on its way has its reason in the history. -/
structure Pending (libraries : Libraries) (trace : List AccountEvent)
    (registration : Registration) : Prop where
  replied : ∀ seq ∈ registration.registered,
    ∃ entry, .registered entry ∈ trace ∧ entry.row.seq = seq
  signed : ∀ issue ∈ registration.issued, .issued issue ∈ trace ∧
    (∃ entry, .registered entry ∈ trace ∧
      entry.row.seq = issue.info.confirm) ∧
    (∃ stamp, issue.token =
      libraries.dumps issue.server stamp issue.info) ∧
    issue.info.exp =
      libraries.monotonic issue.server issue.time + 300 * second ∧
    issue.time ≤ registration.now
  accepted : ∀ seq ∈ registration.confirming,
    ∃ server token time, .accepted server token seq time ∈ trace

namespace Pending

/-- Nothing is added to what is on its way. -/
theorem mono (pending : Pending libraries trace registration)
    (replied : ∀ seq ∈ next.registered, seq ∈ registration.registered)
    (signed : next.issued = registration.issued)
    (accepted : ∀ seq ∈ next.confirming, seq ∈ registration.confirming)
    (now : registration.now ≤ next.now) :
    Pending libraries (trace ++ events) next where
  replied := by
    intro seq member
    obtain ⟨entry, earlier, same⟩ := pending.replied seq (replied seq member)
    exact ⟨entry, List.mem_append_left _ earlier, same⟩
  signed := by
    intro issue member
    rw [signed] at member
    obtain ⟨earlier, ⟨entry, registered, same⟩, token, exp, before⟩ :=
      pending.signed issue member
    exact ⟨List.mem_append_left _ earlier,
      ⟨entry, List.mem_append_left _ registered, same⟩, token, exp,
      before.trans now⟩
  accepted := by
    intro seq member
    obtain ⟨server, token, time, earlier⟩ :=
      pending.accepted seq (accepted seq member)
    exact ⟨server, token, time, List.mem_append_left _ earlier⟩

theorem later (pending : Pending libraries trace registration)
    (events : List AccountEvent) :
    Pending libraries (trace ++ events) registration :=
  pending.mono (fun _ member => member) rfl (fun _ member => member)
    (Int.le_refl _)

theorem of_registered (pending : Pending libraries trace registration)
    {seq : Nat} {entry : Entry} (member : .registered entry ∈ events)
    (same : entry.row.seq = seq) (registered : next.registered =
      registration.registered ++ [seq])
    (signed : next.issued = registration.issued)
    (accepted : next.confirming = registration.confirming)
    (now : next.now = registration.now) :
    Pending libraries (trace ++ events) next := by
  have kept := pending.later events
  constructor
  · intro number present
    rw [registered, List.mem_append, List.mem_singleton] at present
    rcases present with present | rfl
    · exact kept.replied number present
    · exact ⟨entry, List.mem_append_right _ member, same⟩
  · rw [signed, now]
    exact kept.signed
  · rw [accepted]
    exact kept.accepted

end Pending

namespace Registration

theorem registerResult_success {seq : Nat}
    {result : Except RegisterError (Option (Nat × Bool))}
    (success : UserServicer.registerResult result =
      .replied (.success seq)) : result = .ok (some (seq, false)) := by
  unfold UserServicer.registerResult at success
  split at success
  · unfold UserServicer.registerFailure at success
    split at success
    · cases success
    · cases success
  · cases success
  · cases success
  · cases success
    rfl

theorem userRegister_success {handler : Registering} {skipped uid seq : Nat}
    {ended : StatementEnd} {accounts : Accounts}
    (success : (UserServicer.userRegister handler.request
      (hashPassword libraries handler) skipped uid ended accounts).1 =
        .replied (.success seq)) :
    ∃ entry, .registered entry ∈
        storedEvents libraries handler skipped uid ended accounts ∧
      entry.row.seq = seq := by
  have failing : ∀ status, UserServicer.registerFailure status ≠
      .replied (.success seq) := by
    intro status
    unfold UserServicer.registerFailure
    split
    · intro impossible
      cases impossible
    · intro impossible
      cases impossible
  cases ended with
  | unavailable => cases success
  | lost trouble applied => exact absurd success (failing _)
  | answered =>
      obtain ⟨row, stored, same⟩ :=
        Accounts.stored_of_returned (registerResult_success success)
      refine ⟨⟨handler.request.password, handler.salt, row⟩, ?_, same⟩
      simp [storedEvents, executed, stored]

theorem iterate_pending (pending : Pending libraries trace registration)
    {handler : Registering} (index skipped uid : Nat)
    (ended : StatementEnd) :
    let result := UserServicer.userRegister handler.request
      (hashPassword libraries handler) skipped uid ended
      registration.accounts
    Pending libraries
      (trace ++ storedEvents libraries handler skipped uid ended
        registration.accounts)
      (afterIteration { registration with accounts := result.2 } index
        result.1) := by
  intro result
  have unchanged : ∀ changed : Registration,
      changed.registered = registration.registered →
      changed.issued = registration.issued →
      changed.confirming = registration.confirming →
      changed.now = registration.now →
      Pending libraries (trace ++ storedEvents libraries handler skipped uid
        ended registration.accounts) changed := by
    intro changed registered issued confirming now
    apply pending.mono
    · intro seq member
      rw [← registered]
      exact member
    · exact issued
    · intro seq member
      rw [← confirming]
      exact member
    · rw [now]
  cases iteration : result.1 with
  | again => exact unchanged _ rfl rfl rfl rfl
  | raised => exact unchanged _ rfl rfl rfl rfl
  | replied reply =>
      cases reply with
      | failure code => exact unchanged _ rfl rfl rfl rfl
      | success seq =>
          obtain ⟨entry, member, same⟩ := userRegister_success iteration
          exact pending.of_registered member same rfl rfl rfl rfl

theorem step_pending (pending : Pending libraries trace registration)
    (stepped : step libraries registration action = some (next, events)) :
    Pending libraries (trace ++ events) next := by
  cases action with
  | wait elapsed =>
      cases stepped
      exact pending.mono (fun _ member => member) rfl
        (fun _ member => member) (by simp only; omega)
  | userRegister request salt =>
      cases stepped
      exact pending.mono (fun _ member => member) rfl
        (fun _ member => member) (Int.le_refl _)
  | iterate index skipped uid ended =>
      simp only [step] at stepped
      split at stepped
      · cases stepped
      · cases stepped
        exact iterate_pending pending index skipped uid ended
  | authRegister index server stamp =>
      simp only [step] at stepped
      split at stepped
      · cases stepped
      · rename_i seq found
        cases stepped
        have kept := pending.later [.issued
          { server
            token := libraries.dumps server stamp
              (libraries.confirmInfo server registration.now seq)
            info := libraries.confirmInfo server registration.now seq
            time := registration.now }]
        constructor
        · intro number member
          exact kept.replied number (List.mem_of_mem_eraseIdx member)
        · intro issue member
          rcases List.mem_append.mp member with member | member
          · exact kept.signed issue member
          · cases List.mem_singleton.mp member
            exact ⟨by simp, kept.replied seq (List.mem_of_getElem? found),
              ⟨stamp, rfl⟩, rfl, Int.le_refl _⟩
        · exact kept.accepted
  | authRegisterConfirm server token =>
      simp only [step] at stepped
      split at stepped
      · rename_i seq _
        cases stepped
        have kept := pending.later
          [.accepted server token seq registration.now]
        constructor
        · exact kept.replied
        · exact kept.signed
        · intro number member
          rcases List.mem_append.mp member with member | member
          · exact kept.accepted number member
          · cases List.mem_singleton.mp member
            exact ⟨server, token, registration.now, by simp⟩
      · cases stepped
        exact pending.later []
  | userRegisterConfirm index ended =>
      simp only [step] at stepped
      split at stepped
      · cases stepped
      · cases stepped
        exact pending.mono (fun _ member => member) rfl
          (fun _ member => List.mem_of_mem_eraseIdx member) (Int.le_refl _)
  | userLogin email password ended =>
      cases stepped
      exact pending.mono (fun _ member => member) rfl
        (fun _ member => member) (Int.le_refl _)

/-- Every event of a step is justified by those before it. -/
theorem step_justified (remembers : Remembers libraries trace
      registration.accounts)
    (pending : Pending libraries trace registration)
    (signed : Signed libraries registration action)
    (stepped : step libraries registration action = some (next, events)) :
    EachEvent Justified trace events := by
  cases action with
  | wait elapsed =>
      cases stepped
      trivial
  | userRegister request salt =>
      cases stepped
      trivial
  | iterate index skipped uid ended =>
      simp only [step] at stepped
      split at stepped
      · cases stepped
      · rename_i handler _
        cases stepped
        unfold storedEvents
        split
        · obtain ⟨registered, _⟩ :=
            Accounts.registerUser_registered skipped uid
              handler.request.email handler.request.username
              remembers.wellFormed
              (libraries.fits handler.request.password handler.salt)
          cases stored : Accounts.stored
              (registration.accounts.registerUser skipped uid
                handler.request.email (hashPassword libraries handler)
                handler.request.username) with
          | none => trivial
          | some row =>
              rw [hashPassword] at stored
              rw [stored] at registered
              exact ⟨remembers.stored_fresh registered, trivial⟩
        · trivial
  | authRegister index server stamp =>
      simp only [step] at stepped
      split at stepped
      · cases stepped
      · rename_i seq found
        cases stepped
        refine ⟨?_, trivial⟩
        exact pending.replied seq (List.mem_of_getElem? found)
  | authRegisterConfirm server token =>
      simp only [step] at stepped
      split at stepped
      · rename_i seq checked
        cases stepped
        refine ⟨?_, trivial⟩
        unfold checkConfirmation at checked
        split at checked
        · cases checked
        · cases checked
        · rename_i info loaded
          split at checked
          · cases checked
          · rename_i within
            cases checked
            simp only [Signed, loaded] at signed
            obtain ⟨issue, member, rfl, rfl⟩ := signed
            obtain ⟨earlier, _, _, exp, before⟩ :=
              pending.signed issue member
            refine ⟨issue, earlier, rfl, rfl, before, ?_⟩
            simp only [exp, Libraries.monotonic] at within
            omega
      · cases stepped
        trivial
  | userRegisterConfirm index ended =>
      simp only [step] at stepped
      split at stepped
      · cases stepped
      · rename_i seq found
        cases stepped
        unfold confirmedEvents
        split
        · trivial
        · rename_i row listed
          split
          · rename_i unconfirmed
            obtain ⟨member, rfl⟩ := Rows.mem_of_find listed
            refine ⟨⟨pending.accepted _ (List.mem_of_getElem? found), ?_⟩,
              trivial⟩
            exact remembers.unconfirmed member unconfirmed.2
          · trivial
  | userLogin email password ended =>
      cases stepped
      exact ⟨trivial, trivial⟩

theorem pending_start (libraries : Libraries) :
    Pending libraries [] {} where
  replied := by
    intro seq member
    cases member
  signed := by
    intro issue member
    cases member
  accepted := by
    intro seq member
    cases member

theorem run_pending {allowed : Registration → RegistrationAction → Prop}
    (run : Run (step libraries) allowed {} trace registration) :
    Pending libraries trace registration := by
  induction run with
  | refl => exact pending_start libraries
  | snoc _ _ stepped induction => exact step_pending induction stepped

end Registration

/-- If tokens cannot be forged, then every account that is confirmed was
confirmed through a token that was signed for it at most ten minutes before,
after its registration, and no registration changes it afterwards. -/
theorem confirmations_justified
    (run : Run (Registration.step libraries)
      (Registration.Signed libraries) {} trace registration) :
    EachEvent Justified [] trace := by
  induction run with
  | refl => trivial
  | snoc earlier signed stepped induction =>
      apply (eachEvent_append _ _ _).mpr
      refine ⟨induction, ?_⟩
      exact Registration.step_justified
        (Registration.run_remembers earlier)
        (Registration.run_pending earlier) signed stepped

theorem confirmations_justified_sample :
    ∃ trace, .confirmed 1 ∈ trace ∧ EachEvent Justified [] trace := by
  obtain ⟨trace, _, run, confirmed⟩ :
      ∃ (trace : List AccountEvent) (registration : Registration),
        Run (Registration.step sampleLibraries)
          (Registration.Signed sampleLibraries) {} trace registration ∧
        .confirmed 1 ∈ trace := by
    apply Run.exists_both_of_exec (sampleActions ++ sampleConfirmation)
    decide +kernel
  exact ⟨trace, confirmed, confirmations_justified run⟩

/-- A signed token is accepted by its server for ten minutes, five longer
than the time that it names. -/
theorem checkConfirmation_issued
    (lawful : ∀ server stamp info,
      libraries.loads server (libraries.dumps server stamp info) =
        .info info)
    (pending : Pending libraries trace registration) {issue : Issued}
    (member : issue ∈ registration.issued) :
    checkConfirmation libraries issue.server registration.now
        issue.token =
      if registration.now ≤ issue.time + 600 * second then
        .call issue.info.confirm
      else .expired := by
  obtain ⟨_, _, ⟨stamp, token⟩, exp, _⟩ := pending.signed issue member
  simp only [checkConfirmation, token, lawful, exp, Libraries.monotonic]
  by_cases within : registration.now ≤ issue.time + 600 * second
  · rw [if_pos within, if_neg (by omega)]
  · rw [if_neg within, if_pos (by omega)]

/-- An account that was confirmed can be logged in with the password of the
last registration. -/
theorem Remembers.login_confirmed {accounts : Accounts}
    (checks : ∀ password salt, libraries.checkPasswordHash
      (libraries.generatePasswordHash password salt) password = true)
    (remembers : Remembers libraries trace accounts) {entry : Entry}
    (last : lastEntry trace entry.row.email = some entry)
    (confirmed : .confirmed entry.row.seq ∈ trace) :
    UserServicer.userLogin libraries.checkPasswordHash entry.row.email
        entry.password .answered accounts = .success entry.row.info := by
  rw [remembers.userLogin_eq, expectedLogin, last]
  simp only [if_pos confirmed, checks, if_true]

theorem lastEntry_confirmedEvents (trace : List AccountEvent) (seq : Nat)
    (ended : StatementEnd) (accounts : Accounts) (email : String) :
    lastEntry (trace ++ Registration.confirmedEvents seq ended accounts)
      email = lastEntry trace email := by
  rw [lastEntry_append]
  unfold Registration.confirmedEvents
  split
  · rfl
  · split
    · rfl
    · rfl

theorem Accounts.confirmUser_confirmed {accounts : Accounts}
    {row : AccountRow} (member : row ∈ accounts.users) :
    ∃ new ∈ (accounts.confirmUser row.seq).users,
      new.seq = row.seq ∧ new.confirmed = true := by
  refine ⟨Accounts.confirmed row, ?_, (Accounts.confirmed_keeps row).1, ?_⟩
  · exact Rows.mem_update.mpr ⟨row, member, by simp⟩
  · unfold Accounts.confirmed
    split
    · rfl
    · rename_i settled
      simpa using settled

/-- A token is accepted, and no other one is. -/
structure AcceptsOnly (issue : Issued) (later : List AccountEvent) :
    Prop where
  accepted : ∃ time,
    .accepted issue.server issue.token issue.info.confirm time ∈ later
  only : ∀ server token seq time, .accepted server token seq time ∈ later →
    server = issue.server ∧ token = issue.token

theorem acceptsOnly_of_tail {issue : Issued} {time : Int}
    {events : List AccountEvent}
    (silent : ∀ server token seq time,
      .accepted server token seq time ∉ events) :
    AcceptsOnly issue
      (.accepted issue.server issue.token issue.info.confirm time ::
        events) where
  accepted := ⟨time, List.mem_cons_self⟩
  only := by
    intro server token seq other member
    rcases List.mem_cons.mp member with same | later
    · cases same
      exact ⟨rfl, rfl⟩
    · exact absurd later (silent server token seq other)

theorem accepted_notMem_confirmedEvents {seq : Nat} {ended : StatementEnd}
    {accounts : Accounts} (server : Nat) (token : String) (number : Nat)
    (time : Int) :
    .accepted server token number time ∉
      Registration.confirmedEvents seq ended accounts := by
  unfold Registration.confirmedEvents
  split
  · exact List.not_mem_nil
  · split
    · simp
    · exact List.not_mem_nil

/-- Within ten minutes a token lets whoever registered the email last log in,
even if the token was signed for an earlier registration. -/
theorem token_activates_last_registration
    (lawful : ∀ server stamp info,
      libraries.loads server (libraries.dumps server stamp info) =
        .info info)
    (checks : ∀ password salt, libraries.checkPasswordHash
      (libraries.generatePasswordHash password salt) password = true)
    (run : AnyRun (Registration.step libraries) {} trace registration) :
    ∀ issue ∈ registration.issued,
      registration.now ≤ issue.time + 600 * second →
      ∃ entry later final, entry.row.seq = issue.info.confirm ∧
        lastEntry trace entry.row.email = some entry ∧
        AcceptsOnly issue later ∧
        Run (Registration.step libraries) (Registration.Signed libraries)
          registration
          (later ++ [.answered entry.row.email entry.password
            (.success entry.row.info)])
          final := by
  intro issue member within
  have remembers := Registration.run_remembers run
  have pending := Registration.run_pending run
  obtain ⟨_, ⟨first, stored, number⟩, ⟨stamp, written⟩, _⟩ :=
    pending.signed issue member
  obtain ⟨row, listed, _, seq⟩ := remembers.kept first stored
  obtain ⟨entry, last, describes⟩ := remembers.last row listed
  have email := (lastEntry_mem last).2
  have same : entry.row.seq = issue.info.confirm :=
    (congrArg UserDetailedInfo.seq describes.info).trans (seq.trans number)
  have own : row.seq = issue.info.confirm := seq.trans number
  have accepted := checkConfirmation_issued lawful pending member
  rw [if_pos within] at accepted
  have signed : Registration.Signed libraries registration
      (.authRegisterConfirm issue.server issue.token) := by
    simp only [Registration.Signed, written, lawful]
    exact ⟨issue, member, rfl, rfl⟩
  have first : Run (Registration.step libraries)
      (Registration.Signed libraries) registration
      ([] ++ [.accepted issue.server issue.token issue.info.confirm
        registration.now])
      { registration with
        confirming := registration.confirming ++ [issue.info.confirm] } := by
    apply Run.act .refl (.authRegisterConfirm issue.server issue.token)
      signed
    simp only [Registration.step, accepted]
  have second := first.act
    (.userRegisterConfirm registration.confirming.length .answered) trivial
    (by
      simp only [Registration.step, List.getElem?_concat_length]
      rfl)
  have third := second.act
    (.userLogin entry.row.email entry.password .answered) trivial rfl
  have reached := Registration.run_remembers (run.trans second.any)
  obtain ⟨new, present, numbered, confirmed⟩ :=
    Accounts.confirmUser_confirmed listed
  rw [own] at present
  have event := (reached.confirmed new present).mp confirmed
  have unchanged : ∀ address, lastEntry (trace ++ ([] ++
      [.accepted issue.server issue.token issue.info.confirm
        registration.now] ++
      Registration.confirmedEvents issue.info.confirm .answered
        registration.accounts)) address = lastEntry trace address := by
    intro address
    rw [← List.append_assoc, lastEntry_confirmedEvents]
    apply lastEntry_quiet
    intro other listed
    cases List.mem_singleton.mp listed
    trivial
  have remembered : lastEntry (trace ++ ([] ++
      [.accepted issue.server issue.token issue.info.confirm
        registration.now] ++
      Registration.confirmedEvents issue.info.confirm .answered
        registration.accounts)) entry.row.email = some entry := by
    rw [unchanged, email]
    exact last
  have numberEq : AccountEvent.confirmed entry.row.seq =
      .confirmed new.seq := by
    rw [numbered, own, same]
  rw [← numberEq] at event
  have answer := reached.login_confirmed checks remembered event
  refine ⟨entry, _, _, same, ?_, ?_, answer ▸ third⟩
  · rw [email]
    exact last
  · apply acceptsOnly_of_tail
    intro server token other time
    exact accepted_notMem_confirmedEvents server token other time

theorem token_activates_sample :
    ∃ (trace : List AccountEvent) (registration : Registration),
      registration.issued = [⟨2, "aabc", ⟨1, 0⟩, 0⟩] ∧
      ∃ entry later final, entry.row.seq = 1 ∧
        lastEntry trace entry.row.email = some entry ∧
        AcceptsOnly ⟨2, "aabc", ⟨1, 0⟩, 0⟩ later ∧
        Run (Registration.step sampleLibraries)
          (Registration.Signed sampleLibraries) registration
          (later ++ [.answered entry.row.email entry.password
            (.success entry.row.info)])
          final := by
  obtain ⟨trace, registration, run, issued, now⟩ :
      ∃ (trace : List AccountEvent) (registration : Registration),
        AnyRun (Registration.step sampleLibraries) {} trace registration ∧
        registration.issued = [⟨2, "aabc", ⟨1, 0⟩, 0⟩] ∧
        registration.now = 0 := by
    apply Run.exists_state_of_exec sampleActions
    decide +kernel
  exact ⟨trace, registration, issued,
    token_activates_last_registration sampleLibraries_loads
      sampleLibraries_checks run ⟨2, "aabc", ⟨1, 0⟩, 0⟩
      (by simp [issued]) (by simp [now, second])⟩

end Auth

end TinyChat
