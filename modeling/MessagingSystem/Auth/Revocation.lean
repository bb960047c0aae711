import MessagingSystem.Auth.RefreshFamily

/-!
# Revoking all sessions

Changing the password, logging out everywhere and deactivating an account revoke the
sessions that are committed at that time.  A login that has read the password and has
not committed yet escapes.  When no login commits after a revocation of its user that it
has not read, and no revocation after a login of its user that it has not read, every
session that is still open was opened with a password read after all revocations.
-/

namespace MessagingSystem

open Foundation
open Foundation.Script

variable {store : Store AccountDatabase AccountRequest}

/-!
# Logins and revocations in progress
-/

/-- The user for whom a login has accepted the password but not committed yet. -/
def passedPasswordCheck (env : AuthEnv) (s : Session AccountDatabase AccountRequest) :
    Option Uuid :=
  match s.request, s.seen with
  | AccountRequest.login call, [db] =>
      match openSession env call db with
      | Except.ok (AccountResult.loggedIn _ session _ _) => some session.userId
      | _ => none
  | _, _ => none

/--
No revocation of its user was committed since a login read the password, and no session of
its user was opened since a revocation began to read.
-/
def NotOvertaken (env : AuthEnv) (s : Session AccountDatabase AccountRequest)
    (db : AccountDatabase) : Prop :=
  (forall userId, userId ∈ passedPasswordCheck env s -> forall first, first ∈ s.seen ->
    first.revocations userId = db.revocations userId) ∧
  (forall userId, userId ∈ s.request.revokedUser env -> forall d, d ∈ s.seen ->
    forall p, p ∈ db.sessions.rows -> isOpenSessionOf userId db p.1 = true ->
      isOpenSessionOf userId d p.1 = true)

instance (env : AuthEnv) (s : Session AccountDatabase AccountRequest) (db : AccountDatabase) :
    Decidable (NotOvertaken env s db) :=
  -- Not left to inference, which would go through all 2 ^ 128 identifiers.
  @instDecidableAnd _ _ (Option.decidableForallMem _) (Option.decidableForallMem _)

/-- A login or a revocation of its user is not committed over the other. -/
def NoOverlap (env : AuthEnv) (store : Store AccountDatabase AccountRequest) :
    AccountStoreLabel -> Prop
  | StoreLabel.commit t =>
      forall s, s ∈ store.sessions.get t -> NotOvertaken env s store.committed
  | _ => True

instance (env : AuthEnv) (store : Store AccountDatabase AccountRequest) :
    (label : AccountStoreLabel) -> Decidable (NoOverlap env store label)
  | StoreLabel.commit t => inferInstanceAs (Decidable (forall s,
      s ∈ store.sessions.get t -> NotOvertaken env s store.committed))
  | StoreLabel.begin _ _ => isTrue trivial
  | StoreLabel.statement _ => isTrue trivial
  | StoreLabel.rollback _ => isTrue trivial
  | StoreLabel.outside _ => isTrue trivial

/-- Every open session comes from a password read after the last revocation. -/
def LoginsCurrent (db : AccountDatabase) : Prop :=
  forall sessionId userId token revocationsSeen,
    AccountEvent.opened sessionId userId token revocationsSeen ∈ db.history ->
    forall session, db.sessions.get sessionId = some session -> session.revokedAt = none ->
      revocationsSeen = db.revocations userId

section

variable {env : AuthEnv} {db db' : AccountDatabase} {userId sessionId : Uuid}
  {s : Session AccountDatabase AccountRequest}

/-- A session that is open for the user. -/
def OpenFor (db : AccountDatabase) (userId sessionId : Uuid) : Prop :=
  exists session, db.sessions.get sessionId = some session ∧ session.userId = userId ∧
    session.revokedAt = none

theorem isOpenSessionOf_iff :
    isOpenSessionOf userId db sessionId = true ↔ OpenFor db userId sessionId := by
  unfold isOpenSessionOf OpenFor
  cases hget : db.sessions.get sessionId with
  | none => simp
  | some session => simp [Option.isNone_iff_eq_none]

/-- What is open at the commit was already open at every read of the revocation. -/
theorem NotOvertaken.openFor (h : NotOvertaken env s db)
    (hrequest : s.request.revokedUser env = some userId) (hopen : OpenFor db userId sessionId)
    {d : AccountDatabase} (hd : d ∈ s.seen) : OpenFor d userId sessionId := by
  rcases hopen with ⟨session, hget, hrest⟩
  exact isOpenSessionOf_iff.mp (h.2 userId hrequest d hd (sessionId, session)
    (Table.mem_rows.mpr hget) (isOpenSessionOf_iff.mpr ⟨session, hget, hrest⟩))

/-!
# What is known of every committed database
-/

structure RevocationsOk (db : AccountDatabase) : Prop where
  opened : forall sessionId userId token revocationsSeen,
    AccountEvent.opened sessionId userId token revocationsSeen ∈ db.history ->
    exists session, db.sessions.get sessionId = some session ∧ session.userId = userId
  current : LoginsCurrent db

/-- A commit that opens no session and revokes no user. -/
structure QuietChange (db db' : AccountDatabase) : Prop where
  opened : forall sessionId userId token revocationsSeen,
    AccountEvent.opened sessionId userId token revocationsSeen ∈ db'.history ->
    AccountEvent.opened sessionId userId token revocationsSeen ∈ db.history
  revocations : forall userId, db'.revocations userId = db.revocations userId
  wasOpen : forall userId sessionId, OpenFor db' userId sessionId ->
    OpenFor db userId sessionId

/-- A login of the history has its session in every later state. -/
theorem RevocationsOk.opened_later (h : RevocationsOk db) (hgrow : SessionsGrow db db')
    {id : Uuid} {token : String} {seen : Nat}
    (hevent : AccountEvent.opened id userId token seen ∈ db.history) :
    exists row, db'.sessions.get id = some row ∧ row.userId = userId := by
  rcases h.opened id userId token seen hevent with ⟨row, hget, huser⟩
  rcases hgrow.2 id row hget with ⟨row', hget', hlater⟩
  exact ⟨row', hget', hlater.userId.trans huser⟩

theorem RevocationsOk.change (h : RevocationsOk db) (hgrow : SessionsGrow db db')
    (hquiet : QuietChange db db') : RevocationsOk db' := by
  refine ⟨?_, ?_⟩
  · intro sessionId userId token seen hevent
    exact h.opened_later hgrow (hquiet.opened sessionId userId token seen hevent)
  · intro sessionId userId token seen hevent session hget hopen
    have hbefore := hquiet.opened sessionId userId token seen hevent
    rcases hquiet.wasOpen session.userId sessionId ⟨session, hget, rfl, hopen⟩ with
      ⟨session', hget', _, hopen'⟩
    rw [hquiet.revocations userId]
    exact h.current sessionId userId token seen hbefore session' hget' hopen'

/-!
# Quiet commits
-/

variable {events : List AccountEvent}

/-- An event that neither opens a session nor revokes all of a user's. -/
def AccountEvent.isQuiet : AccountEvent -> Bool
  | opened _ _ _ _ => false
  | sessionsRevoked _ => false
  | _ => true

theorem revocations_append (hhistory : db'.history = db.history ++ events)
    (hnone : AccountEvent.sessionsRevoked userId ∉ events) :
    db'.revocations userId = db.revocations userId := by
  unfold AccountDatabase.revocations
  rw [hhistory, List.count_append, List.count_eq_zero_of_not_mem hnone, Nat.add_zero]

/-- Revoking sessions opens none. -/
theorem openFor_of_ended (hrows : EndedRows db db') :
    forall userId id, OpenFor db' userId id -> OpenFor db userId id := by
  intro userId id h
  rcases h with ⟨row, hget, huser, hopen⟩
  rcases hrows id with hsame | ⟨session, session', _, hget', revokedAt, replayedAt, hended⟩
  · rw [hsame] at hget
    exact ⟨row, hget, huser, hopen⟩
  · rw [hget'] at hget
    cases hget
    rw [hended] at hopen
    cases hopen

theorem causeEvents_isQuiet (cause : RevocationCause) (sessionId : Uuid) :
    forall event, event ∈ cause.events sessionId -> event.isQuiet = true := by
  intro event hevent
  cases cause with
  | requested | accountInactive => cases hevent
  | logout | replay =>
      rw [List.mem_singleton.mp hevent]
      rfl

theorem QuietChange.of_step {events : List AccountEvent} (hstep : SessionsStep env db db')
    (hhistory : db'.history = db.history ++ events)
    (hevents : forall event, event ∈ events -> event.isQuiet = true) : QuietChange db db' := by
  refine ⟨?_, ?_, ?_⟩
  · intro sessionId userId token seen hevent
    rw [hhistory] at hevent
    rcases List.mem_append.mp hevent with hevent | hevent
    · exact hevent
    · cases hevents _ hevent
  · intro userId
    refine revocations_append hhistory ?_
    intro hmem
    cases hevents _ hmem
  · intro userId id hopen
    cases hstep with
    | opened _ _ _ _ _ hadded =>
        rw [List.append_cancel_left (hhistory.symm.trans hadded)] at hevents
        cases hevents _ List.mem_cons_self
    | @exchanged _ session _ _ _ hsession hbefore _ hsessions huser =>
        rcases hopen with ⟨row, hget, howner, hnot⟩
        rw [hsessions] at hget
        rcases Table.get_set_some_cases hget with ⟨rfl, rfl⟩ | ⟨_, hget⟩
        · exact ⟨session, hsession, huser.symm.trans howner, hbefore⟩
        · exact ⟨row, hget, howner, hnot⟩
    | ended _ _ hsessions hended =>
        exact openFor_of_ended (endedRows_of_update hsessions hended) userId id hopen
    | revoked hrows => exact openFor_of_ended hrows userId id hopen

/-- A patch of an account by itself. -/
theorem QuietChange.patch (userId : Uuid) (patch : AccountPatch)
    (hsessions : db'.sessions = db.sessions)
    (hhistory : db'.history = (db.patchAccount env userId patch).history) :
    QuietChange db db' := by
  rcases patchAccount_events AccountEvent.isQuiet db userId patch rfl with
    ⟨events, hevents, hquiet⟩
  exact QuietChange.of_step (SessionsStep.patch hsessions hhistory) (hhistory.trans hevents) hquiet

/-- What a commit means for open sessions. -/
inductive OpenChange (env : AuthEnv) (s : Session AccountDatabase AccountRequest)
    (db db' : AccountDatabase) : Prop where
  | opened {first : AccountDatabase} {sessionId : Uuid} {session : UserSession}
      {token : String} (hlogin : passedPasswordCheck env s = some session.userId)
      (hseen : s.seen = [first]) (hnew : db.sessions.get sessionId = none)
      (hsessions : db'.sessions = db.sessions.set sessionId (some session))
      (hhistory : db'.history = db.history ++ [AccountEvent.opened sessionId session.userId
        token (first.revocations session.userId)])
  | revoked {between : AccountDatabase} {userId : Uuid}
      (hrequest : s.request.revokedUser env = some userId) (hquiet : QuietChange db between)
      (hnone : forall sessionId, (forall d, d ∈ s.seen -> OpenFor d userId sessionId) ->
        ¬OpenFor db' userId sessionId)
      (hwasOpen : forall userId sessionId, OpenFor db' userId sessionId ->
        OpenFor db userId sessionId)
      (hhistory : db'.history = between.history ++ [AccountEvent.sessionsRevoked userId])
  | quiet (hquiet : QuietChange db db')

theorem AccountEffect.openChange {trace : AccountTrace} {r : AccountResult}
    (h : AccountEffect env s.request trace r) (hseen : trace.map Prod.snd = s.seen)
    (hstable : forall key d, Locked trace key d -> keepsRow key d db)
    (hcommit : r.commit env db = some db') : OpenChange env s db db' := by
  have hstep := h.sessionsStep hstable hcommit
  cases h with
  | unchanged | challengeRevoked =>
      cases hcommit
      exact OpenChange.quiet (QuietChange.of_step hstep (List.append_nil _).symm nofun)
  | @loggedIn call first sessionId session token hrequest htrace hresult hopen hhash hexpires =>
      rcases Option.ite_none_right_eq_some.mp hcommit with ⟨hinsert, hcommit⟩
      cases hcommit
      have hnew := Option.isNone_iff_eq_none.mp ((Bool.and_eq_true _ _).mp hinsert).1
      have hfirst : s.seen = [first] := by
        rw [← hseen, htrace]
        rfl
      have hlogin : passedPasswordCheck env s = some session.userId := by
        unfold passedPasswordCheck
        rw [hrequest, hfirst]
        simp only [hresult]
      exact OpenChange.opened hlogin hfirst hnew rfl rfl
  | refreshed =>
      cases hcommit
      exact OpenChange.quiet (QuietChange.of_step hstep rfl (List.forall_mem_singleton.mpr rfl))
  | sessionRevoked =>
      cases hcommit
      exact OpenChange.quiet (QuietChange.of_step hstep rfl (causeEvents_isQuiet _ _))
  | @sessionsRevoked userId patch sessionIds revokedAt snapshot huser hpatch hsnapshot
      hupdated hall =>
      cases hcommit
      refine OpenChange.revoked huser
        (QuietChange.patch userId patch (patchAccount_sessions userId patch) rfl) ?_
        (openFor_of_ended (endedRows_of_revoke userId patch sessionIds revokedAt)) rfl
      intro sessionId hbefore hafter
      rcases hafter with ⟨session, hget, howner, hopen⟩
      rw [record_sessions, revokeSessions_get] at hget
      rw [hseen] at hsnapshot
      rcases hall sessionId (isOpenSessionOf_iff.mpr (hbefore snapshot hsnapshot)) with
        hid | ⟨d, hlocked, hclosed⟩
      · rw [if_pos hid] at hget
        rcases Option.map_eq_some_iff.mp hget with ⟨row, _, hrow⟩
        rw [← hrow] at hopen
        cases hopen
      · have hd : d ∈ s.seen := by
          rw [← hseen]
          exact List.mem_map_of_mem hlocked
        rw [isOpenSessionOf_iff.mpr (hbefore d hd)] at hclosed
        cases hclosed
  | accountChanged | addressChanged =>
      cases commit_accountChanged hcommit
      exact OpenChange.quiet (QuietChange.patch _ _ (patchAccount_sessions _ _) rfl)
  | challengeCreated =>
      rcases commit_challengeCreated hcommit with ⟨rows, heq⟩
      subst heq
      exact OpenChange.quiet (QuietChange.of_step hstep (List.append_nil _).symm nofun)
  | @challengeConsumed _ _ _ _ userId _ patch email _ _ hrequest htrace hloaded hlocked
      haddress hpatch =>
      cases hcommit
      rcases patchAccount_events_and AccountEvent.isQuiet db userId patch rfl
        (AccountEvent.challengeConsumed userId email) rfl with ⟨events, hhistory, hevents⟩
      exact OpenChange.quiet (QuietChange.of_step hstep hhistory hevents)

/-!
# Steps
-/

/-- A login commits, and no revocation of its user was committed since it read. -/
theorem RevocationsOk.commit_opened (h : RevocationsOk db) (hgrow : SessionsGrow db db')
    {session : UserSession} {token : String} (hnew : db.sessions.get sessionId = none)
    (hsessions : db'.sessions = db.sessions.set sessionId (some session))
    (hhistory : db'.history = db.history ++ [AccountEvent.opened sessionId session.userId
      token (db.revocations session.userId)]) : RevocationsOk db' := by
  have hcount : forall userId, db'.revocations userId = db.revocations userId := by
    intro userId
    refine revocations_append hhistory ?_
    intro hmem
    cases List.mem_singleton.mp hmem
  have hrow : db'.sessions.get sessionId = some session := by
    rw [hsessions, Table.get_set_self]
  have hcases : forall id userId token seen,
      AccountEvent.opened id userId token seen ∈ db'.history ->
      AccountEvent.opened id userId token seen ∈ db.history ∨
        id = sessionId ∧ userId = session.userId ∧ seen = db.revocations userId := by
    intro id userId token seen hevent
    rw [hhistory] at hevent
    rcases List.mem_append.mp hevent with hevent | hevent
    · exact Or.inl hevent
    · cases List.mem_singleton.mp hevent
      exact Or.inr ⟨rfl, rfl, rfl⟩
  refine ⟨?_, ?_⟩
  · intro id userId token seen hevent
    rcases hcases id userId token seen hevent with hold | ⟨hid, huser, _⟩
    · exact h.opened_later hgrow hold
    · rw [hid]
      exact ⟨session, hrow, huser.symm⟩
  · intro id userId token seen hevent row hget hopen
    rw [hcount userId]
    rcases hcases id userId token seen hevent with hold | ⟨_, _, hseen⟩
    · rcases h.opened id userId token seen hold with ⟨before, hbefore, _⟩
      have hne : id ≠ sessionId := by
        intro heq
        rw [heq, hnew] at hbefore
        cases hbefore
      rw [hsessions, Table.get_set_ne _ hne] at hget
      exact h.current id userId token seen hold row hget hopen
    · exact hseen

/-- A revocation commits and leaves its user no open session. -/
theorem RevocationsOk.commit_revoked (h : RevocationsOk db) (hgrow : SessionsGrow db db')
    {between : AccountDatabase} (hquiet : QuietChange db between)
    (hnone : forall sessionId, ¬OpenFor db' userId sessionId)
    (hwasOpen : forall userId sessionId, OpenFor db' userId sessionId ->
      OpenFor db userId sessionId)
    (hhistory : db'.history = between.history ++ [AccountEvent.sessionsRevoked userId]) :
    RevocationsOk db' := by
  have hcount : forall other, other ≠ userId ->
      db'.revocations other = db.revocations other := by
    intro other hne
    rw [← hquiet.revocations other]
    refine revocations_append hhistory ?_
    intro hmem
    cases List.mem_singleton.mp hmem
    exact hne rfl
  have hold : forall id other token seen,
      AccountEvent.opened id other token seen ∈ db'.history ->
      AccountEvent.opened id other token seen ∈ db.history := by
    intro id other token seen hevent
    rw [hhistory] at hevent
    rcases List.mem_append.mp hevent with hevent | hevent
    · exact hquiet.opened id other token seen hevent
    · cases List.mem_singleton.mp hevent
  have hopened : forall id other token seen,
      AccountEvent.opened id other token seen ∈ db'.history ->
      exists row, db'.sessions.get id = some row ∧ row.userId = other := by
    intro id other token seen hevent
    exact h.opened_later hgrow (hold id other token seen hevent)
  refine ⟨hopened, ?_⟩
  intro id other token seen hevent row hget hopen
  have howner : row.userId = other := by
    rcases hopened id other token seen hevent with ⟨row', hget', huser⟩
    cases hget.symm.trans hget'
    exact huser
  have hne : other ≠ userId := by
    intro heq
    exact hnone id ⟨row, hget, howner.trans heq, hopen⟩
  rw [hcount other hne]
  rcases hwasOpen other id ⟨row, hget, howner, hopen⟩ with ⟨before, hbefore, _, hopenBefore⟩
  exact h.current id other token seen (hold id other token seen hevent) before hbefore
    hopenBefore

theorem RevocationsOk.commit (h : RevocationsOk db) (hno : NotOvertaken env s db)
    (hgrow : SessionsGrow db db') (hchange : OpenChange env s db db') : RevocationsOk db' := by
  cases hchange with
  | @opened first sessionId session token hlogin hseen hnew hsessions hhistory =>
      have hfirst : first ∈ s.seen := by
        rw [hseen]
        exact List.mem_singleton_self first
      rw [hno.1 session.userId hlogin first hfirst] at hhistory
      exact h.commit_opened hgrow hnew hsessions hhistory
  | @revoked between userId hrequest hquiet hnone hwasOpen hhistory =>
      refine h.commit_revoked hgrow hquiet ?_ hwasOpen hhistory
      intro sessionId hopen
      refine hnone sessionId ?_ hopen
      intro d hd
      exact hno.openFor hrequest (hwasOpen userId sessionId hopen) hd
  | quiet hquiet => exact h.change hgrow hquiet

theorem revocationsOk_of_reachable
    (h : ((accountWorkload env).system.restrict (NoOverlap env)).Reachable store) :
    RevocationsOk store.committed := by
  refine Workload.restricted_invariant (accountGuarantee env) ?_ ?_ ?_ h
  · intro db hstart
    change db = AccountDatabase.empty at hstart
    subst hstart
    refine ⟨?_, ?_⟩
    · intro sessionId userId token seen hevent
      cases hevent
    · intro sessionId userId token seen hevent
      cases hevent
  · intro action db db' hok hrun
    rcases AccountAction.keeps hrun with ⟨hsessions, hhistory, _⟩
    have hstep : SessionsStep env db db' := SessionsStep.quiet hsessions hhistory
    exact hok.change hstep.grows
      (QuietChange.of_step hstep (hhistory.trans (List.append_nil _).symm) nofun)
  · intro store t s r db' hno hok hget hstable hreturns hcommit
    rcases hreturns.exists_ends with ⟨trace, hends, hseen⟩
    have heffect := AccountRequest.effect hends
    have hlocks : forall key d, Locked trace key d -> keepsRow key d store.committed :=
      fun key d hlocked => hstable.keeps_of_ends hends hseen hlocked
    exact hok.commit (hno s hget) (heffect.sessionsStep hlocks hcommit).grows
      (heffect.openChange hseen hlocks hcommit)

/-- Every session has the login that opened it in the history. -/
def LoginsRecorded (db : AccountDatabase) : Prop :=
  forall sessionId session, db.sessions.get sessionId = some session ->
    exists token revocationsSeen,
      AccountEvent.opened sessionId session.userId token revocationsSeen ∈ db.history

theorem LoginsRecorded.step (h : LoginsRecorded db) (hstep : SessionsStep env db db') :
    LoginsRecorded db' := by
  intro id row' hget'
  rcases hstep.rows hget' with ⟨row, hget, huser, _⟩ | ⟨_, hopened⟩
  · rcases h id row hget with ⟨token, seen, hevent⟩
    rcases hstep.grows.1 with ⟨events, hhistory⟩
    refine ⟨token, seen, ?_⟩
    rw [hhistory, huser]
    exact List.mem_append_left _ hevent
  · exact hopened

end

/-!
# Completeness of revocations
-/

/--
In a run in which no login commits over a revocation of its user that it has not read, and
no revocation over a login, every open session was opened with a password that was read
after the last committed revocation.
-/
theorem revocation_complete_without_overlap (env : AuthEnv)
    {store : Store AccountDatabase AccountRequest}
    (h : ((accountWorkload env).system.restrict (NoOverlap env)).Reachable store) :
    LoginsRecorded store.committed ∧ LoginsCurrent store.committed := by
  refine ⟨?_, (revocationsOk_of_reachable h).current⟩
  refine sessions_invariant ?_ (fun _ _ hdb hstep => hdb.step hstep) h.of_restrict
  intro sessionId session hget
  cases hget

def sampleAccess : AccessCall where
  token := "access"
  decodedAt := 7
  now := 7

def sampleChangePassword : ChangePasswordCall where
  access := sampleAccess
  currentPassword := "secret"
  newPassword := "changed"
  salt := ""
  now := 7
  order := []

/-- A second login reads the password, then the password is changed. -/
def survivingRun : List AccountStoreLabel :=
  firstLogin ++
    [StoreLabel.begin 1 (AccountRequest.login (sampleLogin 11 "second")),
      StoreLabel.statement 1,
      StoreLabel.begin 2 (AccountRequest.changePassword sampleChangePassword),
      StoreLabel.statement 2,
      StoreLabel.statement 2,
      StoreLabel.statement 2,
      StoreLabel.statement 2,
      StoreLabel.commit 2,
      StoreLabel.commit 1]

/-- The login commits after the change of the password and its session stays open. -/
theorem overlapping_login_survives :
    exists store : Store AccountDatabase AccountRequest,
      (accountWorkload sampleAuthEnv).system.Reachable store ∧
      ¬LoginsCurrent store.committed := by
  have hrun : (survivingRun.foldlM (accountWorkload sampleAuthEnv).next
      ⟨AccountDatabase.empty, Table.empty⟩).map (fun store => (store.committed.history,
        (store.committed.sessions.get 11).map UserSession.revokedAt))
      = some ([AccountEvent.opened 10 1 "first" 0, AccountEvent.sessionsRevoked 1,
        AccountEvent.opened 11 1 "second" 0], some none) := by
    decide +kernel
  rcases Workload.exists_reachable_of_run hrun rfl with ⟨store, hreach, hview⟩
  rcases Prod.mk.inj hview with ⟨hhistory, hsession⟩
  rcases Option.map_eq_some_iff.mp hsession with ⟨session, hget, hopen⟩
  refine ⟨store, hreach, ?_⟩
  intro hcurrent
  have hseen := hcurrent 11 1 "second" 0 (by rw [hhistory]; simp) session hget hopen
  unfold AccountDatabase.revocations at hseen
  rw [hhistory] at hseen
  exact absurd hseen (by decide)

/-- The second login starts after the user has logged out everywhere. -/
def separateRun : List AccountStoreLabel :=
  firstLogin ++
    [StoreLabel.begin 2 (AccountRequest.logoutAll sampleAccess 7 []),
      StoreLabel.statement 2,
      StoreLabel.statement 2,
      StoreLabel.statement 2,
      StoreLabel.commit 2,
      StoreLabel.begin 1 (AccountRequest.login (sampleLogin 11 "second")),
      StoreLabel.statement 1,
      StoreLabel.commit 1]

theorem separateRun_revokes :
    exists store : Store AccountDatabase AccountRequest,
      ((accountWorkload sampleAuthEnv).system.restrict
        (NoOverlap sampleAuthEnv)).Reachable store ∧
      store.committed.history = [AccountEvent.opened 10 1 "first" 0,
        AccountEvent.sessionsRevoked 1, AccountEvent.opened 11 1 "second" 1] ∧
      LoginsCurrent store.committed := by
  have hrun : (separateRun.foldlM
      (System.guarded (NoOverlap sampleAuthEnv)
        (accountWorkload sampleAuthEnv).next)
      ⟨AccountDatabase.empty, Table.empty⟩).map (fun store => store.committed.history)
      = some [AccountEvent.opened 10 1 "first" 0, AccountEvent.sessionsRevoked 1,
        AccountEvent.opened 11 1 "second" 1] := by
    decide +kernel
  rcases Workload.exists_reachable_of_guarded hrun rfl with ⟨store, hreach, hhistory⟩
  exact ⟨store, hreach, hhistory,
    (revocation_complete_without_overlap sampleAuthEnv hreach).2⟩

end MessagingSystem
