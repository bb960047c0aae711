import MessagingSystem.Auth.Effects

/-!
# What commits do to sessions

A commit opens a session, exchanges the token of one, ends one, or revokes some of
them.  Sessions are never deleted, never reopened, and keep their user and their
absolute deadline.
-/

namespace MessagingSystem

open Foundation
open Foundation.Script

/-!
# Rows that a lock protects
-/

/-- Another version of a user row with the same address and the same proof of it. -/
def Account.SameAddress (account account' : Account) : Prop :=
  account'.email = account.email ∧ account'.emailVerifiedAt = account.emailVerifiedAt

def keepsRow : AccountLock -> AccountDatabase -> AccountDatabase -> Prop
  | AccountLock.session sessionId, db, db' => forall session,
      db.sessions.get sessionId = some session -> db'.sessions.get sessionId = some session
  | AccountLock.user userId, db, db' => forall account, db.users.get userId = some account ->
      exists account', db'.users.get userId = some account' ∧ account.SameAddress account'
  | AccountLock.challenge _, _, _ => True

section

variable {env : AuthEnv} {db db' : AccountDatabase} {userId id : Uuid}

@[simp] theorem record_users (event : AccountEvent) : (db.record event).users = db.users := rfl

@[simp] theorem record_sessions (event : AccountEvent) :
    (db.record event).sessions = db.sessions := rfl

@[simp] theorem patchAccount_sessions (userId : Uuid) (patch : AccountPatch) :
    (db.patchAccount env userId patch).sessions = db.sessions := by
  unfold AccountDatabase.patchAccount
  split
  · rfl
  · split
    · rfl
    · rfl

theorem patchAccount_users (userId : Uuid) (patch : AccountPatch) (id : Uuid) :
    (db.patchAccount env userId patch).users.get id
      = if id = userId then (db.users.get userId).map patch.apply else db.users.get id := by
  unfold AccountDatabase.patchAccount
  split
  · rename_i hnone
    split
    · rename_i hid
      rw [hid, hnone]
      rfl
    · rfl
  · rename_i account hget
    split
    · rw [Table.get_set, hget]
      rfl
    · rw [record_users, Table.get_set, hget]
      rfl

/-- A patch adds to the history at most that the address has changed. -/
theorem patchAccount_history (userId : Uuid) (patch : AccountPatch) :
    (db.patchAccount env userId patch).history = db.history ∨
      (db.patchAccount env userId patch).history
        = db.history ++ [AccountEvent.addressChanged userId] := by
  unfold AccountDatabase.patchAccount
  split
  · exact Or.inl rfl
  · split
    · exact Or.inl rfl
    · exact Or.inr rfl

theorem sameAddress_apply {patch : AccountPatch} (h : patch.KeepsAddress) (account : Account) :
    account.SameAddress (patch.apply account) := by
  unfold Account.SameAddress AccountPatch.apply
  rw [h.1, h.2]
  exact ⟨rfl, rfl⟩

/-- A patch of another user, or one that keeps the address. -/
theorem patchAccount_keeps {patch : AccountPatch} (h : id ≠ userId ∨ patch.KeepsAddress) :
    keepsRow (AccountLock.user id) db (db.patchAccount env userId patch) := by
  intro account haccount
  rw [patchAccount_users]
  by_cases hid : id = userId
  · rw [if_pos hid, ← hid, haccount]
    refine ⟨_, rfl, sameAddress_apply ?_ account⟩
    rcases h with hne | hkeeps
    · exact absurd hid hne
    · exact hkeeps
  · rw [if_neg hid]
    exact ⟨account, haccount, rfl, rfl⟩

theorem revoke_revoke (revokedAt : Instant) (session : UserSession) :
    UserSession.revoke revokedAt (UserSession.revoke revokedAt session)
      = UserSession.revoke revokedAt session := rfl

theorem revokeSessions_get (sessionIds : List Uuid) (revokedAt : Instant) (sessionId : Uuid) :
    (db.revokeSessions sessionIds revokedAt).sessions.get sessionId
      = if sessionId ∈ sessionIds
        then (db.sessions.get sessionId).map (UserSession.revoke revokedAt)
        else db.sessions.get sessionId :=
  Table.get_updateAll (revoke_revoke revokedAt) _ _ _

/-!
# The step relation of sessions
-/

/-- A later version of a session in which only the marks of its end may be new. -/
def UserSession.EndedTo (session session' : UserSession) : Prop :=
  exists revokedAt replayDetectedAt,
    session' = { session with
      revokedAt := some revokedAt
      replayDetectedAt := replayDetectedAt }

theorem endedTo_cause (cause : RevocationCause) (revokedAt : Instant) (session : UserSession) :
    session.EndedTo (cause.revoke revokedAt session) := by
  cases cause with
  | requested | accountInactive | logout => exact ⟨revokedAt, session.replayDetectedAt, rfl⟩
  | replay token => exact ⟨revokedAt, some revokedAt, rfl⟩

/-- An event that says nothing about a single session. -/
def AccountEvent.isAboutUser : AccountEvent -> Bool
  | sessionsRevoked _ => true
  | addressChanged _ => true
  | challengeConsumed _ _ => true
  | _ => false

inductive SessionsStep (env : AuthEnv) (db db' : AccountDatabase) : Prop where
  | opened {sessionId : Uuid} {session : UserSession} {token : String} {revocationsSeen : Nat}
      (hnew : db.sessions.get sessionId = none) (hopen : session.revokedAt = none)
      (hhash : session.refreshTokenHash = env.sha256Hex token)
      (hexpires : session.expiresAt ≤ session.absoluteExpiresAt)
      (hsessions : db'.sessions = db.sessions.set sessionId (some session))
      (hhistory : db'.history = db.history ++
        [AccountEvent.opened sessionId session.userId token revocationsSeen])
  | exchanged {sessionId : Uuid} {session session' : UserSession} {token newToken : String}
      (hsession : db.sessions.get sessionId = some session)
      (hopen : session.revokedAt = none)
      (hhash : session.refreshTokenHash = env.sha256Hex token)
      (hsessions : db'.sessions = db.sessions.set sessionId (some session'))
      (huser : session'.userId = session.userId)
      (hnewHash : session'.refreshTokenHash = env.sha256Hex newToken)
      (habsolute : session'.absoluteExpiresAt = session.absoluteExpiresAt)
      (hexpires : session'.expiresAt ≤ session.absoluteExpiresAt)
      (hhistory : db'.history = db.history ++
        [AccountEvent.exchanged sessionId token newToken])
  | ended {sessionId : Uuid} {cause : RevocationCause} {change : UserSession -> UserSession}
      (hlogout : forall token, cause = RevocationCause.logout token ->
        exists session, db.sessions.get sessionId = some session ∧
          session.revokedAt = none ∧ session.refreshTokenHash = env.sha256Hex token)
      (hexists : forall token, cause = RevocationCause.replay token ->
        exists session, db.sessions.get sessionId = some session)
      (hsessions : db'.sessions = db.sessions.update sessionId change)
      (hended : forall session : UserSession, session.EndedTo (change session))
      (hhistory : db'.history = db.history ++ cause.events sessionId)
  | revoked {events : List AccountEvent}
      (hrows : forall id, db'.sessions.get id = db.sessions.get id ∨
        exists session session', db.sessions.get id = some session ∧
          db'.sessions.get id = some session' ∧ session.EndedTo session')
      (hhistory : db'.history = db.history ++ events)
      (hevents : forall event, event ∈ events -> event.isAboutUser = true)

/-- Some sessions have ended, and the others are as they were. -/
def EndedRows (db db' : AccountDatabase) : Prop :=
  forall id, db'.sessions.get id = db.sessions.get id ∨
    exists session session', db.sessions.get id = some session ∧
      db'.sessions.get id = some session' ∧ session.EndedTo session'

theorem endedRows_of_update {sessionId : Uuid} {change : UserSession -> UserSession}
    (hsessions : db'.sessions = db.sessions.update sessionId change)
    (hended : forall session : UserSession, session.EndedTo (change session)) :
    EndedRows db db' := by
  intro id
  rw [hsessions, Table.get_update]
  split
  · rename_i heq
    rw [← heq]
    cases hget : db.sessions.get id with
    | none => exact Or.inl rfl
    | some session => exact Or.inr ⟨session, _, rfl, rfl, hended session⟩
  · exact Or.inl rfl

theorem endedRows_of_revoke (userId : Uuid) (patch : AccountPatch) (sessionIds : List Uuid)
    (revokedAt : Instant) :
    EndedRows db ((db.patchAccount env userId patch).revokeSessions sessionIds revokedAt) := by
  intro id
  rw [revokeSessions_get, patchAccount_sessions]
  split
  · cases hget : db.sessions.get id with
    | none => exact Or.inl rfl
    | some session =>
        exact Or.inr ⟨session, _, rfl, rfl, revokedAt, session.replayDetectedAt, rfl⟩
  · exact Or.inl rfl

theorem EndedRows.before (h : EndedRows db db') {row' : UserSession}
    (hget : db'.sessions.get id = some row') :
    exists row, db.sessions.get id = some row ∧ row'.userId = row.userId ∧
      row'.refreshTokenHash = row.refreshTokenHash ∧ row'.expiresAt = row.expiresAt ∧
      row'.absoluteExpiresAt = row.absoluteExpiresAt := by
  rcases h id with hsame | ⟨row, session', hrow, hsession', revokedAt, replayDetectedAt, heq⟩
  · rw [hsame] at hget
    exact ⟨row', hget, rfl, rfl, rfl, rfl⟩
  · rw [hsession'] at hget
    cases hget
    rw [heq]
    exact ⟨row, hrow, rfl, rfl, rfl, rfl⟩

theorem SessionsStep.of_eq {events : List AccountEvent} (hsessions : db'.sessions = db.sessions)
    (hhistory : db'.history = db.history ++ events)
    (hevents : forall event, event ∈ events -> event.isAboutUser = true) :
    SessionsStep env db db' :=
  SessionsStep.revoked (fun id => Or.inl (by rw [hsessions])) hhistory hevents

theorem SessionsStep.quiet (hsessions : db'.sessions = db.sessions)
    (hhistory : db'.history = db.history) : SessionsStep env db db' := by
  refine SessionsStep.of_eq hsessions (hhistory.trans (List.append_nil _).symm) ?_
  intro event hevent
  cases hevent

/-- The events of a patch are of any kind that a changed address is of. -/
theorem patchAccount_events (kind : AccountEvent -> Bool) (db : AccountDatabase)
    (userId : Uuid) (patch : AccountPatch)
    (hchanged : kind (AccountEvent.addressChanged userId) = true) :
    exists events, (db.patchAccount env userId patch).history = db.history ++ events ∧
      forall event, event ∈ events -> kind event = true := by
  rcases patchAccount_history userId patch with h | h
  · refine ⟨[], ?_, ?_⟩
    · rw [h, List.append_nil]
    · intro event hevent
      cases hevent
  · exact ⟨_, h, List.forall_mem_singleton.mpr hchanged⟩

theorem SessionsStep.patch {userId : Uuid} {patch : AccountPatch}
    (hsessions : db'.sessions = db.sessions)
    (hhistory : db'.history = (db.patchAccount env userId patch).history) :
    SessionsStep env db db' := by
  rcases patchAccount_events AccountEvent.isAboutUser db userId patch rfl with
    ⟨events, hevents, habout⟩
  exact SessionsStep.of_eq hsessions (hhistory.trans hevents) habout

/-- The events of a patch that is followed by one more event. -/
theorem patchAccount_events_and (kind : AccountEvent -> Bool) (db : AccountDatabase)
    (userId : Uuid) (patch : AccountPatch)
    (hchanged : kind (AccountEvent.addressChanged userId) = true) (last : AccountEvent)
    (hlast : kind last = true) :
    exists events,
      (db.patchAccount env userId patch).history ++ [last] = db.history ++ events ∧
        forall event, event ∈ events -> kind event = true := by
  rcases patchAccount_events kind db userId patch hchanged with ⟨events, hhistory, hevents⟩
  refine ⟨events ++ [last], ?_, ?_⟩
  · rw [hhistory, List.append_assoc]
  · exact List.forall_mem_append.mpr ⟨hevents, List.forall_mem_singleton.mpr hlast⟩

/-!
# Commits
-/

variable {request : AccountRequest} {trace : AccountTrace} {r : AccountResult}

theorem AccountEffect.sessionsStep (h : AccountEffect env request trace r)
    (hstable : forall key d, Locked trace key d -> keepsRow key d db)
    (hcommit : r.commit env db = some db') : SessionsStep env db db' := by
  cases h with
  | unchanged | challengeRevoked =>
      cases hcommit
      exact SessionsStep.quiet rfl rfl
  | loggedIn hrequest htrace hresult hopen hhash hexpires =>
      rcases Option.ite_none_right_eq_some.mp hcommit with ⟨hinsert, hcommit⟩
      cases hcommit
      have hnew := Option.isNone_iff_eq_none.mp ((Bool.and_eq_true _ _).mp hinsert).1
      exact SessionsStep.opened hnew hopen hhash hexpires rfl rfl
  | @refreshed _ sessionId session _ newToken lastUsedAt expiresAt userAgent ip hlocked
      hsession hopen hhash hexpires =>
      cases hcommit
      have hnow : db.sessions.get sessionId = some session := hstable _ _ hlocked _ hsession
      exact SessionsStep.exchanged hnow hopen hhash (Table.update_eq_set hnow _) rfl rfl rfl
        hexpires rfl
  | sessionRevoked hlocked hlogout hreplay =>
      cases hcommit
      refine SessionsStep.ended ?_ ?_ rfl (endedTo_cause _ _) rfl
      · intro token hcause
        rcases hlogout token hcause with ⟨session, hsession, hrest⟩
        exact ⟨session, hstable _ _ hlocked _ hsession, hrest⟩
      · intro token hcause
        rcases hreplay token hcause with ⟨session, hsession⟩
        exact ⟨session, hstable _ _ hlocked _ hsession⟩
  | @sessionsRevoked userId patch sessionIds revokedAt snapshot huser hpatch hsnapshot
      hupdated hall =>
      cases hcommit
      rcases patchAccount_events_and AccountEvent.isAboutUser db userId patch rfl
        (AccountEvent.sessionsRevoked userId) rfl with ⟨events, hhistory, hevents⟩
      exact SessionsStep.revoked (endedRows_of_revoke userId patch sessionIds revokedAt)
        hhistory hevents
  | accountChanged | addressChanged =>
      cases commit_accountChanged hcommit
      exact SessionsStep.patch (patchAccount_sessions _ _) rfl
  | challengeCreated =>
      rcases commit_challengeCreated hcommit with ⟨rows, heq⟩
      subst heq
      exact SessionsStep.quiet rfl rfl
  | @challengeConsumed _ _ _ _ userId _ patch email _ _ hrequest htrace hloaded hlocked
      haddress hpatch =>
      cases hcommit
      rcases patchAccount_events_and AccountEvent.isAboutUser db userId patch rfl
        (AccountEvent.challengeConsumed userId email) rfl with ⟨events, hhistory, hevents⟩
      exact SessionsStep.of_eq (patchAccount_sessions userId patch) hhistory hevents

/-- A commit leaves the session rows alone that it has not locked. -/
theorem AccountEffect.keepsSession (h : AccountEffect env request trace r)
    (hcommit : r.commit env db = some db') {sessionId : Uuid}
    (hfree : forall d, ¬Locked trace (AccountLock.session sessionId) d) :
    keepsRow (AccountLock.session sessionId) db db' := by
  intro session hsession
  have hother : forall {id : Uuid} {d : AccountDatabase} (change : UserSession -> UserSession),
      Locked trace (AccountLock.session id) d ->
      (db.sessions.update id change).get sessionId = some session := by
    intro id d change hlocked
    have hne : sessionId ≠ id := by
      intro heq
      rw [heq] at hfree
      exact hfree d hlocked
    rw [Table.get_update, if_neg hne, hsession]
  cases h with
  | unchanged | challengeRevoked =>
      cases hcommit
      exact hsession
  | @loggedIn _ _ opened newSession _ _ _ _ _ _ _ =>
      rcases Option.ite_none_right_eq_some.mp hcommit with ⟨hinsert, hcommit⟩
      cases hcommit
      have hnew := Option.isNone_iff_eq_none.mp ((Bool.and_eq_true _ _).mp hinsert).1
      exact Table.get_set_of_free hnew hsession
  | refreshed hlocked _ _ _ _ =>
      cases hcommit
      exact hother _ hlocked
  | sessionRevoked hlocked _ _ =>
      cases hcommit
      exact hother _ hlocked
  | @sessionsRevoked userId patch sessionIds revokedAt _ _ _ _ hupdated _ =>
      cases hcommit
      have hne : sessionId ∉ sessionIds := by
        intro hmem
        rcases hupdated sessionId hmem with ⟨d, hlocked⟩
        exact hfree d hlocked
      rw [record_sessions, revokeSessions_get, if_neg hne, patchAccount_sessions, hsession]
  | accountChanged | addressChanged =>
      cases commit_accountChanged hcommit
      show (db.patchAccount env _ _).sessions.get sessionId = some session
      rw [patchAccount_sessions, hsession]
  | challengeCreated =>
      rcases commit_challengeCreated hcommit with ⟨rows, heq⟩
      subst heq
      exact hsession
  | challengeConsumed hrequest htrace hloaded hlocked haddress hpatch =>
      cases hcommit
      show (db.patchAccount env _ _).sessions.get sessionId = some session
      rw [patchAccount_sessions, hsession]

theorem keepsRow_user_of_eq (h : db'.users = db.users) :
    keepsRow (AccountLock.user userId) db db' := by
  intro account haccount
  exact ⟨account, by rw [h, haccount], rfl, rfl⟩

/-- A commit leaves the addresses alone whose user it has not locked. -/
theorem AccountEffect.keepsUser (h : AccountEffect env request trace r)
    (hcommit : r.commit env db = some db')
    (hfree : forall d, ¬Locked trace (AccountLock.user userId) d) :
    keepsRow (AccountLock.user userId) db db' := by
  have hother : forall {id : Uuid} {first d : AccountDatabase} {rest : AccountTrace},
      trace = (none, first) :: rest -> Locked rest (AccountLock.user id) d -> userId ≠ id := by
    intro id first d rest htrace hlocked heq
    rw [heq, htrace] at hfree
    exact hfree d (hlocked.cons _)
  cases h with
  | unchanged | refreshed | sessionRevoked | challengeRevoked =>
      cases hcommit
      exact keepsRow_user_of_eq rfl
  | loggedIn hrequest htrace hresult hopen hhash hexpires =>
      rcases Option.ite_none_right_eq_some.mp hcommit with ⟨_, hcommit⟩
      cases hcommit
      exact keepsRow_user_of_eq rfl
  | sessionsRevoked huser hpatch hsnapshot hupdated hall =>
      cases hcommit
      exact patchAccount_keeps (Or.inr hpatch)
  | accountChanged hpatch =>
      cases commit_accountChanged hcommit
      exact patchAccount_keeps (Or.inr hpatch)
  | addressChanged hrequest htrace hloaded hlocked hpatch =>
      cases commit_accountChanged hcommit
      exact patchAccount_keeps (Or.inl (hother htrace hlocked))
  | challengeCreated =>
      rcases commit_challengeCreated hcommit with ⟨rows, heq⟩
      subst heq
      exact keepsRow_user_of_eq rfl
  | challengeConsumed hrequest htrace hloaded hlocked haddress hpatch =>
      cases hcommit
      exact patchAccount_keeps (Or.inl (hother htrace hlocked))

/-- Registrations and promotions touch no session, no existing address and no history. -/
theorem AccountAction.keeps {action : AccountAction} (h : action.run env db = some db') :
    db'.sessions = db.sessions ∧ db'.history = db.history ∧
      forall userId, keepsRow (AccountLock.user userId) db db' := by
  cases action with
  | register newId username email passwordHash =>
      rcases Option.ite_none_left_eq_some.mp h with ⟨hfresh, h⟩
      cases h
      refine ⟨rfl, rfl, ?_⟩
      intro userId account haccount
      have hne : userId ≠ newId := by
        intro heq
        rw [← heq, haccount] at hfresh
        exact hfresh rfl
      exact ⟨account, by rw [Table.get_set_ne _ hne, haccount], rfl, rfl⟩
  | setSuperadmin target isSuperadmin =>
      cases h
      refine ⟨rfl, rfl, ?_⟩
      intro userId account haccount
      rw [Table.get_update]
      split
      · rename_i heq
        rw [← heq, haccount]
        exact ⟨_, rfl, rfl, rfl⟩
      · exact ⟨account, haccount, rfl, rfl⟩

theorem accountGuarantee (env : AuthEnv) : (accountWorkload env).Guarantee keepsRow := by
  refine ⟨?_, ?_, ?_, ?_⟩
  · intro k db
    cases k with
    | session sessionId => exact fun _ h => h
    | user userId => exact fun account h => ⟨account, h, rfl, rfl⟩
    | challenge challengeId => trivial
  · intro k a b c hab hbc
    cases k with
    | session sessionId => exact fun session h => hbc session (hab session h)
    | user userId =>
        intro account h
        rcases hab account h with ⟨account', h', hemail, hverified⟩
        rcases hbc account' h' with ⟨account'', h'', hemail', hverified'⟩
        exact ⟨account'', h'', hemail'.trans hemail, hverified'.trans hverified⟩
    | challenge challengeId => trivial
  · intro k action db db' hrun
    rcases AccountAction.keeps hrun with ⟨hsessions, _, husers⟩
    cases k with
    | session sessionId =>
        intro session hsession
        rw [hsessions, hsession]
    | user userId => exact husers userId
    | challenge challengeId => trivial
  · intro k request seen r db db' hreturns hcommit hfree
    rcases hreturns.exists_ends with ⟨trace, hends, hseen⟩
    have heffect := AccountRequest.effect hends
    have hlocks : forall d, ¬Locked trace k d := by
      intro d hlocked
      apply hfree
      rw [← hseen]
      exact hends.mem_acquired hlocked
    cases k with
    | session sessionId => exact heffect.keepsSession hcommit hlocks
    | user userId => exact heffect.keepsUser hcommit hlocks
    | challenge challengeId => trivial

/-!
# Steps of the system
-/

variable {store : Store AccountDatabase AccountRequest}

theorem sessionsStep_of_step {store' : Store AccountDatabase AccountRequest}
    (hok : (accountWorkload env).StoreOk keepsRow store)
    (hstep : Workload.Step (accountWorkload env) store store') :
    SessionsStep env store.committed store'.committed := by
  cases hstep with
  | begin | statement | rollback => exact SessionsStep.quiet rfl rfl
  | @commit t s r db' hget hreturns hcommit =>
      rcases hreturns.exists_ends with ⟨trace, hends, hseen⟩
      refine (AccountRequest.effect hends).sessionsStep ?_ hcommit
      intro key d hlocked
      exact (hok.stable t s hget).keeps_of_ends hends hseen hlocked
  | outside hrun =>
      rcases AccountAction.keeps hrun with ⟨hsessions, hhistory, _⟩
      exact SessionsStep.quiet hsessions hhistory

theorem storeOk_of_accounts (h : (accountWorkload env).system.Reachable store) :
    (accountWorkload env).StoreOk keepsRow store :=
  Workload.storeOk_of_reachable (accountGuarantee env) h

/-- An invariant of the committed sessions and of the history. -/
theorem sessions_invariant {I : AccountDatabase -> Prop} (hstart : I AccountDatabase.empty)
    (hstep : forall db db', I db -> SessionsStep env db db' -> I db')
    (h : (accountWorkload env).system.Reachable store) : I store.committed := by
  induction h with
  | start h0 =>
      have hempty : _ = AccountDatabase.empty := h0.1
      rw [hempty]
      exact hstart
  | step hreach hnext ih =>
      exact hstep _ _ ih (sessionsStep_of_step (storeOk_of_accounts hreach)
        (Workload.step_of_next hnext))

/-- A relation between earlier and later committed sessions. -/
theorem sessions_related (e : (accountWorkload env).system.Execution)
    {R : AccountDatabase -> AccountDatabase -> Prop} (hrefl : forall db, R db db)
    (htrans : forall a b c, R a b -> R b c -> R a c)
    (hstep : forall db db', SessionsStep env db db' -> R db db') {i j : Nat} (hij : i ≤ j)
    (hj : j ≤ e.length) : R (e.stateAt i).committed (e.stateAt j).committed := by
  refine e.related_of_reachable (R := fun s t => R s.committed t.committed)
    (fun s => hrefl s.committed) (fun a b c => htrans _ _ _) ?_ hij hj
  intro s label t hreach hnext
  exact hstep _ _ (sessionsStep_of_step (storeOk_of_accounts hreach)
    (Workload.step_of_next hnext))

/-!
# What is never taken back
-/

/-- A later version of a session. -/
structure UserSession.LaterThan (session' session : UserSession) : Prop where
  userId : session'.userId = session.userId
  absoluteExpiresAt : session'.absoluteExpiresAt = session.absoluteExpiresAt
  revoked : session.revokedAt.isSome = true -> session'.revokedAt.isSome = true

theorem UserSession.LaterThan.refl (session : UserSession) : session.LaterThan session :=
  ⟨rfl, rfl, id⟩

theorem UserSession.EndedTo.laterThan {session session' : UserSession}
    (h : session.EndedTo session') : session'.LaterThan session := by
  rcases h with ⟨revokedAt, replayDetectedAt, heq⟩
  rw [heq]
  exact ⟨rfl, rfl, fun _ => rfl⟩

def SessionsGrow (db db' : AccountDatabase) : Prop :=
  (exists events, db'.history = db.history ++ events) ∧
    forall id session, db.sessions.get id = some session ->
      exists session', db'.sessions.get id = some session' ∧ session'.LaterThan session

theorem SessionsGrow.refl (db : AccountDatabase) : SessionsGrow db db :=
  ⟨⟨[], (List.append_nil _).symm⟩, fun _ session h => ⟨session, h, UserSession.LaterThan.refl _⟩⟩

theorem SessionsGrow.trans {a b c : AccountDatabase} (hab : SessionsGrow a b)
    (hbc : SessionsGrow b c) : SessionsGrow a c := by
  rcases hab with ⟨⟨first, hfirst⟩, hrows⟩
  rcases hbc with ⟨⟨second, hsecond⟩, hrows'⟩
  refine ⟨⟨first ++ second, ?_⟩, ?_⟩
  · rw [hsecond, hfirst, List.append_assoc]
  · intro id session hget
    rcases hrows id session hget with ⟨session', hget', hlater⟩
    rcases hrows' id session' hget' with ⟨session'', hget'', hlater'⟩
    exact ⟨session'', hget'', hlater'.userId.trans hlater.userId,
      hlater'.absoluteExpiresAt.trans hlater.absoluteExpiresAt,
      fun h => hlater'.revoked (hlater.revoked h)⟩

theorem EndedRows.after (h : EndedRows db db') {row : UserSession}
    (hget : db.sessions.get id = some row) :
    exists row', db'.sessions.get id = some row' ∧ row'.LaterThan row := by
  rcases h id with hsame | ⟨session, session', hsession, hsession', hended⟩
  · rw [hsame]
    exact ⟨row, hget, UserSession.LaterThan.refl row⟩
  · rw [hget] at hsession
    cases hsession
    exact ⟨session', hsession', hended.laterThan⟩

theorem SessionsStep.grows (h : SessionsStep env db db') : SessionsGrow db db' := by
  cases h with
  | @opened sessionId session token _ hnew hopen hhash hexpires hsessions hhistory =>
      refine ⟨⟨_, hhistory⟩, ?_⟩
      intro id row hget
      rw [hsessions]
      exact ⟨row, Table.get_set_of_free hnew hget, UserSession.LaterThan.refl row⟩
  | @exchanged sessionId session session' token newToken hsession hopen hhash hsessions huser
      hnewHash habsolute hexpires hhistory =>
      refine ⟨⟨_, hhistory⟩, ?_⟩
      intro id row hget
      rw [hsessions, Table.get_set]
      split
      · rename_i heq
        rw [heq, hsession] at hget
        cases hget
        refine ⟨session', rfl, huser, habsolute, ?_⟩
        intro hrevoked
        rw [hopen] at hrevoked
        cases hrevoked
      · exact ⟨row, hget, UserSession.LaterThan.refl row⟩
  | ended hlogout hexists hsessions hended hhistory =>
      exact ⟨⟨_, hhistory⟩, fun _ _ => (endedRows_of_update hsessions hended).after⟩
  | revoked hrows hhistory hevents => exact ⟨⟨_, hhistory⟩, fun _ _ => EndedRows.after hrows⟩

/-- Where a session of the later state comes from. -/
theorem SessionsStep.rows (h : SessionsStep env db db') {row' : UserSession}
    (hget' : db'.sessions.get id = some row') :
    (exists row, db.sessions.get id = some row ∧ row'.userId = row.userId ∧
      (row.expiresAt ≤ row.absoluteExpiresAt -> row'.expiresAt ≤ row'.absoluteExpiresAt)) ∨
    (row'.expiresAt ≤ row'.absoluteExpiresAt ∧ exists token revocationsSeen,
      AccountEvent.opened id row'.userId token revocationsSeen ∈ db'.history) := by
  have hkept : EndedRows db db' -> exists row, db.sessions.get id = some row ∧
      row'.userId = row.userId ∧
      (row.expiresAt ≤ row.absoluteExpiresAt -> row'.expiresAt ≤ row'.absoluteExpiresAt) := by
    intro hrows
    rcases hrows.before hget' with ⟨row, hget, huser, _, hexpires, habsolute⟩
    rw [hexpires, habsolute]
    exact ⟨row, hget, huser, fun hle => hle⟩
  cases h with
  | @opened sessionId session token seen hnew hopen hhash hexpires hsessions hhistory =>
      rw [hsessions] at hget'
      rcases Table.get_set_some_cases hget' with ⟨rfl, rfl⟩ | ⟨_, hget'⟩
      · refine Or.inr ⟨hexpires, token, seen, ?_⟩
        rw [hhistory]
        exact List.mem_append_right _ List.mem_cons_self
      · exact Or.inl ⟨row', hget', rfl, fun hle => hle⟩
  | exchanged hsession hopen hhash hsessions huser hnewHash habsolute hexpires hhistory =>
      rw [hsessions] at hget'
      rcases Table.get_set_some_cases hget' with ⟨rfl, rfl⟩ | ⟨_, hget'⟩
      · rw [habsolute]
        exact Or.inl ⟨_, hsession, huser, fun _ => hexpires⟩
      · exact Or.inl ⟨row', hget', rfl, fun hle => hle⟩
  | ended hlogout hexists hsessions hended hhistory =>
      exact Or.inl (hkept (endedRows_of_update hsessions hended))
  | revoked hrows hhistory hevents => exact Or.inl (hkept hrows)

end

end MessagingSystem
