import MessagingSystem.Auth.Workload

/-!
# What an account request has seen when it commits

One case for each kind of commit: the rows that were read, the locks under which they
were read, and how the committed values follow from them.  Everything later is derived
from these cases and not from the scripts.
-/

namespace MessagingSystem

open Foundation
open Foundation.Script

variable {db : AccountDatabase} {now : Instant} {access : AccessCall} {presented : PresentedToken}

abbrev AccountTrace := List (Option (AccountLock × LockMode) × AccountDatabase)

/-- The row was locked, and this is what was committed at that time. -/
def Locked (trace : AccountTrace) (key : AccountLock) (db : AccountDatabase) : Prop :=
  (some (key, LockMode.exclusive), db) ∈ trace

theorem Locked.cons {trace : AccountTrace} {key : AccountLock}
    (h : Locked trace key db) (entry : Option (AccountLock × LockMode) × AccountDatabase) :
    Locked (entry :: trace) key db :=
  List.mem_cons_of_mem entry h

/-- A patch that leaves the address and its proof alone. -/
def AccountPatch.KeepsAddress (patch : AccountPatch) : Prop :=
  patch.email = none ∧ patch.emailVerifiedAt = none

/-- A patch by which `update_me` writes a new address over the loaded one. -/
def AccountPatch.SetsAddress (env : AuthEnv) (loaded : Account) (patch : AccountPatch) : Prop :=
  exists email : Option String,
    patch.email = changed loaded.email (email.map env.normalizeEmail) ∧
      patch.emailVerifiedAt =
        if email.map env.normalizeEmail = loaded.address env then none
        else changed loaded.emailVerifiedAt none

inductive AccountEffect (env : AuthEnv) (request : AccountRequest) (trace : AccountTrace) :
    AccountResult -> Prop where
  | unchanged : AccountEffect env request trace AccountResult.unchanged
  | loggedIn {call : LoginCall} {db : AccountDatabase} {sessionId : Uuid}
      {session : UserSession} {token : String}
      (hrequest : request = AccountRequest.login call) (htrace : trace = [(none, db)])
      (hresult : openSession env call db = Except.ok (AccountResult.loggedIn sessionId session
        token (db.revocations session.userId))) (hopen : session.revokedAt = none)
      (hhash : session.refreshTokenHash = env.sha256Hex token)
      (hexpires : session.expiresAt ≤ session.absoluteExpiresAt) :
      AccountEffect env request trace
        (AccountResult.loggedIn sessionId session token (db.revocations session.userId))
  | refreshed {db : AccountDatabase} {sessionId : Uuid} {session : UserSession}
      {token newToken : String} {lastUsedAt expiresAt : Instant} {userAgent ip : Option String}
      (hlocked : Locked trace (AccountLock.session sessionId) db)
      (hsession : db.sessions.get sessionId = some session)
      (hopen : session.revokedAt = none)
      (hhash : session.refreshTokenHash = env.sha256Hex token)
      (hexpires : expiresAt ≤ session.absoluteExpiresAt) :
      AccountEffect env request trace (AccountResult.refreshed sessionId token newToken
        (env.sha256Hex newToken) lastUsedAt expiresAt userAgent ip)
  | sessionRevoked {db : AccountDatabase} {sessionId : Uuid} {revokedAt : Instant}
      {cause : RevocationCause} (hlocked : Locked trace (AccountLock.session sessionId) db)
      (hlogout : forall token, cause = RevocationCause.logout token ->
        exists session, db.sessions.get sessionId = some session ∧
          session.revokedAt = none ∧ session.refreshTokenHash = env.sha256Hex token)
      (hreplay : forall token, cause = RevocationCause.replay token ->
        exists session, db.sessions.get sessionId = some session) :
      AccountEffect env request trace (AccountResult.sessionRevoked sessionId revokedAt cause)
  | sessionsRevoked {userId : Uuid} {patch : AccountPatch} {sessionIds : List Uuid}
      {revokedAt : Instant} {snapshot : AccountDatabase}
      (huser : request.revokedUser env = some userId) (hpatch : patch.KeepsAddress)
      (hsnapshot : snapshot ∈ trace.map Prod.snd)
      (hupdated : forall sessionId, sessionId ∈ sessionIds ->
        exists db, Locked trace (AccountLock.session sessionId) db)
      (hall : forall sessionId, isOpenSessionOf userId snapshot sessionId = true ->
        sessionId ∈ sessionIds ∨ exists db, Locked trace (AccountLock.session sessionId) db ∧
          isOpenSessionOf userId db sessionId = false) :
      AccountEffect env request trace
        (AccountResult.sessionsRevoked userId patch sessionIds revokedAt)
  | accountChanged {userId : Uuid} {patch : AccountPatch} {challengeIds : List Uuid}
      {revokedAt : Instant} (hpatch : patch.KeepsAddress) :
      AccountEffect env request trace
        (AccountResult.accountChanged userId patch challengeIds revokedAt)
  | addressChanged {first db : AccountDatabase} {rest : AccountTrace} {loaded : Account}
      {userId : Uuid} {patch : AccountPatch} {challengeIds : List Uuid} {revokedAt : Instant}
      (hrequest : request.addressUser env = some userId)
      (htrace : trace = (none, first) :: rest)
      (hloaded : first.users.get userId = some loaded)
      (hlocked : Locked rest (AccountLock.user userId) db)
      (hpatch : patch.SetsAddress env loaded) :
      AccountEffect env request trace
        (AccountResult.accountChanged userId patch challengeIds revokedAt)
  | challengeCreated {deletedIds revokedIds : List Uuid} {revokedAt : Instant}
      {challengeId : Uuid} {challenge : EmailVerificationChallenge} :
      AccountEffect env request trace (AccountResult.challengeCreated deletedIds revokedIds
        revokedAt challengeId challenge)
  | challengeRevoked {challengeId : Uuid} {revokedAt : Instant} {failure : Failure} :
      AccountEffect env request trace (AccountResult.challengeRevoked challengeId revokedAt failure)
  | challengeConsumed {first db : AccountDatabase} {rest : AccountTrace} {loaded : Account}
      {userId challengeId : Uuid} {patch : AccountPatch} {email : String}
      {consumedAt : Instant} {otherIds : List Uuid}
      (hrequest : request.addressUser env = some userId)
      (htrace : trace = (none, first) :: rest)
      (hloaded : first.users.get userId = some loaded)
      (hlocked : Locked rest (AccountLock.user userId) db)
      (haddress : loaded.address env = some email) (hpatch : patch.email = none) :
      AccountEffect env request trace (AccountResult.challengeConsumed userId patch challengeId
        email consumedAt otherIds)

section

variable {env : AuthEnv} {request : AccountRequest} {trace : AccountTrace}
  {r : AccountResult}

/-!
# Authentication
-/

variable {session : UserSession} {userId sessionId : Uuid}

theorem assertActiveSession_eq_ok {u : Unit} :
    assertActiveSession session now = Except.ok u ↔
      session.revokedAt = none ∧ now < session.expiresAt ∧
        now < session.absoluteExpiresAt := by
  unfold assertActiveSession
  simp only [bind_eq_ok, require_eq_ok, decide_eq_true_eq, Option.isNone_iff_eq_none,
    exists_const]

theorem checkSessionAccess_eq_ok {tokenExpiresAt now : Instant} {auth : AccessContext}
    (h : checkSessionAccess db userId sessionId tokenExpiresAt now = Except.ok auth) :
    auth.userId = userId ∧ db.users.get auth.userId = some auth.user ∧
      db.sessions.get sessionId = some auth.session ∧ auth.session.userId = userId ∧
      auth.session.revokedAt = none := by
  unfold checkSessionAccess at h
  simp only [bind_eq_ok, orFail_eq_ok, require_eq_ok, pure_eq_ok, beq_iff_eq,
    assertActiveSession_eq_ok] at h
  rcases h with ⟨user, huser, session, hsession, _, howner, _, _, _, ⟨hopen, _⟩, _, _, hauth⟩
  subst hauth
  exact ⟨rfl, huser, hsession, howner, hopen⟩

/-- The script reads the user of the access token once and keeps it. -/
def Authenticates (env : AuthEnv) (access : AccessCall) (s : AccountScript AccessContext) :
    Prop :=
  forall trace auth, Ends s trace auth ->
    accessUser env access = some auth.userId ∧
      exists db, trace = [(none, db)] ∧ db.users.get auth.userId = some auth.user

theorem getAccessContext_authenticates (access : AccessCall) :
    Authenticates env access (getAccessContext env access) := by
  intro trace auth h
  unfold getAccessContext decodeToken uuidClaim at h
  simp only [ends_lift_bind, ends_read_bind, ends_lift, orFail_eq_ok] at h
  rcases h with ⟨claims, hclaims, _, _, userId, hsub, _, _, _, _, db, _, htrace, hnil, hcheck⟩
  rw [hnil] at htrace
  rcases checkSessionAccess_eq_ok hcheck with ⟨hid, huser, _⟩
  refine ⟨?_, db, htrace, huser⟩
  unfold accessUser
  rw [hclaims, hid]
  exact hsub

theorem getCurrentSuperadmin_authenticates (access : AccessCall) :
    Authenticates env access (getCurrentSuperadmin env access) := by
  intro trace auth h
  rcases ends_bind.mp h with ⟨first, rest, loaded, htrace, hloaded, hrest⟩
  simp only [ends_lift_bind, ends_pure] at hrest
  rcases hrest with ⟨_, _, hnil, heq⟩
  rw [htrace, hnil, List.append_nil, ← heq]
  exact getAccessContext_authenticates access first loaded hloaded

theorem Authenticates.bind {s : AccountScript AccessContext}
    (hs : Authenticates env access s)
    {f : AccessContext -> AccountScript AccountResult} (h : Ends (s >>= f) trace r) :
    exists db auth rest, trace = (none, db) :: rest ∧ accessUser env access = some auth.userId ∧
      db.users.get auth.userId = some auth.user ∧ Ends (f auth) rest r := by
  rcases ends_bind.mp h with ⟨first, rest, auth, htrace, hauth, hrest⟩
  rcases hs first auth hauth with ⟨huser, db, hfirst, hloaded⟩
  refine ⟨db, auth, rest, ?_, huser, hloaded, hrest⟩
  rw [htrace, hfirst, List.singleton_append]

/-!
# Sessions
-/

variable {order : List Uuid}

theorem openSession_eq_ok {call : LoginCall}
    (h : openSession env call db = Except.ok r) :
    exists (session : UserSession) (token : String),
      r = AccountResult.loggedIn call.sessionId session token
        (db.revocations session.userId) ∧
      session.revokedAt = none ∧ session.refreshTokenHash = env.sha256Hex token ∧
      session.expiresAt ≤ session.absoluteExpiresAt := by
  unfold openSession at h
  simp only [bind_eq_ok, pure_eq_ok] at h
  rcases h with ⟨_, _, user, _, _, _, _, _, absolute, _, idle, _, _, _, hresult⟩
  exact ⟨_, _, hresult.symm, rfl, rfl, min_le_right _ _⟩

theorem login_effect {call : LoginCall} (h : Ends (login env call) trace r) :
    AccountEffect env (AccountRequest.login call) trace r := by
  unfold login at h
  simp only [ends_read_bind, ends_lift] at h
  rcases h with ⟨db, rest, htrace, hnil, hopen⟩
  rcases openSession_eq_ok hopen with ⟨session, token, hr, hrevoked, hhash, hexpires⟩
  rw [hr] at hopen ⊢
  rw [hnil] at htrace
  exact AccountEffect.loggedIn rfl htrace hopen hrevoked hhash hexpires

theorem checkRefreshToken_eq_ok {check : RefreshCheck}
    (h : checkRefreshToken env presented sessionId userId db = Except.ok check) :
    exists session, db.sessions.get sessionId = some session ∧ session.revokedAt = none ∧
      ((session.refreshTokenHash = env.sha256Hex presented.token ∧
          check = RefreshCheck.valid sessionId session) ∨
        check = RefreshCheck.replayed sessionId) := by
  unfold checkRefreshToken at h
  simp only [bind_eq_ok, orFail_eq_ok, assertActiveSession_eq_ok] at h
  rcases h with ⟨session, hsession, _, _, _, ⟨hopen, _⟩, hcheck⟩
  refine ⟨session, hsession, hopen, ?_⟩
  split at hcheck
  · rename_i hhash
    exact Or.inl ⟨hhash, (pure_eq_ok.mp hcheck).symm⟩
  · exact Or.inr (pure_eq_ok.mp hcheck).symm

/-- The row is locked for every check of a refresh token. -/
theorem getValidRefreshSession_bind {next : RefreshCheck -> AccountScript AccountResult}
    (h : Ends (getValidRefreshSession env presented >>= next) trace r) :
    exists (db : AccountDatabase) (sessionId : Uuid) (session : UserSession)
      (rest : AccountTrace), Locked trace (AccountLock.session sessionId) db ∧
      db.sessions.get sessionId = some session ∧ session.revokedAt = none ∧
      ((session.refreshTokenHash = env.sha256Hex presented.token ∧
          Ends (next (RefreshCheck.valid sessionId session)) rest r) ∨
        Ends (next (RefreshCheck.replayed sessionId)) rest r) := by
  rcases ends_bind.mp h with ⟨first, rest, check, htrace, hfirst, hrest⟩
  unfold getValidRefreshSession at hfirst
  simp only [ends_lift_bind, ends_lock_bind, ends_lift] at hfirst
  rcases hfirst with ⟨_, _, _, _, sessionId, _, userId, _, db, _, hlock, hnil, hcheck⟩
  rcases checkRefreshToken_eq_ok hcheck with ⟨session, hsession, hopen, hcases⟩
  refine ⟨db, sessionId, session, rest, ?_, hsession, hopen, ?_⟩
  · rw [htrace, hlock]
    exact List.mem_cons_self
  · rcases hcases with ⟨hhash, hvalid⟩ | hreplayed
    · exact Or.inl ⟨hhash, hvalid ▸ hrest⟩
    · exact Or.inr (hreplayed ▸ hrest)

theorem replay_effect (hlocked : Locked trace (AccountLock.session sessionId) db)
    (hsession : db.sessions.get sessionId = some session) :
    AccountEffect env request trace (replayResult presented sessionId) := by
  refine AccountEffect.sessionRevoked hlocked ?_ ?_
  · intro token hcause
    cases hcause
  · intro token _
    exact ⟨session, hsession⟩

theorem rotate_effect {call : RefreshCall} {user : Option Account}
    (hlocked : Locked trace (AccountLock.session sessionId) db)
    (hsession : db.sessions.get sessionId = some session) (hopen : session.revokedAt = none)
    (hhash : session.refreshTokenHash = env.sha256Hex call.presented.token)
    (h : rotate env call sessionId session user = Except.ok r) :
    AccountEffect env request trace r := by
  unfold rotate at h
  split at h
  · simp only [bind_eq_ok, pure_eq_ok] at h
    rcases h with ⟨_, _, _, _, hresult⟩
    rw [← hresult]
    exact AccountEffect.refreshed hlocked hsession hopen hhash (min_le_right _ _)
  · rw [← pure_eq_ok.mp h]
    refine AccountEffect.sessionRevoked hlocked ?_ ?_
    · intro token hcause
      cases hcause
    · intro token hcause
      cases hcause

theorem refresh_effect {call : RefreshCall} (h : Ends (refresh env call) trace r) :
    AccountEffect env (AccountRequest.refresh call) trace r := by
  rcases getValidRefreshSession_bind h with
    ⟨db, sessionId, session, rest, hlocked, hsession, hopen, ⟨hhash, hrest⟩ | hrest⟩
  · simp only [ends_read_bind, ends_lift] at hrest
    rcases hrest with ⟨_, _, _, _, hrotate⟩
    exact rotate_effect hlocked hsession hopen hhash hrotate
  · exact hrest.of_pure (replay_effect hlocked hsession)

theorem logout_effect
    (h : Ends (logout env presented now) trace r) :
    AccountEffect env (AccountRequest.logout presented now) trace r := by
  rcases getValidRefreshSession_bind h with
    ⟨db, sessionId, session, rest, hlocked, hsession, hopen, ⟨hhash, hrest⟩ | hrest⟩
  · rw [← (ends_pure.mp hrest).2]
    refine AccountEffect.sessionRevoked hlocked ?_ ?_
    · intro token hcause
      cases hcause
      exact ⟨session, hsession, hopen, hhash⟩
    · intro token hcause
      cases hcause
  · exact hrest.of_pure (replay_effect hlocked hsession)

theorem revokeSession_effect (h : Ends (revokeSession env access sessionId now) trace r) :
    AccountEffect env (AccountRequest.revokeSession access sessionId now) trace r := by
  rcases (getAccessContext_authenticates access).bind h with
    ⟨db, auth, rest, htrace, _, _, hrest⟩
  rcases ends_bind.mp hrest with ⟨first, second, found, hsplit, _, hsecond⟩
  simp only [ends_lift_bind] at hsecond
  rcases hsecond with ⟨session, _, _, _, hsecond⟩
  split at hsecond
  · exact hsecond.of_pure AccountEffect.unchanged
  · simp only [ends_lock_bind, ends_pure] at hsecond
    rcases hsecond with ⟨locked, _, hlock, hnil, hr⟩
    have hlocked : Locked trace (AccountLock.session sessionId) locked := by
      rw [htrace, hsplit, hlock]
      simp [Locked]
    rw [← hr]
    refine AccountEffect.sessionRevoked hlocked ?_ ?_
    · intro token hcause
      cases hcause
    · intro token hcause
      cases hcause

/-- A revocation of all open sessions, as the last thing a request does. -/
theorem revokeOpenSessions_effect {patch : AccountPatch} {rest : AccountTrace}
    (huser : request.revokedUser env = some userId)
    (hmem : forall entry, entry ∈ rest -> entry ∈ trace) (hpatch : patch.KeepsAddress)
    (h : Ends (revokeOpenSessions userId order >>= fun ids =>
      pure (AccountResult.sessionsRevoked userId patch ids now)) rest r) :
    AccountEffect env request trace r := by
  rcases ends_bind.mp h with ⟨first, last, ids, hsplit, hids, hlast⟩
  rcases ends_updateWhere hids with ⟨snapshot, rows, hfirst, hupdated, hall⟩
  rcases ends_pure.mp hlast with ⟨hnil, hr⟩
  rw [hnil, List.append_nil, hfirst] at hsplit
  rw [hsplit] at hmem
  have hsnapshot : snapshot ∈ trace.map Prod.snd :=
    List.mem_map_of_mem (hmem _ List.mem_cons_self)
  rw [← hr]
  refine AccountEffect.sessionsRevoked huser hpatch hsnapshot ?_ ?_
  · intro sessionId hid
    rcases hupdated sessionId hid with ⟨db, hlocked, _⟩
    exact ⟨db, hmem _ (List.mem_cons_of_mem _ hlocked)⟩
  · intro sessionId hopen
    have hkey : sessionId ∈ snapshot.sessions.keys := by
      unfold isOpenSessionOf at hopen
      rw [Table.mem_keys]
      cases hget : snapshot.sessions.get sessionId with
      | none =>
          rw [hget] at hopen
          cases hopen
      | some session => rfl
    rcases hall sessionId hkey hopen with hid | ⟨db, hlocked, hclosed⟩
    · exact Or.inl hid
    · exact Or.inr ⟨db, hmem _ (List.mem_cons_of_mem _ hlocked), hclosed⟩

theorem logoutAll_effect (h : Ends (logoutAll env access now order) trace r) :
    AccountEffect env (AccountRequest.logoutAll access now order) trace r := by
  rcases (getAccessContext_authenticates access).bind h with
    ⟨db, auth, rest, htrace, huser, _, hrest⟩
  refine revokeOpenSessions_effect huser ?_ ⟨rfl, rfl⟩ hrest
  intro entry hentry
  simp [htrace, hentry]

theorem changePassword_effect {call : ChangePasswordCall}
    (h : Ends (changePassword env call) trace r) :
    AccountEffect env (AccountRequest.changePassword call) trace r := by
  rcases (getAccessContext_authenticates call.access).bind h with
    ⟨db, auth, rest, htrace, huser, _, hrest⟩
  simp only [ends_lock_bind, ends_lift_bind] at hrest
  rcases hrest with ⟨locked, rows, hsplit, _, _, _, _, _, _, hrows⟩
  refine revokeOpenSessions_effect huser ?_ ⟨rfl, rfl⟩ hrows
  intro entry hentry
  simp [htrace, hsplit, hentry]

theorem setUserActive_effect {call : SetUserActiveCall}
    (h : Ends (setUserActive env call) trace r) :
    AccountEffect env (AccountRequest.setUserActive call) trace r := by
  rcases (getCurrentSuperadmin_authenticates call.access).bind h with
    ⟨db, auth, rest, htrace, huser, _, hrest⟩
  rcases ends_bind.mp hrest with ⟨first, second, found, hsplit, _, hsecond⟩
  simp only [ends_lift_bind] at hsecond
  rcases hsecond with ⟨target, _, _, _, _, _, hsecond⟩
  split at hsecond
  · exact hsecond.of_pure AccountEffect.unchanged
  · simp only [ends_lock_bind] at hsecond
    rcases hsecond with ⟨locked, rows, hlock, hrows⟩
    split at hrows
    · exact hrows.of_pure (AccountEffect.accountChanged ⟨rfl, rfl⟩)
    · rename_i hinactive
      refine revokeOpenSessions_effect (if_neg hinactive) ?_ ⟨rfl, rfl⟩ hrows
      intro entry hentry
      simp [htrace, hsplit, hlock, hentry]

theorem revokeUserSessions_effect {targetUserId : Uuid}
    (h : Ends (revokeUserSessions env access targetUserId now order) trace r) :
    AccountEffect env
    (AccountRequest.revokeUserSessions access targetUserId now order) trace r := by
  rcases (getCurrentSuperadmin_authenticates access).bind h with
    ⟨db, auth, rest, htrace, huser, _, hrest⟩
  rcases ends_bind.mp hrest with ⟨first, second, found, hsplit, _, hsecond⟩
  simp only [ends_lift_bind] at hsecond
  rcases hsecond with ⟨target, _, _, _, hsecond⟩
  refine revokeOpenSessions_effect rfl ?_ ⟨rfl, rfl⟩ hsecond
  intro entry hentry
  simp [htrace, hsplit, hentry]

/-!
# Addresses
-/

theorem updateMe_effect {call : UpdateMeCall} (h : Ends (updateMe env call) trace r) :
    AccountEffect env (AccountRequest.updateMe call) trace r := by
  rcases (getAccessContext_authenticates call.access).bind h with
    ⟨db, auth, rest, htrace, huser, hloaded, hrest⟩
  split at hrest
  · exact hrest.of_pure AccountEffect.unchanged
  · simp only [ends_lift_bind, ends_lock_bind] at hrest
    rcases hrest with ⟨_, _, locked, rows, hsplit, hrows⟩
    have hlocked : Locked rest (AccountLock.user auth.userId) locked := by
      rw [hsplit]
      exact List.mem_cons_self
    split at hrows
    · exact hrows.of_pure (AccountEffect.accountChanged ⟨rfl, rfl⟩)
    · rename_i email hemail
      have huser : (AccountRequest.updateMe call).addressUser env = some auth.userId := by
        rw [AccountRequest.addressUser, hemail]
        exact huser
      simp only [ends_lift_bind, changeAddress] at hrows
      rcases hrows with ⟨_, _, hrows⟩
      split at hrows
      · rename_i hsame
        exact hrows.of_pure
          (AccountEffect.addressChanged huser htrace hloaded hlocked
            ⟨email, rfl, by rw [if_pos hsame]; rfl⟩)
      · rename_i hother
        rcases ends_bind.mp hrows with ⟨_, _, ids, _, _, hlast⟩
        exact hlast.of_pure
          (AccountEffect.addressChanged huser htrace hloaded hlocked
            ⟨email, rfl, by rw [if_neg hother]⟩)

theorem requestVerification_effect {call : RequestVerificationCall}
    (h : Ends (requestVerification env call) trace r) :
    AccountEffect env (AccountRequest.requestVerification call) trace r := by
  rcases (getAccessContext_authenticates call.access).bind h with
    ⟨db, auth, rest, _, _, _, hrest⟩
  simp only [ends_lift_bind, ends_lock_bind] at hrest
  rcases hrest with ⟨_, _, _, _, _, _, _, email, _, hrest⟩
  split at hrest
  · exact hrest.of_pure AccountEffect.unchanged
  · rcases ends_bind.mp hrest with ⟨_, _, deleted, _, _, hrest⟩
    rcases ends_bind.mp hrest with ⟨_, _, revoked, _, _, hrest⟩
    simp only [ends_lift_bind, ends_pure] at hrest
    rcases hrest with ⟨_, _, _, hr⟩
    rw [← hr]
    exact AccountEffect.challengeCreated

theorem recordDeliveryFailure_effect {challengeId : Uuid}
    (h : Ends (recordDeliveryFailure challengeId now) trace r) :
    AccountEffect env (AccountRequest.recordDeliveryFailure challengeId now) trace r := by
  simp only [recordDeliveryFailure, ends_lock_bind] at h
  rcases h with ⟨_, _, _, h⟩
  split at h
  · exact h.of_pure AccountEffect.challengeRevoked
  · exact h.of_pure AccountEffect.unchanged

theorem confirm_effect {call : ConfirmCall} (h : Ends (confirm env call) trace r) :
    AccountEffect env (AccountRequest.confirm call) trace r := by
  rcases (getAccessContext_authenticates call.access).bind h with
    ⟨db, auth, rest, htrace, huser, hloaded, hrest⟩
  simp only [ends_lift_bind, ends_read_bind, ends_lock_bind] at hrest
  rcases hrest with ⟨_, _, _, _, hsplit, _, _, _, _, locked, _, hlock, hrest⟩
  have hlocked : Locked rest (AccountLock.user auth.userId) locked := by
    rw [hsplit, hlock]
    exact List.mem_cons_of_mem _ List.mem_cons_self
  rcases ends_bind.mp hrest with ⟨_, _, found, _, _, hrest⟩
  simp only [ends_lift_bind, consumeChallenge] at hrest
  rcases hrest with ⟨row, _, _, _, _, _, _, _, hrest⟩
  split at hrest
  · exact hrest.of_pure AccountEffect.challengeRevoked
  · split at hrest
    · exact hrest.of_pure AccountEffect.challengeRevoked
    · rename_i haddress
      rcases ends_bind.mp hrest with ⟨_, _, ids, _, _, hlast⟩
      exact hlast.of_pure
        (AccountEffect.challengeConsumed huser htrace hloaded hlocked
          (not_not.mp haddress) rfl)

theorem AccountRequest.effect (h : Ends (request.script env) trace r) :
    AccountEffect env request trace r := by
  cases request with
  | login call => exact login_effect h
  | refresh call => exact refresh_effect h
  | logout presented now => exact logout_effect h
  | revokeSession access sessionId now => exact revokeSession_effect h
  | logoutAll access now order => exact logoutAll_effect h
  | changePassword call => exact changePassword_effect h
  | setUserActive call => exact setUserActive_effect h
  | revokeUserSessions access targetUserId now order => exact revokeUserSessions_effect h
  | updateMe call => exact updateMe_effect h
  | requestVerification call => exact requestVerification_effect h
  | recordDeliveryFailure challengeId now => exact recordDeliveryFailure_effect h
  | confirm call => exact confirm_effect h

end

end MessagingSystem
