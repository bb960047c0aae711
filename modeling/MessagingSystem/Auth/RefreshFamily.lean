import MessagingSystem.Auth.SessionHistory

/-!
# Refresh token families

The refresh tokens of a session form a family: each is exchanged for the next one.
Presenting a token that has been exchanged already ends the whole family.
-/

namespace MessagingSystem

open Foundation
open Foundation.Script

/-!
# Tokens in the history
-/

/-- The refresh token that was issued, with its session. -/
def AccountEvent.issued : AccountEvent -> Option (Uuid × String)
  | opened sessionId _ token _ => some (sessionId, token)
  | exchanged sessionId _ newToken => some (sessionId, newToken)
  | _ => none

def AccountEvent.exchangedToken : AccountEvent -> Option String
  | exchanged _ token _ => some token
  | _ => none

/-- A refresh token of the session was accepted. -/
def AccountEvent.accepts (sessionId : Uuid) : AccountEvent -> Bool
  | exchanged id _ _ => id = sessionId
  | loggedOut id _ => id = sessionId
  | _ => false

namespace AccountDatabase

variable {sessionId : Uuid}
variable {session : UserSession}
variable {store : Store AccountDatabase AccountRequest}

def issuedTokens (db : AccountDatabase) : List (Uuid × String) :=
  db.history.filterMap AccountEvent.issued

def exchangedTokens (db : AccountDatabase) : List String :=
  db.history.filterMap AccountEvent.exchangedToken

def usedTokens (db : AccountDatabase) : List String :=
  db.issuedTokens.map Prod.snd ++ db.exchangedTokens

end AccountDatabase

/-- The issued tokens are distinct, and the hash tells the tokens of the history apart. -/
structure TokensApart (env : AuthEnv) (db : AccountDatabase) : Prop where
  distinct : (db.issuedTokens.map Prod.snd).Nodup
  noCollision : forall x, x ∈ db.usedTokens -> forall y, y ∈ db.usedTokens ->
    env.sha256Hex x = env.sha256Hex y -> x = y

section

variable {env : AuthEnv} {db db' : AccountDatabase} {events : List AccountEvent} {token : String}

theorem issuedTokens_append (h : db'.history = db.history ++ events) :
    db'.issuedTokens = db.issuedTokens ++ events.filterMap AccountEvent.issued := by
  unfold AccountDatabase.issuedTokens
  rw [h, List.filterMap_append]

theorem exchangedTokens_append (h : db'.history = db.history ++ events) :
    db'.exchangedTokens
      = db.exchangedTokens ++ events.filterMap AccountEvent.exchangedToken := by
  unfold AccountDatabase.exchangedTokens
  rw [h, List.filterMap_append]

theorem TokensApart.earlier (h : TokensApart env db') (hgrow : SessionsGrow db db') :
    TokensApart env db := by
  rcases hgrow.1 with ⟨events, hhistory⟩
  have hissued := issuedTokens_append hhistory
  have hexchanged := exchangedTokens_append hhistory
  have hused : forall x, x ∈ db.usedTokens -> x ∈ db'.usedTokens := by
    intro x hx
    unfold AccountDatabase.usedTokens at hx ⊢
    rw [hissued, hexchanged, List.map_append]
    rcases List.mem_append.mp hx with hx | hx
    · exact List.mem_append_left _ (List.mem_append_left _ hx)
    · exact List.mem_append_right _ (List.mem_append_left _ hx)
  refine ⟨?_, ?_⟩
  · have hdistinct := h.distinct
    rw [hissued, List.map_append] at hdistinct
    exact (List.nodup_append.mp hdistinct).1
  · intro x hx y hy
    exact h.noCollision x (hused x hx) y (hused y hy)

theorem mem_usedTokens_of_issued (h : (sessionId, token) ∈ db.issuedTokens) :
    token ∈ db.usedTokens :=
  List.mem_append_left _ (List.mem_map.mpr ⟨_, h, rfl⟩)

/-!
# Each token once

Every session holds the hash of a token that was issued to it and has not been
exchanged yet.
-/

structure TokensOk (env : AuthEnv) (db : AccountDatabase) : Prop where
  current : forall id session, db.sessions.get id = some session ->
    exists token, (id, token) ∈ db.issuedTokens ∧
      session.refreshTokenHash = env.sha256Hex token ∧ token ∉ db.exchangedTokens
  once : db.exchangedTokens.Nodup
  known : forall token, token ∈ db.exchangedTokens -> token ∈ db.issuedTokens.map Prod.snd

/-- Steps that neither issue nor exchange a token and keep the hashes. -/
theorem TokensOk.keep (h : TokensOk env db)
    (hissued : db'.issuedTokens = db.issuedTokens)
    (hexchanged : db'.exchangedTokens = db.exchangedTokens)
    (hrows : forall id session', db'.sessions.get id = some session' ->
      exists session, db.sessions.get id = some session ∧
        session'.refreshTokenHash = session.refreshTokenHash) : TokensOk env db' := by
  refine ⟨?_, ?_, ?_⟩
  · intro id session' hget
    rcases hrows id session' hget with ⟨session, hsession, hhash⟩
    rw [hissued, hexchanged, hhash]
    exact h.current id session hsession
  · rw [hexchanged]
    exact h.once
  · rw [hexchanged, hissued]
    exact h.known

theorem TokensOk.open (h : TokensOk env db) (hapart : TokensApart env db')
    (hhash : session.refreshTokenHash = env.sha256Hex token)
    (hsessions : db'.sessions = db.sessions.set sessionId (some session))
    (hissued : db'.issuedTokens = db.issuedTokens ++ [(sessionId, token)])
    (hexchanged : db'.exchangedTokens = db.exchangedTokens) : TokensOk env db' := by
  have hfresh : token ∉ db.issuedTokens.map Prod.snd := by
    intro hmem
    have hdistinct := hapart.distinct
    rw [hissued, List.map_append] at hdistinct
    exact (List.nodup_append.mp hdistinct).2.2 token hmem token List.mem_cons_self rfl
  refine ⟨?_, ?_, ?_⟩
  · intro id row hget
    rw [hissued, hexchanged]
    rw [hsessions] at hget
    rcases Table.get_set_some_cases hget with ⟨rfl, rfl⟩ | ⟨_, hget⟩
    · refine ⟨token, ?_, hhash, fun hmem => hfresh (h.known token hmem)⟩
      exact List.mem_append_right _ List.mem_cons_self
    · rcases h.current id row hget with ⟨other, hother, hrest⟩
      exact ⟨other, List.mem_append_left _ hother, hrest⟩
  · rw [hexchanged]
    exact h.once
  · intro other hother
    rw [hexchanged] at hother
    rw [hissued, List.map_append]
    exact List.mem_append_left _ (h.known other hother)

theorem TokensOk.exchange {session session' : UserSession} {newToken : String}
    (h : TokensOk env db) (hapart : TokensApart env db')
    (hsession : db.sessions.get sessionId = some session)
    (hhash : session.refreshTokenHash = env.sha256Hex token)
    (hnewHash : session'.refreshTokenHash = env.sha256Hex newToken)
    (hsessions : db'.sessions = db.sessions.set sessionId (some session'))
    (hissued : db'.issuedTokens = db.issuedTokens ++ [(sessionId, newToken)])
    (hexchanged : db'.exchangedTokens = db.exchangedTokens ++ [token]) : TokensOk env db' := by
  have hdistinct := hapart.distinct
  rw [hissued, List.map_append, List.nodup_append] at hdistinct
  rcases hdistinct with ⟨holdDistinct, _, hnew⟩
  -- The presented token is the one that was issued last for the session.
  rcases h.current sessionId session hsession with ⟨current, hcurrent, hcurrentHash, hunused⟩
  have hsame : token = current := by
    apply hapart.noCollision
    · unfold AccountDatabase.usedTokens
      rw [hexchanged]
      simp
    · have hmem : (sessionId, current) ∈ db'.issuedTokens := by
        rw [hissued]
        exact List.mem_append_left _ hcurrent
      exact mem_usedTokens_of_issued hmem
    · rw [← hhash, hcurrentHash]
  subst hsame
  have hissuedToken : token ∈ db.issuedTokens.map Prod.snd := List.mem_map.mpr ⟨_, hcurrent, rfl⟩
  refine ⟨?_, ?_, ?_⟩
  · intro id row hget
    rw [hissued, hexchanged]
    rw [hsessions] at hget
    rcases Table.get_set_some_cases hget with ⟨rfl, rfl⟩ | ⟨hne, hget⟩
    · refine ⟨newToken, ?_, hnewHash, ?_⟩
      · exact List.mem_append_right _ List.mem_cons_self
      · intro hmem
        have hold : newToken ∈ db.issuedTokens.map Prod.snd := by
          rcases List.mem_append.mp hmem with hmem | hmem
          · exact h.known newToken hmem
          · rw [List.mem_singleton.mp hmem]
            exact hissuedToken
        exact hnew newToken hold newToken List.mem_cons_self rfl
    · rcases h.current id row hget with ⟨other, hother, hotherHash, hotherUnused⟩
      refine ⟨other, List.mem_append_left _ hother, hotherHash, ?_⟩
      intro hmem
      rcases List.mem_append.mp hmem with hmem | hmem
      · exact hotherUnused hmem
      · rw [List.mem_singleton.mp hmem] at hother
        have hpair := List.inj_on_of_nodup_map holdDistinct hother hcurrent rfl
        exact hne (Prod.mk.inj hpair).1
  · rw [hexchanged, List.nodup_append]
    refine ⟨h.once, List.nodup_singleton _, ?_⟩
    intro x hx y hy heq
    rw [List.mem_singleton.mp hy] at heq
    rw [heq] at hx
    exact hunused hx
  · intro other hother
    rw [hissued, List.map_append]
    rw [hexchanged] at hother
    rcases List.mem_append.mp hother with hother | hother
    · exact List.mem_append_left _ (h.known other hother)
    · rw [List.mem_singleton.mp hother]
      exact List.mem_append_left _ hissuedToken

theorem filterMap_isAboutUser (h : forall event, event ∈ events -> event.isAboutUser = true) :
    events.filterMap AccountEvent.issued = [] ∧
      events.filterMap AccountEvent.exchangedToken = [] := by
  constructor
  · apply List.filterMap_eq_nil_iff.mpr
    intro event hevent
    have hkind := h event hevent
    cases event with
    | opened | exchanged => cases hkind
    | _ => rfl
  · apply List.filterMap_eq_nil_iff.mpr
    intro event hevent
    have hkind := h event hevent
    cases event with
    | exchanged sessionId token newToken => cases hkind
    | _ => rfl

theorem filterMap_causeEvents (cause : RevocationCause) (sessionId : Uuid) :
    (cause.events sessionId).filterMap AccountEvent.issued = [] ∧
      (cause.events sessionId).filterMap AccountEvent.exchangedToken = [] := by
  cases cause with
  | requested | accountInactive | logout | replay => exact ⟨rfl, rfl⟩

/-- Sessions that end keep the hash of their token. -/
theorem TokensOk.end (h : TokensOk env db) (hhistory : db'.history = db.history ++ events)
    (hevents : events.filterMap AccountEvent.issued = [] ∧
      events.filterMap AccountEvent.exchangedToken = []) (hrows : EndedRows db db') :
    TokensOk env db' := by
  refine h.keep ?_ ?_ ?_
  · rw [issuedTokens_append hhistory, hevents.1, List.append_nil]
  · rw [exchangedTokens_append hhistory, hevents.2, List.append_nil]
  · intro id session' hget
    rcases hrows.before hget with ⟨session, hsession, _, hhash, _⟩
    exact ⟨session, hsession, hhash⟩

theorem TokensOk.step (h : TokensOk env db) (hstep : SessionsStep env db db')
    (hapart : TokensApart env db') : TokensOk env db' := by
  cases hstep with
  | opened hnew hopen hhash hexpires hsessions hhistory =>
      refine h.open hapart hhash hsessions (issuedTokens_append hhistory) ?_
      rw [exchangedTokens_append hhistory]
      exact List.append_nil _
  | exchanged hsession hopen hhash hsessions huser hnewHash habsolute hexpires hhistory =>
      exact h.exchange hapart hsession hhash hnewHash hsessions (issuedTokens_append hhistory)
        (exchangedTokens_append hhistory)
  | @ended sessionId cause change hlogout hexists hsessions hended hhistory =>
      exact h.end hhistory (filterMap_causeEvents cause sessionId)
        (endedRows_of_update hsessions hended)
  | revoked hrows hhistory hevents =>
      exact h.end hhistory (filterMap_isAboutUser hevents) hrows

theorem tokensOk_of_reachable
    (h : (accountWorkload env).system.Reachable store)
    (hapart : TokensApart env store.committed) : TokensOk env store.committed := by
  refine sessions_invariant (I := fun db => TokensApart env db -> TokensOk env db) ?_ ?_ h
    hapart
  · intro _
    refine ⟨?_, List.nodup_nil, ?_⟩
    · intro id session hget
      cases hget
    · intro token htoken
      cases htoken
  · intro db db' hok hstep hapart'
    exact (hok (hapart'.earlier hstep.grows)).step hstep hapart'

/-!
# After a replay
-/

def AccountDatabase.IsRevoked (db : AccountDatabase) (sessionId : Uuid) : Prop :=
  exists session, db.sessions.get sessionId = some session ∧ session.revokedAt.isSome = true

theorem AccountDatabase.IsRevoked.later (h : db.IsRevoked sessionId)
    (hgrow : SessionsGrow db db') : db'.IsRevoked sessionId := by
  rcases h with ⟨session, hsession, hrevoked⟩
  rcases hgrow.2 sessionId session hsession with ⟨session', hsession', hlater⟩
  exact ⟨session', hsession', hlater.revoked hrevoked⟩

theorem AccountDatabase.IsRevoked.not_open (h : db.IsRevoked sessionId)
    (hsession : db.sessions.get sessionId = some session)
    (hopen : session.revokedAt = none) : False := by
  rcases h with ⟨session', hsession', hrevoked⟩
  rw [hsession] at hsession'
  cases hsession'
  rw [hopen] at hrevoked
  cases hrevoked

structure ReplaysOk (db : AccountDatabase) : Prop where
  revoked : forall sessionId token,
    AccountEvent.replayDetected sessionId token ∈ db.history -> db.IsRevoked sessionId
  final : db.history.Pairwise (fun earlier later => forall sessionId token,
    earlier = AccountEvent.replayDetected sessionId token -> later.accepts sessionId = false)

/-- New events that accept no token of a session that is revoked. -/
theorem ReplaysOk.extend (h : ReplaysOk db) (hgrow : SessionsGrow db db')
    (hhistory : db'.history = db.history ++ events)
    (hnew : forall event, event ∈ events -> forall sessionId,
      event.accepts sessionId = true -> ¬db.IsRevoked sessionId)
    (hreplayed : forall sessionId token,
      AccountEvent.replayDetected sessionId token ∈ events -> db'.IsRevoked sessionId)
    (hlength : events.length ≤ 1 ∨ forall event, event ∈ events -> event.isAboutUser = true) :
    ReplaysOk db' := by
  refine ⟨?_, ?_⟩
  · intro sessionId token hmem
    rw [hhistory] at hmem
    rcases List.mem_append.mp hmem with hmem | hmem
    · exact (h.revoked sessionId token hmem).later hgrow
    · exact hreplayed sessionId token hmem
  · rw [hhistory, List.pairwise_append]
    refine ⟨h.final, ?_, ?_⟩
    · rcases hlength with hlength | hkinds
      · match events, hlength with
        | [], _ => exact List.Pairwise.nil
        | [event], _ => exact List.pairwise_singleton _ _
      · apply List.pairwise_of_forall_mem_list
        intro earlier hearlier later _ sessionId token heq
        have hkind := hkinds earlier hearlier
        rw [heq] at hkind
        cases hkind
    · intro earlier hearlier later hlater sessionId token heq
      rw [heq] at hearlier
      have hrevoked := h.revoked sessionId token hearlier
      by_contra haccepts
      exact hnew later hlater sessionId (by simpa using haccepts) hrevoked

theorem ReplaysOk.step (h : ReplaysOk db) (hstep : SessionsStep env db db') :
    ReplaysOk db' := by
  have hgrow := hstep.grows
  cases hstep with
  | opened hnew hopen hhash hexpires hsessions hhistory =>
      refine h.extend hgrow hhistory ?_ ?_ (Or.inl (Nat.le_refl 1))
      · intro event hevent sessionId haccepts
        rw [List.mem_singleton.mp hevent] at haccepts
        cases haccepts
      · intro sessionId token hmem
        cases List.mem_singleton.mp hmem
  | exchanged hsession hopen hhash hsessions huser hnewHash habsolute hexpires hhistory =>
      refine h.extend hgrow hhistory ?_ ?_ (Or.inl (Nat.le_refl 1))
      · intro event hevent sessionId haccepts hrevoked
        rw [List.mem_singleton.mp hevent] at haccepts
        have heq : _ = sessionId := of_decide_eq_true haccepts
        rw [heq] at hsession
        exact hrevoked.not_open hsession hopen
      · intro sessionId token hmem
        cases List.mem_singleton.mp hmem
  | @ended sessionId cause change hlogout hexists hsessions hended hhistory =>
      refine h.extend hgrow hhistory ?_ ?_ (Or.inl ?_)
      · intro event hevent id haccepts hrevoked
        cases cause with
        | requested => cases hevent
        | accountInactive => cases hevent
        | logout token =>
            rw [List.mem_singleton.mp hevent] at haccepts
            have heq : sessionId = id := of_decide_eq_true haccepts
            rcases hlogout token rfl with ⟨session, hsession, hopen, _⟩
            rw [heq] at hsession
            exact hrevoked.not_open hsession hopen
        | replay token =>
            rw [List.mem_singleton.mp hevent] at haccepts
            cases haccepts
      · intro id token hmem
        cases cause with
        | requested => cases hmem
        | accountInactive => cases hmem
        | logout token' => cases List.mem_singleton.mp hmem
        | replay token' =>
            cases List.mem_singleton.mp hmem
            rcases hexists _ rfl with ⟨session, hsession⟩
            refine ⟨change session, ?_, ?_⟩
            · rw [hsessions, Table.get_update, if_pos rfl, hsession]
              rfl
            · rcases hended session with ⟨revokedAt, replayDetectedAt, heq⟩
              rw [heq]
              rfl
      · cases cause with
        | requested => exact Nat.zero_le 1
        | accountInactive => exact Nat.zero_le 1
        | logout token => exact Nat.le_refl 1
        | replay token => exact Nat.le_refl 1
  | revoked hrows hhistory hevents =>
      refine h.extend hgrow hhistory ?_ ?_ (Or.inr hevents)
      · intro event hevent sessionId haccepts
        have hkind := hevents event hevent
        cases event with
        | exchanged _ _ _ => cases hkind
        | loggedOut _ _ => cases hkind
        | _ => cases haccepts
      · intro sessionId token hmem
        cases hevents _ hmem

theorem replaysOk_of_reachable
    (h : (accountWorkload env).system.Reachable store) : ReplaysOk store.committed := by
  refine sessions_invariant ?_ (fun db db' hok hstep => hok.step hstep) h
  refine ⟨?_, List.Pairwise.nil⟩
  intro sessionId token hmem
  cases hmem

/-!
# Deadlines
-/

def DeadlinesOk (db : AccountDatabase) : Prop :=
  forall id session, db.sessions.get id = some session ->
    session.expiresAt ≤ session.absoluteExpiresAt

theorem DeadlinesOk.step (h : DeadlinesOk db) (hstep : SessionsStep env db db') :
    DeadlinesOk db' := by
  intro id session' hget
  rcases hstep.rows hget with ⟨session, hsession, _, hdeadline⟩ | ⟨hdeadline, _⟩
  · exact hdeadline (h id session hsession)
  · exact hdeadline

theorem deadlinesOk_of_reachable
    (h : (accountWorkload env).system.Reachable store) : DeadlinesOk store.committed := by
  refine sessions_invariant ?_ (fun db db' hok hstep => hok.step hstep) h
  intro id session hget
  cases hget

/-!
# Presenting a superseded token
-/

variable {presented : PresentedToken} {claims : Claims}

/-- The token is signed and in time for an open session, which has another token now. -/
structure Superseded (env : AuthEnv) (presented : PresentedToken) (db : AccountDatabase)
    (sessionId : Uuid) (claims : Claims) (session : UserSession) : Prop where
  decoded : env.decodeToken presented.decodedAt presented.token = some claims
  tokenType : claims.tokenType = some "refresh"
  sid : claims.sid = some sessionId
  sub : claims.sub = some session.userId
  found : db.sessions.get sessionId = some session
  unrevoked : session.revokedAt = none
  unexpired : presented.now < session.expiresAt ∧ presented.now < session.absoluteExpiresAt
  superseded : session.refreshTokenHash ≠ env.sha256Hex presented.token

theorem Superseded.check (h : Superseded env presented db sessionId claims session) :
    Ends (getValidRefreshSession env presented)
      [(some (AccountLock.session sessionId, LockMode.exclusive), db)]
      (RefreshCheck.replayed sessionId) := by
  have hcheck : checkRefreshToken env presented sessionId session.userId db
      = Except.ok (RefreshCheck.replayed sessionId) := by
    unfold checkRefreshToken
    simp only [bind_eq_ok, orFail_eq_ok, require_eq_ok, assertActiveSession_eq_ok]
    refine ⟨session, h.found, (), beq_self_eq_true _, (), ⟨h.unrevoked, h.unexpired⟩, ?_⟩
    rw [if_neg h.superseded]
    rfl
  unfold getValidRefreshSession
  simp only [ends_lift_bind, ends_lock_bind, ends_lift]
  refine ⟨claims, ?_, (), ?_, sessionId, ?_, session.userId, ?_, db, [], rfl, rfl, hcheck⟩
  · exact orFail_eq_ok.mpr h.decoded
  · rw [h.tokenType]
    rfl
  · exact orFail_eq_ok.mpr h.sid
  · exact orFail_eq_ok.mpr h.sub

/-- The requests that present a refresh token. -/
def AccountRequest.Presents (request : AccountRequest) (presented : PresentedToken) : Prop :=
  (exists call, request = AccountRequest.refresh call ∧ call.presented = presented) ∨
    exists now, request = AccountRequest.logout presented now

/-- A superseded token can only end in the revocation of its session. -/
theorem Superseded.outcome (h : Superseded env presented db sessionId claims session)
    {request : AccountRequest} (hpresents : request.Presents presented) :
    (request.script env).Returns [db] (replayResult presented sessionId) := by
  have hends : Ends (request.script env)
      [(some (AccountLock.session sessionId, LockMode.exclusive), db)]
      (replayResult presented sessionId) := by
    rcases hpresents with ⟨call, hrequest, hcall⟩ | ⟨now, hrequest⟩
    · subst hrequest hcall
      exact ends_bind.mpr ⟨_, [], _, rfl, h.check, ends_pure.mpr ⟨rfl, rfl⟩⟩
    · subst hrequest
      exact ends_bind.mpr ⟨_, [], _, rfl, h.check, ends_pure.mpr ⟨rfl, rfl⟩⟩
  exact hends.returns

/-- The commit of a request that presented a superseded token. -/
theorem Superseded.commit (h : Superseded env presented db sessionId claims session)
    {store store' : Store AccountDatabase AccountRequest} {t : Nat}
    {s : Session AccountDatabase AccountRequest} (hget : store.sessions.get t = some s)
    (hpresents : s.request.Presents presented) (hseen : s.seen = [db])
    (hnext : (accountWorkload env).next store (StoreLabel.commit t) = some store') :
    store'.committed.history = store.committed.history ++
      [AccountEvent.replayDetected sessionId presented.token] := by
  have houtcome : (s.request.script env).outcome s.seen
      = some (replayResult presented sessionId) := by
    rw [hseen]
    exact h.outcome hpresents
  have hscript : ((accountWorkload env).script s.request).outcome s.seen
      = some (replayResult presented sessionId) := houtcome
  simp only [Workload.next, hget, hscript] at hnext
  rcases Option.map_eq_some_iff.mp hnext with ⟨db', hcommit, hstore⟩
  rw [← hstore]
  have hcommit' : (replayResult presented sessionId).commit env store.committed
      = some db' := hcommit
  cases hcommit'
  rfl

/-- Sessions that have been revoked give no access. -/
theorem checkSessionAccess_revoked {userId sessionId : Uuid} {tokenExpiresAt now : Instant}
    (h : db.IsRevoked sessionId) (auth : AccessContext) :
    checkSessionAccess db userId sessionId tokenExpiresAt now ≠ Except.ok auth := by
  intro hok
  rcases checkSessionAccess_eq_ok hok with ⟨_, _, hsession, _, hopen⟩
  exact h.not_open hsession hopen

end

/-- What presenting a superseded token does to the rest of the execution. -/
def EndsFamily (env : AuthEnv) (e : (accountWorkload env).system.Execution) (i : Nat)
    (sessionId : Uuid) (token : String) : Prop :=
  forall j, i < j -> j ≤ e.length ->
    (exists later, (e.stateAt j).committed.history
        = (e.stateAt i).committed.history ++
          AccountEvent.replayDetected sessionId token :: later ∧
      forall event, event ∈ later -> event.accepts sessionId = false) ∧
    forall userId tokenExpiresAt now auth,
      checkSessionAccess (e.stateAt j).committed userId sessionId tokenExpiresAt now
        ≠ Except.ok auth

theorem endsFamily_of_superseded {env : AuthEnv} (e : (accountWorkload env).system.Execution)
    {i t : Nat} {s : Session AccountDatabase AccountRequest} {presented : PresentedToken}
    {db : AccountDatabase} {claims : Claims}
    (hi : i < e.length) (hlabel : e.labelAt i = StoreLabel.commit t)
    (hget : (e.stateAt i).sessions.get t = some s) (hpresents : s.request.Presents presented)
    (hseen : s.seen = [db])
    (hsuperseded : Superseded env presented db sessionId claims session) :
    EndsFamily env e i sessionId presented.token := by
  intro j hij hj
  have hnext := e.step i hi
  rw [hlabel] at hnext
  have hcommitted := hsuperseded.commit hget hpresents hseen hnext
  have hgrow : SessionsGrow (e.stateAt (i + 1)).committed (e.stateAt j).committed :=
    sessions_related e SessionsGrow.refl (fun a b c => SessionsGrow.trans)
      (fun a b hstep => hstep.grows) hij hj
  rcases hgrow.1 with ⟨later, hlater⟩
  rw [hcommitted, List.append_assoc, List.singleton_append] at hlater
  have hok := replaysOk_of_reachable (e.reachable hj)
  refine ⟨⟨later, hlater, ?_⟩, ?_⟩
  · intro event hevent
    have hpairs := hok.final
    rw [hlater] at hpairs
    have htail := (List.pairwise_append.mp hpairs).2.1
    exact (List.pairwise_cons.mp htail).1 event hevent sessionId presented.token rfl
  · intro userId tokenExpiresAt now auth
    apply checkSessionAccess_revoked
    apply hok.revoked sessionId presented.token
    rw [hlater]
    exact List.mem_append_right _ List.mem_cons_self

/--
In every run, whatever tokens are presented: a token is exchanged at most once, a
superseded token ends its session for good, no revocation is taken back, and the
absolute deadline of a session is fixed and bounds the idle one.
-/
theorem refresh_family_safe (env : AuthEnv) (e : (accountWorkload env).system.Execution)
    (hapart : TokensApart env (e.stateAt e.length).committed) :
    (e.stateAt e.length).committed.exchangedTokens.Nodup ∧
    (forall i, i < e.length -> forall t s presented db sessionId claims session,
      e.labelAt i = StoreLabel.commit t -> (e.stateAt i).sessions.get t = some s ->
      s.request.Presents presented -> s.seen = [db] ->
      Superseded env presented db sessionId claims session ->
      EndsFamily env e i sessionId presented.token) ∧
    (forall i j, i ≤ j -> j ≤ e.length -> forall sessionId session,
      (e.stateAt i).committed.sessions.get sessionId = some session ->
      exists session', (e.stateAt j).committed.sessions.get sessionId = some session' ∧
        (session.revokedAt.isSome = true -> session'.revokedAt.isSome = true) ∧
        session'.absoluteExpiresAt = session.absoluteExpiresAt) ∧
    (forall i, i ≤ e.length -> forall sessionId session,
      (e.stateAt i).committed.sessions.get sessionId = some session ->
      session.expiresAt ≤ session.absoluteExpiresAt) := by
  refine ⟨?_, ?_, ?_, ?_⟩
  · exact (tokensOk_of_reachable (e.reachable (Nat.le_refl _)) hapart).once
  · intro i hi t s presented db sessionId claims session hlabel hget hpresents hseen
      hsuperseded
    exact endsFamily_of_superseded e hi hlabel hget hpresents hseen hsuperseded
  · intro i j hij hj sessionId session hsession
    have hgrow : SessionsGrow (e.stateAt i).committed (e.stateAt j).committed :=
      sessions_related e SessionsGrow.refl (fun a b c => SessionsGrow.trans)
        (fun a b hstep => hstep.grows) hij hj
    rcases hgrow.2 sessionId session hsession with ⟨session', hsession', hlater⟩
    exact ⟨session', hsession', hlater.revoked, hlater.absoluteExpiresAt⟩
  · intro i hi sessionId session hsession
    exact deadlinesOk_of_reachable (e.reachable hi) sessionId session hsession

/-!
# A replay
-/

/-- Tokens that spell out their random part; every refresh token is for session 10. -/
def sampleAuthEnv : AuthEnv where
  jwtAccessTtlMin := 15
  sessionAbsoluteTtlDays := 30
  emailVerificationEnabled := true
  emailVerificationTtlMinutes := 30
  sha256Hex text := text
  lowerText text := text
  sqlLower text := text
  sqlLowerBtrim text := text
  decodeToken _ token :=
    if token = "access" then some ⟨some "access", some 1, some 10, some 604800000100⟩
    else some ⟨some "refresh", some 1, some 10, none⟩
  encodeToken payload := payload.jti.getD "access"
  verifyPassword password hash := password == hash
  hashPassword _ password := password

def sampleLogin (sessionId : Uuid) (jti : String) : LoginCall where
  usernameOrEmail := "ann"
  password := "secret"
  userAgent := none
  ip := none
  refreshTtlDays := 7
  absoluteTtlDays := 30
  now := 5
  refreshIssuedAt := 5
  accessIssuedAt := 5
  sessionId := sessionId
  jti := jti

def sampleRefresh (token jti : String) : RefreshCall where
  presented := ⟨token, 6, 6⟩
  userAgent := none
  ip := none
  refreshTtlDays := 7
  now := 6
  refreshIssuedAt := 6
  accessIssuedAt := 6
  jti := jti

/-- A registered user logs in. -/
def firstLogin : List AccountStoreLabel :=
  [StoreLabel.outside (AccountAction.register 1 "ann" none "secret"),
    StoreLabel.begin 0 (AccountRequest.login (sampleLogin 10 "first")),
    StoreLabel.statement 0,
    StoreLabel.commit 0]

/-- The first token is exchanged, presented again, and then the second one is presented. -/
def replayRun : List AccountStoreLabel :=
  firstLogin ++
    [StoreLabel.begin 1 (AccountRequest.refresh (sampleRefresh "first" "second")),
      StoreLabel.begin 2 (AccountRequest.refresh (sampleRefresh "first" "third")),
      StoreLabel.statement 1,
      StoreLabel.statement 1,
      StoreLabel.commit 1,
      StoreLabel.statement 2,
      StoreLabel.commit 2,
      StoreLabel.begin 3 (AccountRequest.refresh (sampleRefresh "second" "fourth")),
      StoreLabel.statement 3,
      StoreLabel.rollback 3]

theorem replayRun_ends_family :
    exists e : (accountWorkload sampleAuthEnv).system.Execution,
      TokensApart sampleAuthEnv (e.stateAt e.length).committed ∧
      (e.stateAt e.length).committed.exchangedTokens = ["first"] ∧
      AccountEvent.replayDetected 10 "first" ∈ (e.stateAt e.length).committed.history ∧
      (e.stateAt e.length).committed.exchangedTokens.Nodup := by
  have hrun : (replayRun.foldlM (accountWorkload sampleAuthEnv).next
      ⟨AccountDatabase.empty, Table.empty⟩).map (fun store => store.committed.history)
      = some [AccountEvent.opened 10 1 "first" 0,
        AccountEvent.exchanged 10 "first" "second",
        AccountEvent.replayDetected 10 "first"] := by
    decide +kernel
  rcases Option.map_eq_some_iff.mp hrun with ⟨store, hstore, hhistory⟩
  have hstart : (accountWorkload sampleAuthEnv).system.start
      ⟨AccountDatabase.empty, Table.empty⟩ := ⟨rfl, rfl⟩
  rcases System.exists_execution_of_run (M := (accountWorkload sampleAuthEnv).system)
    (fun _ _ _ hstep => hstep) hstart hstore (StoreLabel.rollback 0) with ⟨e, _, hfinal⟩
  have hapart : TokensApart sampleAuthEnv (e.stateAt e.length).committed := by
    rw [hfinal]
    refine ⟨?_, fun x _ y _ heq => heq⟩
    unfold AccountDatabase.issuedTokens
    rw [hhistory]
    decide
  refine ⟨e, hapart, ?_, ?_, (refresh_family_safe sampleAuthEnv e hapart).1⟩
  · rw [hfinal]
    unfold AccountDatabase.exchangedTokens
    rw [hhistory]
    rfl
  · rw [hfinal, hhistory]
    simp

end MessagingSystem
