import MessagingSystem.Auth.RefreshFamily

/-!
# Proof of the address

A verified address should be one that the user has proved since it last changed.  The
requests work on the user they loaded when they were authenticated, and a column is
written only when it differs from what was loaded.  So the proof can outlive a change
of the address when another request commits in between.  It cannot when the address
and its proof are still the loaded ones at every commit of such a request.
-/

namespace MessagingSystem

open Foundation
open Foundation.Script

variable {userId : Uuid} {patch : AccountPatch}

/-- A verified address is the address of a challenge consumed since it last changed. -/
def EmailProved (env : AuthEnv) (db : AccountDatabase) : Prop :=
  forall userId account, db.users.get userId = some account ->
    account.emailVerifiedAt ≠ none ->
    exists before email after,
      db.history = before ++ AccountEvent.challengeConsumed userId email :: after ∧
      account.address env = some email ∧ AccountEvent.addressChanged userId ∉ after

/-!
# What a request has loaded
-/

def AccountDatabase.addressProof (db : AccountDatabase) (userId : Uuid) :
    Option (Option String × Option Instant) :=
  (db.users.get userId).map (fun account => (account.email, account.emailVerifiedAt))

/-- The user whose address the request is about, and the rows it was loaded from. -/
def loadedAddress (env : AuthEnv) (s : Session AccountDatabase AccountRequest) :
    Option (Uuid × AccountDatabase) :=
  (s.request.addressUser env).bind (fun userId =>
    s.seen.head?.map (fun db => (userId, db)))

/-- A new address or a proof is committed over the address and proof that were loaded. -/
def LoadedIsCurrent (env : AuthEnv) (store : Store AccountDatabase AccountRequest) :
    AccountStoreLabel -> Prop
  | StoreLabel.commit t =>
      forall p, p ∈ ((store.sessions.get t).bind (loadedAddress env)).toList ->
        p.2.addressProof p.1 = store.committed.addressProof p.1
  | _ => True

instance (env : AuthEnv) (store : Store AccountDatabase AccountRequest) :
    (label : AccountStoreLabel) -> Decidable (LoadedIsCurrent env store label)
  | StoreLabel.commit t => inferInstanceAs (Decidable (forall p,
      p ∈ ((store.sessions.get t).bind (loadedAddress env)).toList ->
        p.2.addressProof p.1 = store.committed.addressProof p.1))
  | StoreLabel.begin _ _ => isTrue trivial
  | StoreLabel.statement _ => isTrue trivial
  | StoreLabel.rollback _ => isTrue trivial
  | StoreLabel.outside _ => isTrue trivial

section

variable {env : AuthEnv} {db db' : AccountDatabase} {loaded : Account}

theorem LoadedIsCurrent.row {store : Store AccountDatabase AccountRequest} {t : Nat}
    (h : LoadedIsCurrent env store (StoreLabel.commit t))
    {s : Session AccountDatabase AccountRequest} (hget : store.sessions.get t = some s)
    (hrequest : s.request.addressUser env = some userId) {first : AccountDatabase}
    {rest : List AccountDatabase} (hseen : s.seen = first :: rest)
    (hloaded : first.users.get userId = some loaded) :
    exists account, store.committed.users.get userId = some account ∧
      loaded.SameAddress account := by
  have hmem : (userId, first) ∈ ((store.sessions.get t).bind (loadedAddress env)).toList := by
    rw [Option.mem_toList, hget]
    unfold loadedAddress
    rw [Option.bind_some, hrequest, hseen]
    rfl
  have hproof := h _ hmem
  unfold AccountDatabase.addressProof at hproof
  rw [hloaded] at hproof
  rcases Option.map_eq_some_iff.mp hproof.symm with ⟨account, haccount, hsame⟩
  exact ⟨account, haccount, (Prod.mk.inj hsame).1, (Prod.mk.inj hsame).2⟩

/-!
# One change of the rows
-/

variable {account : Account} {events : List AccountEvent}

theorem Account.SameAddress.address {account' : Account} (h : account.SameAddress account') :
    account'.address env = account.address env := by
  unfold Account.address
  rw [h.1]

/-- Every proved row was proved before, or is proved by the change itself. -/
theorem EmailProved.change (h : EmailProved env db)
    (hrows : forall userId account', db'.users.get userId = some account' ->
      account'.emailVerifiedAt ≠ none ->
      (exists account events, db.users.get userId = some account ∧
        account.emailVerifiedAt ≠ none ∧ account'.address env = account.address env ∧
        db'.history = db.history ++ events ∧
        AccountEvent.addressChanged userId ∉ events) ∨
      exists email, account'.address env = some email ∧
        db'.history = db.history ++ [AccountEvent.challengeConsumed userId email]) :
    EmailProved env db' := by
  intro userId account' hget' hverified'
  rcases hrows userId account' hget' hverified' with
    ⟨account, events, hget, hverified, haddress, hhistory, hnone⟩ | ⟨email, haddress, hhistory⟩
  · rcases h userId account hget hverified with ⟨before, email, after, hsplit, hemail, hafter⟩
    refine ⟨before, email, after ++ events, ?_, haddress.trans hemail, ?_⟩
    · rw [hhistory, hsplit, List.append_assoc, List.cons_append]
    · intro hmem
      rcases List.mem_append.mp hmem with hmem | hmem
      · exact hafter hmem
      · exact hnone hmem
  · exact ⟨db.history, email, [], hhistory, haddress, List.not_mem_nil⟩

/-- A change that keeps the addresses. -/
theorem EmailProved.keep (h : EmailProved env db)
    (hrows : forall userId account', db'.users.get userId = some account' ->
      account'.emailVerifiedAt = none ∨
        exists account, db.users.get userId = some account ∧ account.SameAddress account')
    (hhistory : db'.history = db.history ++ events)
    (hevents : forall userId, AccountEvent.addressChanged userId ∉ events) :
    EmailProved env db' := by
  refine h.change ?_
  intro userId account' hget' hverified'
  rcases hrows userId account' hget' with hnone | ⟨account, hget, hsame⟩
  · exact absurd hnone hverified'
  · rw [hsame.2] at hverified'
    exact Or.inl ⟨account, events, hget, hverified', hsame.address, hhistory, hevents userId⟩

theorem EmailProved.of_users (h : EmailProved env db) (husers : db'.users = db.users)
    (hhistory : db'.history = db.history ++ events)
    (hevents : forall userId, AccountEvent.addressChanged userId ∉ events) :
    EmailProved env db' := by
  refine h.keep ?_ hhistory hevents
  intro userId account' hget'
  rw [husers] at hget'
  exact Or.inr ⟨account', hget', rfl, rfl⟩

/-!
# Patches
-/

/-- A patch that keeps the normalized address is not recorded. -/
theorem patchAccount_history_eq (hget : db.users.get userId = some account)
    (haddress : (patch.apply account).address env = account.address env) :
    (db.patchAccount env userId patch).history = db.history := by
  unfold AccountDatabase.patchAccount
  rw [hget]
  simp only [haddress, if_true]

theorem patchAccount_missing
    (hget : db.users.get userId = none) : db.patchAccount env userId patch = db := by
  unfold AccountDatabase.patchAccount
  rw [hget]

/-- The rows of other users, and the row of the user. -/
theorem patchAccount_get {userId id : Uuid} {account' : Account}
    (hget : (db.patchAccount env userId patch).users.get id = some account') :
    (id ≠ userId ∧ db.users.get id = some account') ∨
      id = userId ∧ exists account, db.users.get userId = some account ∧
        account' = patch.apply account := by
  rw [patchAccount_users] at hget
  split at hget
  · rename_i hid
    rcases Option.map_eq_some_iff.mp hget with ⟨account, haccount, happly⟩
    exact Or.inr ⟨hid, account, haccount, happly.symm⟩
  · rename_i hid
    exact Or.inl ⟨hid, hget⟩

theorem EmailProved.patch_keeping (h : EmailProved env db) (hpatch : patch.KeepsAddress)
    (husers : db'.users = (db.patchAccount env userId patch).users)
    (hhistory : db'.history = (db.patchAccount env userId patch).history ++ events)
    (hevents : forall userId, AccountEvent.addressChanged userId ∉ events) :
    EmailProved env db' := by
  have hsame : (db.patchAccount env userId patch).history = db.history := by
    cases hget : db.users.get userId with
    | none => rw [patchAccount_missing hget]
    | some account => exact patchAccount_history_eq hget (sameAddress_apply hpatch account).address
  rw [hsame] at hhistory
  refine h.keep ?_ hhistory hevents
  intro id account' hget'
  rw [husers] at hget'
  rcases patchAccount_get hget' with ⟨_, hget⟩ | ⟨hid, account, hget, happly⟩
  · exact Or.inr ⟨account', hget, rfl, rfl⟩
  · rw [hid, happly]
    exact Or.inr ⟨account, hget, sameAddress_apply hpatch account⟩

/-- An address change by `update_me` over a row that is still the loaded one. -/
theorem EmailProved.patch_setting (h : EmailProved env db)
    (hnormal : forall text, env.normalizeEmail (env.normalizeEmail text) = env.normalizeEmail text)
    (hpatch : patch.SetsAddress env loaded) (hget : db.users.get userId = some account)
    (hcurrent : loaded.SameAddress account)
    (husers : db'.users = (db.patchAccount env userId patch).users)
    (hhistory : db'.history = (db.patchAccount env userId patch).history) :
    EmailProved env db' := by
  rcases hpatch with ⟨email, hemail, hverified⟩
  have hnewEmail : (patch.apply account).email = email.map env.normalizeEmail := by
    show patch.email.getD account.email = _
    rw [hemail, hcurrent.1, changed_getD]
  refine h.change ?_
  intro id row' hrow' hproved
  rw [husers] at hrow'
  by_cases hsame : email.map env.normalizeEmail = loaded.address env
  · -- The same address in another spelling: nothing about it changes.
    have haddress : (patch.apply account).address env = account.address env := by
      rw [hcurrent.address, ← hsame]
      unfold Account.address
      rw [hnewEmail, Option.map_map]
      congr 1
      funext text
      exact hnormal text
    rw [if_pos hsame] at hverified
    have hkept : db'.history = db.history ++ [] := by
      rw [hhistory, patchAccount_history_eq hget haddress, List.append_nil]
    rcases patchAccount_get hrow' with ⟨_, hrow⟩ | ⟨hid, row, hrow, happly⟩
    · exact Or.inl ⟨row', [], hrow, hproved, rfl, hkept, List.not_mem_nil⟩
    · cases hget.symm.trans hrow
      rw [happly] at hproved
      change patch.emailVerifiedAt.getD account.emailVerifiedAt ≠ none at hproved
      rw [hverified] at hproved
      rw [hid, happly]
      exact Or.inl ⟨account, [], hget, hproved, haddress, hkept, List.not_mem_nil⟩
  · -- Another address: the row of the user has lost its proof.
    rw [if_neg hsame] at hverified
    rcases patchAccount_get hrow' with ⟨hid, hrow⟩ | ⟨_, row, hrow, happly⟩
    · rcases patchAccount_history userId patch with hkept | hrecorded
      · refine Or.inl ⟨row', [], hrow, hproved, rfl, ?_, List.not_mem_nil⟩
        rw [hhistory, hkept, List.append_nil]
      · refine Or.inl ⟨row', _, hrow, hproved, rfl, hhistory.trans hrecorded, ?_⟩
        intro hmem
        cases List.mem_singleton.mp hmem
        exact hid rfl
    · cases hget.symm.trans hrow
      rw [happly] at hproved
      change patch.emailVerifiedAt.getD account.emailVerifiedAt ≠ none at hproved
      rw [hverified, hcurrent.2, changed_getD] at hproved
      exact absurd rfl hproved

/-- A consumed challenge over a row that is still the loaded one. -/
theorem EmailProved.patch_proving (h : EmailProved env db) {email : String}
    (haddress : loaded.address env = some email) (hpatch : patch.email = none)
    (hget : db.users.get userId = some account) (hcurrent : loaded.SameAddress account)
    (husers : db'.users = (db.patchAccount env userId patch).users)
    (hhistory : db'.history = (db.patchAccount env userId patch).history ++
      [AccountEvent.challengeConsumed userId email]) : EmailProved env db' := by
  have hkept : (patch.apply account).address env = account.address env := by
    unfold Account.address AccountPatch.apply
    rw [hpatch]
    rfl
  rw [patchAccount_history_eq hget hkept] at hhistory
  refine h.change ?_
  intro id row' hrow' hproved
  rw [husers] at hrow'
  rcases patchAccount_get hrow' with ⟨_, hrow⟩ | ⟨hid, row, hrow, happly⟩
  · refine Or.inl ⟨row', _, hrow, hproved, rfl, hhistory, ?_⟩
    intro hmem
    cases List.mem_singleton.mp hmem
  · cases hget.symm.trans hrow
    refine Or.inr ⟨email, ?_, ?_⟩
    · rw [happly, hkept, hcurrent.address, haddress]
    · rw [hid, hhistory]

/-!
# Commits
-/

theorem causeEvents_keepAddress (cause : RevocationCause) (sessionId userId : Uuid) :
    AccountEvent.addressChanged userId ∉ cause.events sessionId := by
  intro hmem
  cases cause with
  | requested | accountInactive => cases hmem
  | logout | replay => cases List.mem_singleton.mp hmem

theorem EmailProved.commit
    (hnormal : forall text, env.normalizeEmail (env.normalizeEmail text) = env.normalizeEmail text)
    (h : EmailProved env db) {request : AccountRequest} {trace : AccountTrace}
    {r : AccountResult} (heffect : AccountEffect env request trace r)
    (hcurrent : forall userId first rest loaded, request.addressUser env = some userId ->
      trace = (none, first) :: rest -> first.users.get userId = some loaded ->
      exists account, db.users.get userId = some account ∧ loaded.SameAddress account)
    (hcommit : r.commit env db = some db') : EmailProved env db' := by
  have hsingle : forall event : AccountEvent, (forall id, event ≠ AccountEvent.addressChanged id) ->
      forall id, AccountEvent.addressChanged id ∉ [event] := by
    intro event hne id hmem
    exact hne id (List.mem_singleton.mp hmem).symm
  have hempty : forall id, AccountEvent.addressChanged id ∉ ([] : List AccountEvent) := by
    intro id
    exact List.not_mem_nil
  cases heffect with
  | unchanged =>
      cases hcommit
      exact h
  | loggedIn hrequest htrace hresult hopen hhash hexpires =>
      rcases Option.ite_none_right_eq_some.mp hcommit with ⟨_, hcommit⟩
      cases hcommit
      exact h.of_users rfl rfl (hsingle _ nofun)
  | refreshed hlocked hsession hopen hhash hexpires =>
      cases hcommit
      exact h.of_users rfl rfl (hsingle _ nofun)
  | @sessionRevoked _ sessionId _ cause hlocked hlogout hreplay =>
      cases hcommit
      exact h.of_users rfl rfl (causeEvents_keepAddress cause sessionId)
  | sessionsRevoked huser hpatch hsnapshot hupdated hall =>
      cases hcommit
      exact h.patch_keeping hpatch rfl rfl (hsingle _ nofun)
  | accountChanged hpatch =>
      cases commit_accountChanged hcommit
      exact h.patch_keeping hpatch rfl (List.append_nil _).symm hempty
  | addressChanged hrequest htrace hloaded hlocked hpatch =>
      cases commit_accountChanged hcommit
      rcases hcurrent _ _ _ _ hrequest htrace hloaded with ⟨account, hget, hsame⟩
      exact h.patch_setting hnormal hpatch hget hsame rfl rfl
  | challengeCreated =>
      rcases commit_challengeCreated hcommit with ⟨rows, heq⟩
      subst heq
      exact h.of_users rfl (List.append_nil _).symm hempty
  | challengeRevoked =>
      cases hcommit
      exact h.of_users rfl (List.append_nil _).symm hempty
  | challengeConsumed hrequest htrace hloaded hlocked haddress hpatch =>
      cases hcommit
      rcases hcurrent _ _ _ _ hrequest htrace hloaded with ⟨account, hget, hsame⟩
      exact h.patch_proving haddress hpatch hget hsame rfl rfl

/-- A registration makes an account without a proof. -/
theorem EmailProved.outside (h : EmailProved env db) {action : AccountAction}
    (hrun : action.run env db = some db') : EmailProved env db' := by
  rcases AccountAction.keeps hrun with ⟨_, hhistory, _⟩
  refine h.keep ?_ (hhistory.trans (List.append_nil _).symm) (fun _ => List.not_mem_nil)
  intro userId account' hget'
  cases action with
  | register newId username email passwordHash =>
      rcases Option.ite_none_left_eq_some.mp hrun with ⟨_, hrun⟩
      cases hrun
      rcases Table.get_set_some_cases hget' with ⟨_, rfl⟩ | ⟨_, hget'⟩
      · exact Or.inl rfl
      · exact Or.inr ⟨account', hget', rfl, rfl⟩
  | setSuperadmin target isSuperadmin =>
      cases hrun
      rw [Table.get_update] at hget'
      split at hget'
      · rename_i heq
        rcases Option.map_eq_some_iff.mp hget' with ⟨account, hget, happly⟩
        rw [heq, ← happly]
        exact Or.inr ⟨account, hget, rfl, rfl⟩
      · exact Or.inr ⟨account', hget', rfl, rfl⟩

end

/-!
# Addresses and their proofs
-/

/--
In a run in which every `update_me` with an address and every `confirm` commits over the address
and the proof it has loaded, a verified address is one that the user has proved since it last
changed.  `lower` and `strip` of Python do nothing when they are applied again.
-/
theorem verified_email_is_proved (env : AuthEnv)
    (hnormal : forall text, env.normalizeEmail (env.normalizeEmail text) = env.normalizeEmail text)
    {store : Store AccountDatabase AccountRequest}
    (h : ((accountWorkload env).system.restrict (LoadedIsCurrent env)).Reachable store) :
    EmailProved env store.committed := by
  refine Workload.restricted_invariant (accountGuarantee env) ?_ ?_ ?_ h
  · intro db hstart userId account hget
    change db = AccountDatabase.empty at hstart
    rw [hstart] at hget
    cases hget
  · intro action db db' hproved hrun
    exact hproved.outside hrun
  · intro store t s r db' hcurrent hproved hget _ hreturns hcommit
    rcases hreturns.exists_ends with ⟨trace, hends, hseen⟩
    refine hproved.commit hnormal (AccountRequest.effect hends) ?_ hcommit
    intro userId first rest loaded hrequest htrace hloaded
    rw [htrace] at hseen
    exact hcurrent.row hget hrequest hseen.symm hloaded

def verificationAccess : AccessCall where
  token := "access"
  decodedAt := 604800000001
  now := 604800000001

/-- The user asks for a challenge for the address `a`. -/
def challengeRun : List AccountStoreLabel :=
  [StoreLabel.outside (AccountAction.register 1 "ann" (some "a") "secret"),
    StoreLabel.begin 0 (AccountRequest.login (sampleLogin 10 "first")),
    StoreLabel.statement 0,
    StoreLabel.commit 0,
    StoreLabel.begin 1 (AccountRequest.requestVerification
      { access := verificationAccess
        now := 604800000001
        challengeId := 20
        rawToken := "proof"
        deleteOrder := []
        order := [] }),
    StoreLabel.statement 1,
    StoreLabel.statement 1,
    StoreLabel.statement 1,
    StoreLabel.statement 1,
    StoreLabel.commit 1]

def sampleConfirm : AccountRequest :=
  AccountRequest.confirm
    { access := verificationAccess
      rawToken := "proof"
      now := 604800000002
      order := [] }

/-- The challenge for `a` is consumed while a change to `b` waits for the row. -/
def outlivingRun : List AccountStoreLabel :=
  challengeRun ++
    [StoreLabel.begin 2 (AccountRequest.updateMe
        { access := verificationAccess
          payload := ⟨some (some "b"), none, none, none, none⟩
          uploadChecks := Except.ok ()
          now := 604800000003
          order := [] }),
      StoreLabel.statement 2,
      StoreLabel.begin 3 sampleConfirm,
      StoreLabel.statement 3,
      StoreLabel.statement 3,
      StoreLabel.statement 3,
      StoreLabel.statement 3,
      StoreLabel.statement 3,
      StoreLabel.statement 3,
      StoreLabel.commit 3,
      StoreLabel.statement 2,
      StoreLabel.statement 2,
      StoreLabel.commit 2]

/-- The address is `b` then, and it is still verified. -/
theorem proof_outlives_address :
    exists store : Store AccountDatabase AccountRequest,
      (accountWorkload sampleAuthEnv).system.Reachable store ∧
      ¬EmailProved sampleAuthEnv store.committed := by
  have hrun : (outlivingRun.foldlM (accountWorkload sampleAuthEnv).next
      ⟨AccountDatabase.empty, Table.empty⟩).map (fun store => (store.committed.history,
        store.committed.addressProof 1))
      = some ([AccountEvent.opened 10 1 "first" 0, AccountEvent.challengeConsumed 1 "a",
        AccountEvent.addressChanged 1],
          some (some "b", some ⟨604800000002, by decide⟩)) := by
    decide +kernel
  rcases Workload.exists_reachable_of_run hrun rfl with ⟨store, hreach, hview⟩
  rcases Prod.mk.inj hview with ⟨hhistory, hrow⟩
  rcases Option.map_eq_some_iff.mp hrow with ⟨account, hget, hproof⟩
  rcases Prod.mk.inj hproof with ⟨hemail, hverified⟩
  refine ⟨store, hreach, ?_⟩
  intro hproved
  rcases hproved 1 account hget (by rw [hverified]; exact Option.some_ne_none _) with
    ⟨before, email, after, hsplit, haddress, _⟩
  have hconsumed : AccountEvent.challengeConsumed 1 email ∈ store.committed.history := by
    rw [hsplit]
    exact List.mem_append_right _ List.mem_cons_self
  rw [hhistory] at hconsumed
  unfold Account.address at haddress
  rw [hemail] at haddress
  have hb : email = "b" := (Option.some.inj haddress).symm.trans (by decide +kernel)
  rw [hb] at hconsumed
  simp at hconsumed

/-- The challenge is consumed while no other request is in progress. -/
def provedRun : List AccountStoreLabel :=
  challengeRun ++
    [StoreLabel.begin 3 sampleConfirm,
      StoreLabel.statement 3,
      StoreLabel.statement 3,
      StoreLabel.statement 3,
      StoreLabel.statement 3,
      StoreLabel.statement 3,
      StoreLabel.statement 3,
      StoreLabel.commit 3]

theorem normalizeEmail_sample (text : String) :
    sampleAuthEnv.normalizeEmail (sampleAuthEnv.normalizeEmail text)
      = sampleAuthEnv.normalizeEmail text :=
  strip_strip text

theorem provedRun_is_proved :
    exists store : Store AccountDatabase AccountRequest,
      ((accountWorkload sampleAuthEnv).system.restrict
        (LoadedIsCurrent sampleAuthEnv)).Reachable store ∧
      store.committed.addressProof 1 = some (some "a", some ⟨604800000002, by decide⟩) ∧
      EmailProved sampleAuthEnv store.committed := by
  have hrun : (provedRun.foldlM
      (System.guarded (LoadedIsCurrent sampleAuthEnv) (accountWorkload sampleAuthEnv).next)
      ⟨AccountDatabase.empty, Table.empty⟩).map (fun store => store.committed.addressProof 1)
      = some (some (some "a", some ⟨604800000002, by decide⟩)) := by
    decide +kernel
  rcases Workload.exists_reachable_of_guarded hrun rfl with ⟨store, hreach, hproof⟩
  exact ⟨store, hreach, hproof,
    verified_email_is_proved sampleAuthEnv normalizeEmail_sample hreach⟩

end MessagingSystem
