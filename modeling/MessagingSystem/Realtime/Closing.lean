import MessagingSystem.Realtime.AuthControl
import MessagingSystem.Auth.RefreshFamily

/-!
# Revocations and open handshakes

A dispatch finds the sockets that are registered when it looks.  So it misses a
handshake that has passed the session check and is not registered yet.  It skips a socket that
is marked as closing, and a mark can outlive its socket: the `except` branch of `connect` keeps
it, and a dispatch also marks sockets that have disconnected since it looked.  When there is no
such handshake at the time a dispatch looks and no new socket gets the id of a marked one, every
socket of a revoked session is closed in the end.
-/

namespace MessagingSystem

open Foundation

variable {w : Nat} {handshake : Handshake} {phase : HandshakePhase}
  {handshakes : Table Nat Handshake} {event : AuthControlEvent}
variable {P : Handshake -> Uuid -> Prop}
variable {connections : List (Uuid × Nat)}

/-- The event is about the session or the user of the handshake. -/
def AuthControlEvent.Concerns (event : AuthControlEvent) (handshake : Handshake) : Prop :=
  match event with
  | session sessionId _ => handshake.sessionId = sessionId
  | user userId _ => handshake.userId = userId

instance (handshake : Handshake) :
    (event : AuthControlEvent) -> Decidable (event.Concerns handshake)
  | AuthControlEvent.session sessionId _ =>
      inferInstanceAs (Decidable (handshake.sessionId = sessionId))
  | AuthControlEvent.user userId _ => inferInstanceAs (Decidable (handshake.userId = userId))

/-- A socket in this phase is registered where the event looks. -/
def AuthControlEvent.finds : AuthControlEvent -> HandshakePhase -> Bool
  | session _ _, phase => phase == HandshakePhase.connected
  | user _ _, phase => phase.hasSlot

/--
A dispatch looks when no handshake it is about is between check and registration, and a socket
does not get the id of one that is still marked as closing.
-/
def RevocationsReach (s : GatewayState) : GatewayLabel -> Prop
  | GatewayLabel.consumeTicket w _ _ _ => w ∉ s.closingSockets
  | GatewayLabel.lookUp i =>
      forall dispatch, dispatch ∈ s.dispatches[i]?.toList ->
        forall p, p ∈ s.handshakes.rows -> dispatch.event.Concerns p.2 ->
          p.2.phase.isPassed = true -> dispatch.event.finds p.2.phase = true
  | _ => True

instance (s : GatewayState) : (label : GatewayLabel) -> Decidable (RevocationsReach s label)
  | GatewayLabel.lookUp i => inferInstanceAs (Decidable (forall dispatch,
      dispatch ∈ s.dispatches[i]?.toList -> forall p, p ∈ s.handshakes.rows ->
        dispatch.event.Concerns p.2 -> p.2.phase.isPassed = true ->
          dispatch.event.finds p.2.phase = true))
  | GatewayLabel.account _ => isTrue trivial
  | GatewayLabel.receive _ => isTrue trivial
  | GatewayLabel.consumeTicket w _ _ _ => inferInstanceAs (Decidable (w ∉ s.closingSockets))
  | GatewayLabel.checkSession _ _ => isTrue trivial
  | GatewayLabel.reserve _ => isTrue trivial
  | GatewayLabel.accept _ => isTrue trivial
  | GatewayLabel.abandon _ => isTrue trivial
  | GatewayLabel.register _ => isTrue trivial
  | GatewayLabel.expire _ => isTrue trivial
  | GatewayLabel.disconnect _ => isTrue trivial
  | GatewayLabel.closeNext _ => isTrue trivial

/-!
# What a step does
-/

inductive GatewayStep (env : AuthEnv) (s : GatewayState) :
    GatewayLabel -> GatewayState -> Prop where
  | account {label : AccountStoreLabel} {accounts : Store AccountDatabase AccountRequest}
      {added : List Dispatch}
      (hnext : (accountWorkload env).next s.accounts label = some accounts)
      (hadded : forall dispatch, dispatch ∈ added ->
        dispatch.rows = accounts.committed ∧ dispatch.waiting = none) :
      GatewayStep env s (GatewayLabel.account label)
        { s with accounts := accounts, dispatches := s.dispatches ++ added }
  | receive (event : AuthControlEvent) :
      GatewayStep env s (GatewayLabel.receive event)
        { s with dispatches := s.dispatches ++ [⟨event, AccountDatabase.empty, none⟩] }
  | consumeTicket {w : Nat} {userId sessionId : Uuid} {expiresAt : Instant}
      (hended : forall old, s.handshakes.get w = some old -> old.phase = HandshakePhase.ended) :
      GatewayStep env s (GatewayLabel.consumeTicket w userId sessionId expiresAt)
        { s with
          handshakes := s.handshakes.set w
            (some ⟨userId, sessionId, expiresAt, HandshakePhase.ticketed⟩)
          closed := s.closed.filter (fun close => close.socket != w) }
  | pass {w : Nat} {now : Instant} {handshake : Handshake} {auth : AccessContext}
      (hget : s.handshakes.get w = some handshake)
      (hphase : handshake.phase = HandshakePhase.ticketed)
      (hcheck : checkSessionAccess s.accounts.committed handshake.userId handshake.sessionId
        handshake.authenticationExpiresAt now = Except.ok auth) :
      GatewayStep env s (GatewayLabel.checkSession w now)
        (s.setPhase w handshake HandshakePhase.checked)
  | refuse {w code : Nat} {reason : String} {label : GatewayLabel} {handshake : Handshake}
      (hget : s.handshakes.get w = some handshake)
      (hphase : handshake.phase.hasSlot = false) :
      GatewayStep env s label ((s.setPhase w handshake HandshakePhase.ended).close w code reason)
  | reserve {w : Nat} {handshake : Handshake} (hget : s.handshakes.get w = some handshake)
      (hphase : handshake.phase = HandshakePhase.checked) :
      GatewayStep env s (GatewayLabel.reserve w)
        { s.setPhase w handshake HandshakePhase.reserved with
          connections := s.connections ++ [(handshake.userId, w)] }
  | accept {w : Nat} {handshake : Handshake} (hget : s.handshakes.get w = some handshake)
      (hphase : handshake.phase = HandshakePhase.reserved) :
      GatewayStep env s (GatewayLabel.accept w)
        (s.setPhase w handshake HandshakePhase.accepted)
  | abandon {w : Nat} {label : GatewayLabel} {handshake : Handshake}
      (hget : s.handshakes.get w = some handshake)
      (hphase : handshake.phase ≠ HandshakePhase.connected) :
      GatewayStep env s label (s.abandon w handshake)
  | register {w : Nat} {handshake : Handshake} (hget : s.handshakes.get w = some handshake)
      (hphase : handshake.phase = HandshakePhase.accepted) :
      GatewayStep env s (GatewayLabel.register w) (s.register w handshake)
  | expire {w code : Nat} {reason : String} :
      GatewayStep env s (GatewayLabel.expire w) (s.close w code reason)
  | disconnect {w : Nat} {handshake : Handshake} (hget : s.handshakes.get w = some handshake) :
      GatewayStep env s (GatewayLabel.disconnect w) (s.disconnect w handshake)
  | lookUp {i : Nat} {dispatch : Dispatch} (hget : s.dispatches[i]? = some dispatch) :
      GatewayStep env s (GatewayLabel.lookUp i)
        (s.setDispatch i { dispatch with waiting := some (s.lookUp dispatch.event) })
  | closeNext {i w : Nat} {rest : List Nat} {dispatch : Dispatch}
      (hget : s.dispatches[i]? = some dispatch) (hwaiting : dispatch.waiting = some (w :: rest)) :
      GatewayStep env s (GatewayLabel.closeNext i)
        ((s.closeOne w dispatch.event).setDispatch i { dispatch with waiting := some rest })

section

variable {env : AuthEnv} {quota : Nat} {s s' : GatewayState} {rows : AccountDatabase}
  {label : GatewayLabel}

theorem inPhase_eq_some
    (h : s.inPhase w phase = some handshake) :
    s.handshakes.get w = some handshake ∧ handshake.phase = phase := by
  unfold GatewayState.inPhase at h
  rcases Option.filter_eq_some_iff.mp h with ⟨hget, hphase⟩
  exact ⟨hget, beq_iff_eq.mp hphase⟩

theorem announced_waiting {label : AccountStoreLabel} :
    forall dispatch, dispatch ∈ s.announced env rows label ->
      dispatch.rows = rows ∧ dispatch.waiting = none := by
  intro dispatch hmem
  cases label with
  | commit t =>
      simp only [GatewayState.announced] at hmem
      split at hmem
      · cases hmem
      · split at hmem
        · cases hmem
        · rcases List.mem_map.mp hmem with ⟨event, _, heq⟩
          rw [← heq]
          exact ⟨rfl, rfl⟩
  | begin | statement | rollback | outside => cases hmem

theorem gatewayStep_of_next (h : s.next env quota label = some s') :
    GatewayStep env s label s' := by
  cases label with
  | account label =>
      rcases Option.map_eq_some_iff.mp h with ⟨accounts, hnext, hs⟩
      rw [← hs]
      exact GatewayStep.account hnext announced_waiting
  | receive event =>
      cases h
      exact GatewayStep.receive event
  | consumeTicket w userId sessionId expiresAt =>
      simp only [GatewayState.next] at h
      split at h
      · rename_i hfree
        cases h
        refine GatewayStep.consumeTicket ?_
        intro old hget
        have hended := ((Bool.and_eq_true _ _).mp hfree).1
        rw [hget] at hended
        exact beq_iff_eq.mp hended
      · cases h
  | checkSession w now =>
      rcases Option.bind_eq_some_iff.mp h with ⟨handshake, hphase, hs⟩
      rcases inPhase_eq_some hphase with ⟨hget, hphase⟩
      cases hs
      unfold GatewayState.checkSession
      split
      · rename_i auth hcheck
        exact GatewayStep.pass hget hphase hcheck
      · exact GatewayStep.refuse hget (by rw [hphase]; rfl)
  | reserve w =>
      rcases Option.bind_eq_some_iff.mp h with ⟨handshake, hphase, hs⟩
      rcases inPhase_eq_some hphase with ⟨hget, hphase⟩
      cases hs
      unfold GatewayState.reserve
      split
      · exact GatewayStep.refuse hget (by rw [hphase]; rfl)
      · exact GatewayStep.reserve hget hphase
  | accept w =>
      rcases Option.bind_eq_some_iff.mp h with ⟨handshake, hphase, hs⟩
      rcases inPhase_eq_some hphase with ⟨hget, hphase⟩
      cases hs
      split
      · exact GatewayStep.abandon hget (by rw [hphase]; nofun)
      · exact GatewayStep.accept hget hphase
  | abandon w =>
      rcases Option.bind_eq_some_iff.mp h with ⟨handshake, hphase, hs⟩
      cases hs
      rcases Option.or_eq_some_iff.mp hphase with hphase | ⟨_, hphase⟩
      · rcases inPhase_eq_some hphase with ⟨hget, hphase⟩
        exact GatewayStep.abandon hget (by rw [hphase]; nofun)
      · rcases inPhase_eq_some hphase with ⟨hget, hphase⟩
        exact GatewayStep.abandon hget (by rw [hphase]; nofun)
  | register w =>
      rcases Option.bind_eq_some_iff.mp h with ⟨handshake, hphase, hs⟩
      rcases inPhase_eq_some hphase with ⟨hget, hphase⟩
      cases hs
      exact GatewayStep.register hget hphase
  | expire w =>
      rcases Option.bind_eq_some_iff.mp h with ⟨handshake, hphase, hs⟩
      cases hs
      exact GatewayStep.expire
  | disconnect w =>
      rcases Option.bind_eq_some_iff.mp h with ⟨handshake, hphase, hs⟩
      cases hs
      exact GatewayStep.disconnect (inPhase_eq_some hphase).1
  | lookUp i =>
      rcases Option.bind_eq_some_iff.mp h with ⟨dispatch, hget, hs⟩
      split at hs
      · cases hs
        exact GatewayStep.lookUp hget
      · cases hs
  | closeNext i =>
      rcases Option.bind_eq_some_iff.mp h with ⟨dispatch, hget, hs⟩
      split at hs
      · rename_i w rest hwaiting
        cases hs
        exact GatewayStep.closeNext hget hwaiting
      · cases hs

/-!
# The dictionaries of the manager
-/

variable {new old : Handshake}

/-- The dictionary has exactly the sockets whose handshake satisfies the condition. -/
def Registers (handshakes : Table Nat Handshake) (P : Handshake -> Uuid -> Prop)
    (connections : List (Uuid × Nat)) : Prop :=
  forall key w, (key, w) ∈ connections ↔
    exists handshake, handshakes.get w = some handshake ∧ P handshake key

theorem Registers.set {connections connections' : List (Uuid × Nat)}
    (h : Registers handshakes P connections)
    (hself : forall key, (key, w) ∈ connections' ↔ P new key)
    (hothers : forall key w', w' ≠ w -> ((key, w') ∈ connections' ↔ (key, w') ∈ connections)) :
    Registers (handshakes.set w (some new)) P connections' := by
  intro key w'
  rw [Table.get_set]
  split
  · rename_i heq
    rw [heq, hself]
    constructor
    · intro hnew
      exact ⟨new, rfl, hnew⟩
    · rintro ⟨handshake, hget, hnew⟩
      cases hget
      exact hnew
  · rename_i hne
    rw [hothers key w' hne]
    exact h key w'

/-- The dictionary need not change when the handshake satisfies the condition as before. -/
theorem Registers.keep (h : Registers handshakes P connections)
    (hget : handshakes.get w = some old) (hsame : forall key, P old key ↔ P new key) :
    Registers (handshakes.set w (some new)) P connections := by
  refine h.set ?_ (fun _ _ _ => Iff.rfl)
  intro key
  rw [h key w, hget]
  simp [hsame]

theorem Registers.add (h : Registers handshakes P connections) {key : Uuid}
    (hget : handshakes.get w = some old) (hold : forall key, ¬P old key)
    (hnew : forall key', P new key' ↔ key' = key) :
    Registers (handshakes.set w (some new)) P (connections ++ [(key, w)]) := by
  refine h.set ?_ ?_
  · intro key'
    have hnot : (key', w) ∉ connections := by
      rw [h key' w, hget]
      simp [hold]
    simp [hnot, hnew]
  · intro key' w' hne
    simp [hne]

theorem Registers.remove (h : Registers handshakes P connections) {kept : Uuid × Nat -> Bool}
    (hget : handshakes.get w = some old) (hnew : forall key, ¬P new key)
    (hdropped : forall key, P old key -> kept (key, w) = false)
    (hkept : forall key w', w' ≠ w -> kept (key, w') = true) :
    Registers (handshakes.set w (some new)) P (connections.filter kept) := by
  refine h.set ?_ ?_
  · intro key
    rw [List.mem_filter, h key w, hget]
    constructor
    · rintro ⟨⟨handshake, hsome, hP⟩, hkeep⟩
      cases hsome
      rw [hdropped key hP] at hkeep
      cases hkeep
    · intro hP
      exact absurd hP (hnew key)
  · intro key w' hne
    rw [List.mem_filter, hkept key w' hne]
    simp

def SlotFor (handshake : Handshake) (userId : Uuid) : Prop :=
  handshake.userId = userId ∧ handshake.phase.hasSlot = true

def ConnectedFor (handshake : Handshake) (sessionId : Uuid) : Prop :=
  handshake.sessionId = sessionId ∧ handshake.phase = HandshakePhase.connected

theorem not_slotFor (h : handshake.phase.hasSlot = false) (key : Uuid) :
    ¬SlotFor handshake key := by
  rintro ⟨_, hslot⟩
  rw [h] at hslot
  cases hslot

theorem not_connectedFor (h : handshake.phase ≠ HandshakePhase.connected)
    (key : Uuid) : ¬ConnectedFor handshake key :=
  fun hconnected => h hconnected.2

structure DictionariesOk (s : GatewayState) : Prop where
  connections : Registers s.handshakes SlotFor s.connections
  sessionConnections : Registers s.handshakes ConnectedFor s.sessionConnections

/-- A change of phase that neither dictionary notices. -/
theorem DictionariesOk.setPhase (h : DictionariesOk s) (hget : s.handshakes.get w = some handshake)
    (hslot : handshake.phase.hasSlot = phase.hasSlot)
    (hold : handshake.phase ≠ HandshakePhase.connected)
    (hnew : phase ≠ HandshakePhase.connected) : DictionariesOk (s.setPhase w handshake phase) := by
  constructor
  · refine h.connections.keep hget ?_
    intro key
    unfold SlotFor
    rw [hslot]
  · refine h.sessionConnections.keep hget ?_
    intro key
    exact iff_of_false (not_connectedFor hold key) (not_connectedFor hnew key)

theorem hasSlot_ne_connected (h : phase.hasSlot = false) :
    phase ≠ HandshakePhase.connected := by
  intro heq
  rw [heq] at h
  cases h

theorem DictionariesOk.step (h : DictionariesOk s) (hstep : GatewayStep env s label s') :
    DictionariesOk s' := by
  cases hstep with
  | account | receive | expire | lookUp => exact ⟨h.connections, h.sessionConnections⟩
  | @consumeTicket w userId sessionId expiresAt hended =>
      constructor
      · refine h.connections.set ?_ (fun _ _ _ => Iff.rfl)
        intro key
        rw [h.connections key w]
        refine iff_of_false ?_ (not_slotFor rfl key)
        rintro ⟨old, hget, hslot⟩
        exact not_slotFor (by rw [hended old hget]; rfl) key hslot
      · refine h.sessionConnections.set ?_ (fun _ _ _ => Iff.rfl)
        intro key
        rw [h.sessionConnections key w]
        refine iff_of_false ?_ (not_connectedFor (by nofun) key)
        rintro ⟨old, hget, hconnected⟩
        exact not_connectedFor (by rw [hended old hget]; nofun) key hconnected
  | pass hget hphase hcheck =>
      exact h.setPhase hget (by rw [hphase]; rfl) (by rw [hphase]; nofun) (by nofun)
  | refuse hget hphase =>
      have hended : DictionariesOk (s.setPhase _ _ HandshakePhase.ended) :=
        h.setPhase hget hphase (hasSlot_ne_connected hphase) (by nofun)
      exact ⟨hended.connections, hended.sessionConnections⟩
  | @reserve w handshake hget hphase =>
      constructor
      · refine h.connections.add hget (not_slotFor (by rw [hphase]; rfl)) ?_
        intro key
        simp [SlotFor, HandshakePhase.hasSlot, eq_comm]
      · exact h.sessionConnections.keep hget (fun key => iff_of_false
          (not_connectedFor (by rw [hphase]; nofun) key) (not_connectedFor (by nofun) key))
  | accept hget hphase =>
      exact h.setPhase hget (by rw [hphase]; rfl) (by rw [hphase]; nofun) (by nofun)
  | @abandon w _ handshake hget hphase =>
      constructor
      · refine h.connections.remove hget (not_slotFor rfl) ?_ ?_
        · rintro key ⟨huser, _⟩
          simp [huser]
        · intro key w' hne
          simp [hne]
      · exact h.sessionConnections.keep hget (fun key => iff_of_false
          (not_connectedFor hphase key) (not_connectedFor (by nofun) key))
  | @register w handshake hget hphase =>
      constructor
      · refine h.connections.keep hget ?_
        intro key
        unfold SlotFor
        rw [hphase]
        rfl
      · refine h.sessionConnections.add hget (not_connectedFor (by rw [hphase]; nofun)) ?_
        intro key
        simp [ConnectedFor, eq_comm]
  | @disconnect w handshake hget =>
      constructor
      · refine h.connections.remove hget (not_slotFor rfl) ?_ ?_
        · intro key _
          simp
        · intro key w' hne
          simp [hne]
      · refine h.sessionConnections.remove hget (not_connectedFor (by nofun)) ?_ ?_
        · rintro key ⟨hsession, _⟩
          simp [hsession]
        · intro key w' hne
          simp [hne]
  | @closeNext i w rest dispatch hget hwaiting =>
      unfold GatewayState.closeOne
      split
      · exact ⟨h.connections, h.sessionConnections⟩
      · exact ⟨h.connections, h.sessionConnections⟩

/-!
# What is known in every state
-/

variable {dispatch : Dispatch}

/-- A dispatch that has looked will close, or has closed, the sockets of its sessions. -/
def Served (s : GatewayState) (dispatch : Dispatch) : Prop :=
  forall queue, dispatch.waiting = some queue ->
    forall w handshake, s.handshakes.get w = some handshake ->
      handshake.phase.isPassed = true ->
      dispatch.event.Covers dispatch.rows handshake.sessionId ->
      dispatch.event.finds handshake.phase = true ∧ (s.isClosed w = true ∨ w ∈ queue)

/-- Closing more sockets serves no dispatch worse. -/
theorem Served.closed {s s' : GatewayState} (h : Served s dispatch)
    (hhandshakes : s'.handshakes = s.handshakes)
    (hclosed : forall v, s.isClosed v = true -> s'.isClosed v = true) : Served s' dispatch := by
  intro queue hwaiting v handshake hget hpassed hcovers
  rw [hhandshakes] at hget
  rcases h queue hwaiting v handshake hget hpassed hcovers with ⟨hfound, hdone⟩
  exact ⟨hfound, hdone.imp_left (hclosed v)⟩

structure GatewayOk (env : AuthEnv) (s : GatewayState) : Prop where
  accounts : (accountWorkload env).system.Reachable s.accounts
  dictionaries : DictionariesOk s
  grown : forall dispatch, dispatch ∈ s.dispatches ->
    SessionsGrow dispatch.rows s.accounts.committed
  /-- The session of a checked handshake exists and belongs to its user. -/
  passed : forall w handshake, s.handshakes.get w = some handshake ->
    handshake.phase.isPassed = true ->
    exists session, s.accounts.committed.sessions.get handshake.sessionId = some session ∧
      session.userId = handshake.userId
  closing : forall w, w ∈ s.closingSockets -> s.isClosed w = true
  served : forall dispatch, dispatch ∈ s.dispatches -> Served s dispatch

theorem isClosed_close {v code : Nat} {reason : String} (h : s.isClosed v = true) :
    (s.close w code reason).isClosed v = true := by
  show (s.closed ++ [_]).any _ = true
  rw [List.any_append, Bool.or_eq_true]
  exact Or.inl h

theorem isClosed_close_self (w code : Nat) (reason : String) :
    (s.close w code reason).isClosed w = true := by
  show (s.closed ++ [_]).any _ = true
  simp

theorem AuthControlEvent.Covers.grow {rows' : AccountDatabase} {sessionId : Uuid}
    (h : event.Covers rows sessionId) (hgrow : SessionsGrow rows rows') :
    event.Covers rows' sessionId := by
  rcases h with ⟨session, hget, hrevoked, habout⟩
  rcases hgrow.2 sessionId session hget with ⟨session', hget', hlater⟩
  refine ⟨session', hget', hlater.revoked hrevoked, ?_⟩
  cases event with
  | session id reason => exact habout
  | user userId reason => exact hlater.userId.trans habout

/-- An event is about the handshakes of the sessions it covers. -/
theorem GatewayOk.concerns (h : GatewayOk env s) (hmem : dispatch ∈ s.dispatches)
    (hget : s.handshakes.get w = some handshake) (hpassed : handshake.phase.isPassed = true)
    (hcovers : dispatch.event.Covers dispatch.rows handshake.sessionId) :
    dispatch.event.Concerns handshake := by
  rcases hcovers.grow (h.grown dispatch hmem) with ⟨session, hsession, _, habout⟩
  rcases h.passed w handshake hget hpassed with ⟨session', hsession', huser⟩
  cases hsession.symm.trans hsession'
  unfold AuthControlEvent.Concerns
  cases hevent : dispatch.event with
  | session id reason =>
      rw [hevent] at habout
      exact habout
  | user userId reason =>
      rw [hevent] at habout
      exact huser.symm.trans habout

/-- A session that has just passed the check is not revoked. -/
theorem not_covers_of_check {userId sessionId : Uuid} {expiresAt now : Instant}
    {auth : AccessContext}
    (hcheck : checkSessionAccess rows userId sessionId expiresAt now = Except.ok auth) :
    ¬event.Covers rows sessionId := by
  rintro ⟨session, hget, hrevoked, _⟩
  rcases checkSessionAccess_eq_ok hcheck with ⟨_, _, hsession, _, hopen⟩
  cases hget.symm.trans hsession
  rw [hopen] at hrevoked
  cases hrevoked

/-!
# Steps
-/

variable {i : Nat}

/-- A handshake goes on, and a dispatch that would have found it still does. -/
theorem GatewayOk.move (h : GatewayOk env s) (hget : s.handshakes.get w = some handshake)
    (hdictionaries : DictionariesOk s') (haccounts : s'.accounts = s.accounts)
    (hdispatches : s'.dispatches = s.dispatches)
    (hhandshakes : s'.handshakes = s.handshakes.set w (some { handshake with phase := phase }))
    (hclosing : forall v, v ∈ s'.closingSockets -> v ∈ s.closingSockets)
    (hclosed : forall v, s.isClosed v = true -> s'.isClosed v = true)
    (hphase : phase.isPassed = true -> handshake.phase.isPassed = true ∧
      forall event : AuthControlEvent, event.finds handshake.phase = true ->
        event.finds phase = true) : GatewayOk env s' := by
  have hrows : forall v row, s'.handshakes.get v = some row -> row.phase.isPassed = true ->
      exists old, s.handshakes.get v = some old ∧ old.phase.isPassed = true ∧
        row.userId = old.userId ∧ row.sessionId = old.sessionId ∧
        forall event : AuthControlEvent, event.finds old.phase = true ->
          event.finds row.phase = true := by
    intro v row hrow hpassed
    rw [hhandshakes] at hrow
    rcases Table.get_set_some_cases hrow with ⟨rfl, rfl⟩ | ⟨_, hrow⟩
    · exact ⟨handshake, hget, (hphase hpassed).1, rfl, rfl, (hphase hpassed).2⟩
    · exact ⟨row, hrow, hpassed, rfl, rfl, fun _ hfinds => hfinds⟩
  refine ⟨?_, hdictionaries, ?_, ?_, ?_, ?_⟩
  · rw [haccounts]
    exact h.accounts
  · rw [haccounts, hdispatches]
    exact h.grown
  · intro v row hrow hpassed
    rcases hrows v row hrow hpassed with ⟨old, hold, holdPassed, huser, hsession, _⟩
    rw [haccounts, huser, hsession]
    exact h.passed v old hold holdPassed
  · intro v hv
    exact hclosed v (h.closing v (hclosing v hv))
  · intro dispatch hmem queue hwaiting v row hrow hpassed hcovers
    rw [hdispatches] at hmem
    rcases hrows v row hrow hpassed with ⟨old, hold, holdPassed, _, hsession, hfinds⟩
    rw [hsession] at hcovers
    rcases h.served dispatch hmem queue hwaiting v old hold holdPassed hcovers with
      ⟨hfound, hdone⟩
    refine ⟨hfinds dispatch.event hfound, ?_⟩
    rcases hdone with hdone | hdone
    · exact Or.inl (hclosed v hdone)
    · exact Or.inr hdone

theorem finds_checked (event : AuthControlEvent) :
    event.finds HandshakePhase.checked = false := by
  cases event with
  | session | user => rfl

theorem finds_accepted
    (h : event.finds HandshakePhase.reserved = true) :
    event.finds HandshakePhase.accepted = true := by
  cases event with
  | session sessionId reason => cases h
  | user userId reason => rfl

theorem finds_connected (event : AuthControlEvent) :
    event.finds HandshakePhase.connected = true := by
  cases event with
  | session | user => rfl

/-- A handshake begins, or passes the check of a session that is not revoked. -/
theorem GatewayOk.enter (h : GatewayOk env s)
    (hdictionaries : DictionariesOk { s with handshakes := s.handshakes.set w (some new) })
    (hnew : new.phase.isPassed = true ->
      (exists session, s.accounts.committed.sessions.get new.sessionId = some session ∧
        session.userId = new.userId) ∧
      forall event : AuthControlEvent, ¬event.Covers s.accounts.committed new.sessionId) :
    GatewayOk env { s with handshakes := s.handshakes.set w (some new) } := by
  refine ⟨h.accounts, hdictionaries, h.grown, ?_, h.closing, ?_⟩
  · intro v row hrow hpassed
    change (s.handshakes.set w (some new)).get v = some row at hrow
    rcases Table.get_set_some_cases hrow with ⟨_, rfl⟩ | ⟨_, hrow⟩
    · exact (hnew hpassed).1
    · exact h.passed v row hrow hpassed
  · intro dispatch hmem queue hwaiting v row hrow hpassed hcovers
    change (s.handshakes.set w (some new)).get v = some row at hrow
    rcases Table.get_set_some_cases hrow with ⟨_, rfl⟩ | ⟨_, hrow⟩
    · exact absurd (hcovers.grow (h.grown dispatch hmem)) ((hnew hpassed).2 dispatch.event)
    · exact h.served dispatch hmem queue hwaiting v row hrow hpassed hcovers

/-- What was closed under an id is forgotten before a socket without a mark gets the id. -/
theorem GatewayOk.forgetClosed (h : GatewayOk env s)
    (hended : forall old, s.handshakes.get w = some old -> old.phase = HandshakePhase.ended)
    (hmark : w ∉ s.closingSockets) :
    GatewayOk env { s with closed := s.closed.filter (fun close => close.socket != w) } := by
  have hkept : forall v, v ≠ w -> s.isClosed v = true ->
      (s.closed.filter (fun close => close.socket != w)).any (fun close => close.socket == v)
        = true := by
    intro v hne hclosed
    rcases List.any_eq_true.mp hclosed with ⟨close, hmem, hv⟩
    refine List.any_eq_true.mpr ⟨close, List.mem_filter.mpr ⟨hmem, ?_⟩, hv⟩
    rw [beq_iff_eq.mp hv]
    exact bne_iff_ne.mpr hne
  refine ⟨h.accounts, ⟨h.dictionaries.connections, h.dictionaries.sessionConnections⟩, h.grown,
    h.passed, ?_, ?_⟩
  · intro v hv
    exact hkept v (ne_of_mem_of_not_mem hv hmark) (h.closing v hv)
  · intro dispatch hmem queue hwaiting v handshake hget hpassed hcovers
    rcases h.served dispatch hmem queue hwaiting v handshake hget hpassed hcovers with
      ⟨hfound, hdone⟩
    refine ⟨hfound, hdone.imp_left (hkept v ?_)⟩
    intro heq
    rw [heq] at hget
    rw [hended handshake hget] at hpassed
    cases hpassed

/-- New dispatches have not looked yet, and the accounts move on. -/
theorem GatewayOk.announce (h : GatewayOk env s)
    {accounts : Store AccountDatabase AccountRequest} {added : List Dispatch}
    (hreach : (accountWorkload env).system.Reachable accounts)
    (hgrow : SessionsGrow s.accounts.committed accounts.committed)
    (hadded : forall dispatch, dispatch ∈ added ->
      SessionsGrow dispatch.rows accounts.committed ∧ dispatch.waiting = none) :
    GatewayOk env { s with accounts := accounts, dispatches := s.dispatches ++ added } := by
  refine ⟨hreach, ⟨h.dictionaries.connections, h.dictionaries.sessionConnections⟩, ?_, ?_,
    h.closing, ?_⟩
  · intro dispatch hmem
    rcases List.mem_append.mp hmem with hmem | hmem
    · exact (h.grown dispatch hmem).trans hgrow
    · exact (hadded dispatch hmem).1
  · intro w handshake hget hpassed
    rcases h.passed w handshake hget hpassed with ⟨session, hsession, huser⟩
    rcases hgrow.2 _ session hsession with ⟨session', hsession', hlater⟩
    exact ⟨session', hsession', hlater.userId.trans huser⟩
  · intro dispatch hmem queue hwaiting
    rcases List.mem_append.mp hmem with hmem | hmem
    · exact h.served dispatch hmem queue hwaiting
    · rw [(hadded dispatch hmem).2] at hwaiting
      cases hwaiting

theorem mem_socketsOf {key : Uuid}
    (h : (key, w) ∈ connections) : w ∈ GatewayState.socketsOf connections key := by
  refine List.mem_map.mpr ⟨(key, w), List.mem_filter.mpr ⟨h, ?_⟩, rfl⟩
  exact beq_self_eq_true key

/-- What an event finds is what it is about and what is registered by now. -/
theorem DictionariesOk.mem_lookUp (h : DictionariesOk s)
    (hget : s.handshakes.get w = some handshake)
    (hconcerns : event.Concerns handshake) (hfinds : event.finds handshake.phase = true) :
    w ∈ s.lookUp event := by
  cases event with
  | session sessionId reason =>
      apply mem_socketsOf
      rw [h.sessionConnections]
      exact ⟨handshake, hget, hconcerns, beq_iff_eq.mp hfinds⟩
  | user userId reason =>
      apply mem_socketsOf
      rw [h.connections]
      exact ⟨handshake, hget, hconcerns, hfinds⟩

theorem GatewayOk.setDispatch (h : GatewayOk env s) {queue : List Nat}
    (hmem : dispatch ∈ s.dispatches) (hserved : Served s { dispatch with waiting := some queue }) :
    GatewayOk env (s.setDispatch i { dispatch with waiting := some queue }) := by
  refine ⟨h.accounts, ⟨h.dictionaries.connections, h.dictionaries.sessionConnections⟩, ?_,
    h.passed, h.closing, ?_⟩
  · intro other hother
    rcases List.mem_or_eq_of_mem_set hother with hother | hother
    · exact h.grown other hother
    · rw [hother]
      exact h.grown dispatch hmem
  · intro other hother
    rcases List.mem_or_eq_of_mem_set hother with hother | hother
    · exact h.served other hother
    · rw [hother]
      exact hserved

theorem GatewayOk.lookUp (h : GatewayOk env s) (hget : s.dispatches[i]? = some dispatch)
    (hreach : RevocationsReach s (GatewayLabel.lookUp i)) :
    GatewayOk env
      (s.setDispatch i { dispatch with waiting := some (s.lookUp dispatch.event) }) := by
  have hmem : dispatch ∈ s.dispatches := List.mem_of_getElem? hget
  refine h.setDispatch hmem ?_
  intro queue hwaiting w handshake hrow hpassed hcovers
  cases hwaiting
  have hconcerns := h.concerns hmem hrow hpassed hcovers
  have hfinds := hreach dispatch (Option.mem_toList.mpr hget) (w, handshake)
    (Table.mem_rows.mpr hrow) hconcerns hpassed
  exact ⟨hfinds, Or.inr (h.dictionaries.mem_lookUp hrow hconcerns hfinds)⟩

/-- After its round the socket is closed, now or by a task that came first. -/
theorem GatewayOk.closeOne (h : GatewayOk env s) (w : Nat) (event : AuthControlEvent) :
    GatewayOk env (s.closeOne w event) ∧ (s.closeOne w event).isClosed w = true := by
  unfold GatewayState.closeOne
  split
  · rename_i hclosing
    exact ⟨h, h.closing w (List.contains_iff_mem.mp hclosing)⟩
  · refine ⟨⟨h.accounts, ⟨h.dictionaries.connections, h.dictionaries.sessionConnections⟩,
      h.grown, h.passed, ?_, ?_⟩, isClosed_close_self w 4003 event.reason⟩
    · refine List.forall_mem_append.mpr
        ⟨?_, List.forall_mem_singleton.mpr (isClosed_close_self w 4003 event.reason)⟩
      intro v hv
      exact isClosed_close (h.closing v hv)
    · intro dispatch hmem
      exact (h.served dispatch hmem).closed rfl (fun _ => isClosed_close)

theorem GatewayOk.advance (h : GatewayOk env s) {rest : List Nat} (hmem : dispatch ∈ s.dispatches)
    (hwaiting : dispatch.waiting = some (w :: rest)) (hclosed : s.isClosed w = true) :
    GatewayOk env (s.setDispatch i { dispatch with waiting := some rest }) := by
  refine h.setDispatch hmem ?_
  intro queue hqueue v handshake hget hpassed hcovers
  cases hqueue
  rcases h.served dispatch hmem _ hwaiting v handshake hget hpassed hcovers with
    ⟨hfound, hdone⟩
  refine ⟨hfound, ?_⟩
  rcases hdone with hdone | hdone
  · exact Or.inl hdone
  · rcases List.mem_cons.mp hdone with heq | hdone
    · rw [heq]
      exact Or.inl hclosed
    · exact Or.inr hdone

theorem closeOne_dispatches (w : Nat) (event : AuthControlEvent) :
    (s.closeOne w event).dispatches = s.dispatches := by
  unfold GatewayState.closeOne
  split
  · rfl
  · rfl

theorem GatewayOk.step (h : GatewayOk env s) (hreach : RevocationsReach s label)
    (hstep : GatewayStep env s label s') : GatewayOk env s' := by
  have hdictionaries := h.dictionaries.step hstep
  cases hstep with
  | @account label accounts added hnext hadded =>
      have hgrow : SessionsGrow s.accounts.committed accounts.committed :=
        (sessionsStep_of_step (storeOk_of_accounts h.accounts)
          (Workload.step_of_next hnext)).grows
      refine h.announce (System.Reachable.step h.accounts hnext) hgrow ?_
      intro dispatch hmem
      rw [(hadded dispatch hmem).1]
      exact ⟨SessionsGrow.refl _, (hadded dispatch hmem).2⟩
  | receive event =>
      refine h.announce h.accounts (SessionsGrow.refl _) ?_
      intro dispatch hmem
      rw [List.mem_singleton.mp hmem]
      exact ⟨⟨⟨_, rfl⟩, fun _ _ hnone => nomatch hnone⟩, rfl⟩
  | consumeTicket hended => exact (h.forgetClosed hended hreach).enter hdictionaries nofun
  | @pass w now handshake auth hget hphase hcheck =>
      refine h.enter hdictionaries ?_
      intro _
      refine ⟨?_, fun event => not_covers_of_check hcheck⟩
      rcases checkSessionAccess_eq_ok hcheck with ⟨_, _, hsession, huser, _⟩
      exact ⟨auth.session, hsession, huser⟩
  | refuse hget hphase =>
      exact h.move hget hdictionaries rfl rfl rfl (fun _ hv => hv)
        (fun _ hv => isClosed_close hv) nofun
  | reserve hget hphase =>
      refine h.move hget hdictionaries rfl rfl rfl (fun _ hv => hv) (fun _ hv => hv) ?_
      intro _
      rw [hphase]
      refine ⟨rfl, ?_⟩
      intro event hfinds
      rw [finds_checked] at hfinds
      cases hfinds
  | accept hget hphase =>
      refine h.move hget hdictionaries rfl rfl rfl (fun _ hv => hv) (fun _ hv => hv) ?_
      intro _
      rw [hphase]
      exact ⟨rfl, fun event => finds_accepted⟩
  | abandon hget hphase =>
      exact h.move hget hdictionaries rfl rfl rfl (fun _ hv => hv) (fun _ hv => hv) nofun
  | register hget hphase =>
      refine h.move hget hdictionaries rfl rfl rfl (fun _ hv => hv) (fun _ hv => hv) ?_
      intro _
      rw [hphase]
      exact ⟨rfl, fun event _ => finds_connected event⟩
  | expire =>
      refine ⟨h.accounts, hdictionaries, h.grown, h.passed, ?_, ?_⟩
      · intro v hv
        exact isClosed_close (h.closing v hv)
      · intro dispatch hmem
        exact (h.served dispatch hmem).closed rfl (fun _ => isClosed_close)
  | disconnect hget =>
      refine h.move hget hdictionaries rfl rfl rfl ?_ (fun _ hv => hv) nofun
      intro v hv
      exact (List.mem_filter.mp hv).1
  | lookUp hget => exact h.lookUp hget hreach
  | @closeNext i w rest dispatch hget hwaiting =>
      rcases h.closeOne w dispatch.event with ⟨hok, hclosed⟩
      refine hok.advance ?_ hwaiting hclosed
      rw [closeOne_dispatches]
      exact List.mem_of_getElem? hget

theorem gatewayOk_of_reachable
    (h : ((gatewaySystem env quota).restrict RevocationsReach).Reachable s) :
    GatewayOk env s := by
  refine System.Reachable.invariant ?_ ?_ h
  · intro s hstart
    change s = GatewayState.empty at hstart
    subst hstart
    refine ⟨System.Reachable.start ⟨rfl, rfl⟩, ⟨?_, ?_⟩, nofun, nofun, nofun, nofun⟩
    · intro key w
      exact iff_of_false nofun (fun ⟨_, hget, _⟩ => nomatch hget)
    · intro key w
      exact iff_of_false nofun (fun ⟨_, hget, _⟩ => nomatch hget)
  · intro s label s' hok hstep
    exact hok.step hstep.1 (gatewayStep_of_next hstep.2)

theorem isPassed_of_hasSlot (h : phase.hasSlot = true) :
    phase.isPassed = true := by
  cases phase with
  | reserved | accepted | connected => rfl
  | ticketed | checked | ended => cases h

theorem DictionariesOk.isPassed (h : DictionariesOk s)
    (hget : s.handshakes.get w = some handshake) (hregistered : s.IsRegistered w) :
    handshake.phase.isPassed = true := by
  rcases hregistered with ⟨userId, hmem⟩ | ⟨sessionId, hmem⟩
  · rcases (h.connections userId w).mp hmem with ⟨row, hrow, _, hslot⟩
    cases hget.symm.trans hrow
    exact isPassed_of_hasSlot hslot
  · rcases (h.sessionConnections sessionId w).mp hmem with ⟨row, hrow, _, hconnected⟩
    cases hget.symm.trans hrow
    rw [hconnected]
    rfl

end

/-!
# Closed sockets
-/

/--
In a run in which every dispatch looks for its sockets at a time when no handshake it is
about is between the session check and the registration, and in which no socket gets the id of
a marked one, a finished dispatch leaves no open socket of a session that was revoked before it.
-/
theorem revoked_sockets_are_closed (env : AuthEnv) (maxWebsocketConnectionsPerUser : Nat)
    {s : GatewayState}
    (h : ((gatewaySystem env maxWebsocketConnectionsPerUser).restrict
      RevocationsReach).Reachable s) : RevokedSocketsClosed s := by
  have hok := gatewayOk_of_reachable h
  intro dispatch hmem hfinished w handshake hget _ hcovers hregistered
  have hpassed := hok.dictionaries.isPassed hget hregistered
  rcases hok.served dispatch hmem [] hfinished w handshake hget hpassed hcovers with
    ⟨_, hclosed | hwaiting⟩
  · exact hclosed
  · cases hwaiting

/-- Session 10 of user 1 is revoked by a logout. -/
def logoutLabels : List GatewayLabel :=
  [GatewayLabel.account (StoreLabel.begin 1
      (AccountRequest.logout ⟨"first", 6, 6⟩ 6)),
    GatewayLabel.account (StoreLabel.statement 1),
    GatewayLabel.account (StoreLabel.commit 1)]

/-- The session is checked, then revoked, and its socket is registered after the dispatch. -/
def missedSocketRun : List GatewayLabel :=
  firstLogin.map GatewayLabel.account ++
    [GatewayLabel.consumeTicket 0 1 10 1000,
      GatewayLabel.checkSession 0 6] ++
    logoutLabels ++
    [GatewayLabel.lookUp 0,
      GatewayLabel.reserve 0,
      GatewayLabel.accept 0,
      GatewayLabel.register 0]

theorem registered_socket_survives :
    exists s : GatewayState, (gatewaySystem sampleAuthEnv 5).Reachable s ∧
      ¬RevokedSocketsClosed s := by
  have hrun : (missedSocketRun.foldlM (GatewayState.next sampleAuthEnv 5)
      GatewayState.empty).map (fun s =>
        (s.dispatches.map (fun dispatch => (dispatch.event, dispatch.waiting == some [] &&
            (dispatch.rows.sessions.get 10).any (fun session => session.revokedAt.isSome))),
          (s.handshakes.get 0).map (fun handshake => (handshake.sessionId, handshake.phase)),
          s.sessionConnections.contains (10, 0) && !s.isClosed 0))
      = some ([(AuthControlEvent.session 10 "logout", true)],
          some (10, HandshakePhase.connected), true) := by
    decide +kernel
  rcases System.exists_reachable_of_run (M := gatewaySystem sampleAuthEnv 5)
    (fun _ _ _ hstep => hstep) rfl hrun with ⟨s, hreach, hview⟩
  rcases Prod.mk.inj hview with ⟨hdispatches, hview⟩
  rcases Prod.mk.inj hview with ⟨hhandshake, hview⟩
  rcases (Bool.and_eq_true _ _).mp hview with ⟨hregistered, hopen⟩
  rcases List.map_eq_singleton_iff.mp hdispatches with ⟨dispatch, hlist, hdispatch⟩
  rcases Prod.mk.inj hdispatch with ⟨hevent, hdispatch⟩
  rcases (Bool.and_eq_true _ _).mp hdispatch with ⟨hwaiting, hrevoked⟩
  rcases (Option.any_eq_true _ _).mp hrevoked with ⟨session, hsession, hrevoked⟩
  rcases Option.map_eq_some_iff.mp hhandshake with ⟨handshake, hget, hhandshake⟩
  rcases Prod.mk.inj hhandshake with ⟨hid, hphase⟩
  refine ⟨s, hreach, ?_⟩
  intro hclosed
  have hcovers : dispatch.event.Covers dispatch.rows handshake.sessionId := by
    rw [hevent, hid]
    exact ⟨session, hsession, hrevoked, rfl⟩
  have hmem : dispatch ∈ s.dispatches := by
    rw [hlist]
    exact List.mem_cons_self
  have hdone := hclosed dispatch hmem (beq_iff_eq.mp hwaiting) 0 handshake hget
    (by rw [hphase]; rfl) hcovers (Or.inr ⟨10, List.contains_iff_mem.mp hregistered⟩)
  rw [hdone] at hopen
  cases hopen

def connectLabels : List GatewayLabel :=
  [GatewayLabel.consumeTicket 0 1 10 1000,
    GatewayLabel.checkSession 0 6,
    GatewayLabel.reserve 0,
    GatewayLabel.accept 0,
    GatewayLabel.register 0]

/-- A second socket with the id of the first is registered before the session is revoked. -/
def closedSocketRun : List GatewayLabel :=
  firstLogin.map GatewayLabel.account ++ connectLabels ++ [GatewayLabel.disconnect 0] ++
    connectLabels ++ logoutLabels ++
    [GatewayLabel.lookUp 0,
      GatewayLabel.closeNext 0]

theorem closedSocketRun_closes :
    exists s : GatewayState,
      ((gatewaySystem sampleAuthEnv 5).restrict RevocationsReach).Reachable s ∧
      s.dispatches.map Dispatch.waiting = [some []] ∧ s.sessionConnections = [(10, 0)] ∧
      RevokedSocketsClosed s := by
  have hrun : (closedSocketRun.foldlM
      (System.guarded RevocationsReach (GatewayState.next sampleAuthEnv 5))
      GatewayState.empty).map (fun s =>
        (s.dispatches.map Dispatch.waiting, s.sessionConnections))
      = some ([some []], [(10, 0)]) := by
    decide +kernel
  rcases System.exists_reachable_of_run
    (M := (gatewaySystem sampleAuthEnv 5).restrict RevocationsReach)
    (System.step_of_guarded (fun _ _ _ hstep => hstep)) rfl hrun with ⟨s, hreach, hview⟩
  rcases Prod.mk.inj hview with ⟨hdispatches, hregistered⟩
  exact ⟨s, hreach, hdispatches, hregistered, revoked_sockets_are_closed sampleAuthEnv 5 hreach⟩

end MessagingSystem
