import MessagingSystem.Realtime.RegistryCleanup

/-!
# Runs of the connection registry

Whatever the steps of connections and closes and however they interleave, a user never has more
sockets than the quota.  Nothing outlives the connections in a run without the cancellations and
closes that skip part of the cleanup.
-/

namespace MessagingSystem

open Foundation

variable {outcome : WaitOutcome}

/-!
# Steps
-/

def AllTracesOk (s : RegistryState) : Prop :=
  forall w, TracesOk s.registry w (s.tasks.get w)

/-- Everything written for the socket is removed when its wait ends like this. -/
def SocketPhase.cleansUp (marked : Bool) : SocketPhase -> WaitOutcome -> Bool
  | handshake _, WaitOutcome.cancelled => false
  | handshake _, WaitOutcome.raised _ => !marked
  | cleanup _, WaitOutcome.cancelled => false
  | heartbeat, WaitOutcome.cancelled => false
  | _, _ => true

def Registry.hasSlot (r : Registry) (w : Nat) : Bool :=
  r.connections.table.keys.any (fun u => decide (w ∈ r.connections.members u))

/--
The steps that leave nothing behind: no connection is cancelled in its handshake, in the handler
of a failed handshake or while `disconnect` waits for the heartbeat task; no handshake fails when
its socket is marked as closing; and a close marks only sockets that still have their slot.
-/
def RegistryState.cleansUp (s : RegistryState) : RegistryLabel -> Bool
  | RegistryLabel.resume w outcome =>
      (s.tasks.get w).all fun task =>
        task.phase.cleansUp (decide (w ∈ s.registry.closingSockets)) outcome
  | RegistryLabel.closeNext k =>
      ((s.closes.get k).bind (fun task => task.sockets.head?)).all fun w =>
        decide (w ∈ s.registry.closingSockets) || s.registry.hasSlot w
  | _ => true

def RegistryState.CleansUp (s : RegistryState) (label : RegistryLabel) : Prop :=
  s.cleansUp label = true

instance (s : RegistryState) (label : RegistryLabel) : Decidable (s.CleansUp label) :=
  inferInstanceAs (Decidable (s.cleansUp label = true))

section

variable {s s' : RegistryState} {w : Nat} {task : SocketTask}

section

variable (h : AllTracesOk s)
include h

theorem AllTracesOk.socketStep (new : Option SocketTask)
    (hother : forall other, other ≠ w -> Registry.SameAt s.registry s'.registry other)
    (htasks : s'.tasks = s.tasks.set w new) (hself : TracesOk s'.registry w new) :
    AllTracesOk s' := by
  intro other
  rw [htasks, Table.get_set]
  split
  case isTrue heq =>
    rw [heq]
    exact hself
  case isFalse hne => exact (h other).sameAt (hother other hne)

theorem AllTracesOk.setPhase {phase : SocketPhase}
    (hself : TracesOk s.registry w (some { task with phase := phase })) :
    AllTracesOk (s.setPhase w task phase) :=
  h.socketStep _ (fun other _ => Registry.SameAt.refl s.registry other) rfl hself

theorem AllTracesOk.finish (hclear : s.registry.Clear w) :
    AllTracesOk (s.finish w) :=
  h.socketStep none (fun other _ => Registry.SameAt.refl s.registry other) rfl
    (hclear.tracesOk none)

section

variable (htask : s.tasks.get w = some task)
include htask

theorem TracesOk.of_get :
    TracesOk s.registry w (some task) :=
  htask ▸ h w

/-- A phase without traces can be left without cleanup. -/
theorem AllTracesOk.clear_of_unknown
    (hphase : task.phase.isKnown = false) : s.registry.Clear w := by
  refine (TracesOk.of_get h htask).clear ?_
  intro t ht
  cases ht
  exact hphase

theorem AllTracesOk.forget
    (hheartbeat : s.registry.presenceHeartbeatTasks.get w = none) :
    AllTracesOk (s.forget w task) := by
  have hclear := (TracesOk.of_get h htask).forgetSocket hheartbeat
  unfold RegistryState.forget
  dsimp only
  split
  · exact h.socketStep (some { task with phase := SocketPhase.leaving })
      (fun other hne => Registry.sameAt_forgetSocket hne) rfl (hclear.tracesOk _)
  · exact h.socketStep none (fun other hne => Registry.sameAt_forgetSocket hne) rfl
      (hclear.tracesOk none)

theorem AllTracesOk.disconnect :
    AllTracesOk (s.disconnect w task) := by
  unfold RegistryState.disconnect
  split
  · refine h.socketStep (some { task with phase := SocketPhase.heartbeat })
      (fun other hne => Registry.sameAt_setHeartbeat hne none) rfl ?_
    exact (TracesOk.of_get h htask).stopHeartbeat SocketPhase.heartbeat (fun _ => rfl)
      (fun _ => rfl) (fun _ => rfl)
  case isFalse hnone => exact h.forget htask (Option.not_isSome_iff_eq_none.mp hnone)

theorem AllTracesOk.enter
    (hphase : task.phase = SocketPhase.lock) (quota : Nat) (connectionId : String) :
    AllTracesOk (s.enter quota w task connectionId) := by
  have hclear : s.registry.Clear w := h.clear_of_unknown htask (by rw [hphase]; rfl)
  unfold RegistryState.enter
  split
  · exact h.setPhase (hclear.tracesOk _)
  · exact h.socketStep _
      (fun other hne => Registry.sameAt_reserve hne task.userId task.username connectionId) rfl
      (TracesOk.reserve hclear connectionId)

theorem AllTracesOk.resumeHandshake
    {wait : HandshakeWait} (hphase : task.phase = SocketPhase.handshake wait)
    (hcancelled : outcome ≠ WaitOutcome.cancelled)
    (hmarked : forall isAppError, outcome = WaitOutcome.raised isAppError ->
      w ∉ s.registry.closingSockets)
    (hnext : s.resumeHandshake w task wait outcome = some s') : AllTracesOk s' := by
  have hself := TracesOk.of_get h htask
  have hmoved : forall wait', AllTracesOk (s.setPhase w task (SocketPhase.handshake wait')) := by
    intro wait'
    refine h.setPhase (hself.setPhase (fun _ => rfl) (fun _ => rfl) ?_ ?_)
    · rw [hphase]
      intro henrolled
      cases henrolled
    · rw [hphase]
      intro hopen
      cases hopen
  cases outcome with
  | returned =>
      cases wait with
      | accept => exact Option.some.inj hnext ▸ hmoved _
      | presence => exact Option.some.inj hnext ▸ hmoved _
      | bindings => exact Option.some.inj hnext ▸ hmoved _
      | states => cases hnext
  | raised isAppError =>
      rw [← Option.some.inj hnext]
      exact h.socketStep _ (fun other hne => Registry.sameAt_releaseSlot hne task.userId) rfl
        (hself.releaseSlot hphase (hmarked isAppError rfl) isAppError)
  | cancelled => exact absurd rfl hcancelled

theorem AllTracesOk.resumeCleanup
    {refused : Bool} (hphase : task.phase = SocketPhase.cleanup refused)
    (hcancelled : outcome ≠ WaitOutcome.cancelled)
    (hnext : s.resumeCleanup w task refused outcome = some s') : AllTracesOk s' := by
  cases outcome with
  | returned =>
      have hclear := (TracesOk.of_get h htask).forgetHandshake hphase
      rw [← Option.some.inj hnext]
      split
      · exact h.socketStep (some { task with phase := SocketPhase.refusal })
          (fun other hne => Registry.sameAt_forgetHandshake hne) rfl (hclear.tracesOk _)
      · exact h.socketStep none (fun other hne => Registry.sameAt_forgetHandshake hne) rfl
          (hclear.tracesOk none)
  | raised isAppError => cases hnext
  | cancelled => exact absurd rfl hcancelled

theorem AllTracesOk.resume
    (hclean : s.CleansUp (RegistryLabel.resume w outcome))
    (hnext : s.resume w task outcome = some s') : AllTracesOk s' := by
  have hcleans : task.phase.cleansUp (decide (w ∈ s.registry.closingSockets)) outcome = true := by
    simpa [RegistryState.CleansUp, RegistryState.cleansUp, htask] using hclean
  have hself := TracesOk.of_get h htask
  have hfinish : task.phase.isKnown = false -> AllTracesOk (s.finish w) :=
    fun hphase => h.finish (h.clear_of_unknown htask hphase)
  unfold RegistryState.resume at hnext
  split at hnext
  case h_1 hphase =>
    split at hnext
    · exact Option.some.inj hnext ▸ hfinish (by rw [hphase]; rfl)
    · cases hnext
  case h_2 wait hphase =>
    rw [hphase] at hcleans
    refine h.resumeHandshake htask hphase ?_ ?_ hnext
    · intro heq
      rw [heq] at hcleans
      cases hcleans
    · intro isAppError heq
      rw [heq] at hcleans
      simpa [SocketPhase.cleansUp] using hcleans
  case h_3 refused hphase =>
    refine h.resumeCleanup htask hphase ?_ hnext
    intro heq
    rw [hphase, heq] at hcleans
    cases hcleans
  case h_4 hphase => exact Option.some.inj hnext ▸ hfinish (by rw [hphase]; rfl)
  case h_5 hphase =>
    split at hnext
    · rw [← Option.some.inj hnext]
      exact h.socketStep _ (fun other hne => Registry.sameAt_setHeartbeat hne (some ())) rfl
        hself.startHeartbeat
    · exact Option.some.inj hnext ▸ h.disconnect htask
  case h_6 hphase =>
    rw [← Option.some.inj hnext]
    exact h.setPhase (hself.setPhase (fun _ => rfl) (fun _ => rfl) (fun _ => rfl) (fun _ => rfl))
  case h_7 hphase =>
    split at hnext
    · exact Option.some.inj hnext ▸ h.disconnect htask
    · rw [← Option.some.inj hnext]
      -- The heartbeat task is gone, so `disconnect` does not wait for it.
      have hstopped : AllTracesOk (s.withRegistry (s.registry.setHeartbeat w none)) := by
        intro other
        by_cases hother : other = w
        · rw [hother]
          have hkept := hself.stopHeartbeat task.phase id id id
          exact htask ▸ hkept
        · exact (h other).sameAt (Registry.sameAt_setHeartbeat hother none)
      exact hstopped.disconnect htask
  case h_8 hphase =>
    split at hnext
    case isTrue heq =>
      rw [hphase, heq] at hcleans
      cases hcleans
    case isFalse =>
      rw [← Option.some.inj hnext]
      refine h.forget htask (Option.not_isSome_iff_eq_none.mp ?_)
      intro hb
      rcases hself.heartbeat hb with ⟨t, ht, hopen⟩
      cases ht
      rw [hphase] at hopen
      cases hopen
  case h_9 hphase => exact Option.some.inj hnext ▸ hfinish (by rw [hphase]; rfl)

end

theorem AllTracesOk.closeNext {k : Nat} {sockets : List Nat}
    (hslot : forall w rest, sockets = w :: rest -> w ∉ s.registry.closingSockets ->
      exists u, w ∈ s.registry.connections.members u) :
    AllTracesOk (s.closeNext k sockets) := by
  cases sockets with
  | nil => exact h
  | cons w rest =>
      rw [RegistryState.closeNext]
      split
      · exact h
      case isFalse hmark =>
        intro other
        by_cases hother : other = w
        · rw [hother]
          exact (h w).mark (hslot w rest rfl hmark)
        · exact (h other).sameAt (Registry.sameAt_mark hother)

theorem AllTracesOk.next {quota : Nat} {label : RegistryLabel}
    (hclean : s.CleansUp label) (hnext : s.next quota label = some s') : AllTracesOk s' := by
  cases label with
  | receive w userId username sessionId =>
      unfold RegistryState.next at hnext
      dsimp only at hnext
      split at hnext
      case h_1 hnone =>
        rw [← Option.some.inj hnext]
        have hclear : s.registry.Clear w := by
          refine (h w).clear ?_
          rw [hnone]
          intro t ht
          cases ht
        exact h.socketStep (w := w) (some ⟨userId, username, sessionId, SocketPhase.lock⟩)
          (fun other _ => Registry.SameAt.refl s.registry other) rfl (hclear.tracesOk _)
      case h_2 => cases hnext
  | enter w connectionId =>
      rcases Option.bind_eq_some_iff.mp hnext with ⟨task, htask, hnext⟩
      split at hnext
      case isTrue hphase => exact Option.some.inj hnext ▸ h.enter htask hphase quota connectionId
      case isFalse => cases hnext
  | enroll w states now =>
      rcases Option.bind_eq_some_iff.mp hnext with ⟨task, htask, hnext⟩
      split at hnext
      case isTrue hphase =>
        rw [← Option.some.inj hnext]
        exact h.socketStep _
          (fun other hne => Registry.sameAt_enroll hne task.sessionId states now) rfl
          ((TracesOk.of_get h htask).enroll hphase states now)
      case isFalse => cases hnext
  | resume w outcome =>
      rcases Option.bind_eq_some_iff.mp hnext with ⟨task, htask, hnext⟩
      exact h.resume htask hclean hnext
  | act w activity =>
      rcases Option.bind_eq_some_iff.mp hnext with ⟨task, htask, hnext⟩
      split at hnext
      case isTrue hopen =>
        rw [← Option.some.inj hnext]
        intro other
        by_cases hother : other = w
        · have hself := (TracesOk.of_get h htask).act hopen activity
          rw [hother]
          exact htask ▸ hself
        · exact (h other).sameAt (Registry.sameAt_act hother activity)
      case isFalse => cases hnext
  | closeUser | closeSession =>
      unfold RegistryState.next at hnext
      dsimp only at hnext
      split at hnext
      · exact Option.some.inj hnext ▸ h
      · cases hnext
  | closeNext k =>
      rcases Option.bind_eq_some_iff.mp hnext with ⟨task, htask, hnext⟩
      split at hnext
      · cases hnext
      · rw [← Option.some.inj hnext]
        refine h.closeNext ?_
        intro w rest hsockets hmark
        have hslot : s.registry.hasSlot w = true := by
          simpa [RegistryState.CleansUp, RegistryState.cleansUp, htask, hsockets, hmark]
            using hclean
        rcases List.any_eq_true.mp hslot with ⟨u, _, hu⟩
        exact ⟨u, of_decide_eq_true hu⟩
  | closeReturned k =>
      rcases Option.bind_eq_some_iff.mp hnext with ⟨task, htask, hnext⟩
      split at hnext
      · exact Option.some.inj hnext ▸ h
      · cases hnext
  | closeEnded k => exact Option.some.inj hnext ▸ h

end

theorem AllTracesOk.of_reachable {quota : Nat}
    (h : ((registrySystem quota).restrict RegistryState.CleansUp).Reachable s) :
    AllTracesOk s := by
  refine h.invariant (I := AllTracesOk) ?_ ?_
  · intro s hs
    cases hs
    intro w
    exact (Registry.clear_empty w).tracesOk none
  · intro s label s' hs hstep
    exact hs.next hstep.1 hstep.2

/-- A registry that holds nothing about any socket is the registry of a new manager. -/
theorem Registry.eq_empty {r : Registry} (h : forall w, r.Clear w) : r = Registry.empty := by
  have hknown : forall w, ¬ r.Knows w := fun w => (h w).known
  have hserved : forall w, ¬ r.Serves w := fun w => (h w).served
  simp only [Registry.Knows, Registry.Serves, not_or, Option.not_isSome_iff_eq_none]
    at hknown hserved
  cases r
  simp only [Registry.empty, Registry.mk.injEq]
  refine ⟨Buckets.eq_empty (fun u w => (h w).slot u),
    Buckets.eq_empty (fun sid w => (h w).session sid), ?_⟩
  refine ⟨Table.eq_empty (fun w => (hserved w).1), Table.eq_empty (fun w => (hknown w).1),
    Table.eq_empty (fun w => (hknown w).2.1), Table.eq_empty (fun w => (h w).heartbeat),
    Table.eq_empty (fun w => (hserved w).2.1), Table.eq_empty (fun w => (hserved w).2.2.1),
    Table.eq_empty (fun w => (hserved w).2.2.2.1),
    Finset.eq_empty_of_forall_notMem (fun w => (h w).marked),
    Table.eq_empty (fun w => (hknown w).2.2.1), Table.eq_empty (fun w => (hknown w).2.2.2),
    Table.eq_empty (fun w => (hserved w).2.2.2.2)⟩

theorem AllTracesOk.registry_eq_empty (h : AllTracesOk s)
    (hended : forall w, s.tasks.get w = none) :
    s.registry = Registry.empty := by
  refine Registry.eq_empty ?_
  intro w
  refine (h w).clear ?_
  rw [hended w]
  intro t ht
  cases ht

end

/-!
# The quota

The room for a socket is checked in the step that takes it, so that no interleaving and no
cancellation can exceed the quota.
-/

def RegistryState.WithinQuota (quota : Nat) (s : RegistryState) : Prop :=
  s.registry.connections.Within quota

namespace RegistryState

section

variable {quota : Nat} {s s' : RegistryState} {w : Nat} {task : SocketTask}

section

variable (h : s.WithinQuota quota)
include h

theorem WithinQuota.forget : (s.forget w task).WithinQuota quota := by
  unfold RegistryState.forget
  dsimp only
  split
  · exact Buckets.Within.discardAll h w
  · exact Buckets.Within.discardAll h w

theorem WithinQuota.disconnect :
    (s.disconnect w task).WithinQuota quota := by
  unfold RegistryState.disconnect
  split
  · exact h
  · exact WithinQuota.forget h

theorem WithinQuota.enter (connectionId : String) :
    (s.enter quota w task connectionId).WithinQuota quota := by
  unfold RegistryState.enter
  split
  · exact h
  case isFalse hroom => exact Buckets.Within.add h w (Nat.lt_of_not_le hroom)

theorem WithinQuota.resumeHandshake {wait : HandshakeWait}
    (hnext : s.resumeHandshake w task wait outcome = some s') :
    s'.WithinQuota quota := by
  cases outcome with
  | returned =>
      cases wait with
      | accept => exact Option.some.inj hnext ▸ h
      | presence => exact Option.some.inj hnext ▸ h
      | bindings => exact Option.some.inj hnext ▸ h
      | states => cases hnext
  | raised isAppError =>
      rw [← Option.some.inj hnext]
      exact Buckets.Within.discard h task.userId w
  | cancelled => exact Option.some.inj hnext ▸ h

theorem WithinQuota.resumeCleanup {refused : Bool}
    (hnext : s.resumeCleanup w task refused outcome = some s') :
    s'.WithinQuota quota := by
  cases outcome with
  | returned =>
      rw [← Option.some.inj hnext]
      split
      · exact h
      · exact h
  | raised isAppError => cases hnext
  | cancelled => exact Option.some.inj hnext ▸ h

theorem WithinQuota.resume
    (hnext : s.resume w task outcome = some s') : s'.WithinQuota quota := by
  unfold RegistryState.resume at hnext
  split at hnext
  case h_1 =>
    split at hnext
    · exact Option.some.inj hnext ▸ h
    · cases hnext
  case h_2 => exact h.resumeHandshake hnext
  case h_3 => exact h.resumeCleanup hnext
  case h_4 => exact Option.some.inj hnext ▸ h
  case h_5 =>
    split at hnext
    · exact Option.some.inj hnext ▸ h
    · exact Option.some.inj hnext ▸ h.disconnect
  case h_6 => exact Option.some.inj hnext ▸ h
  case h_7 =>
    split at hnext
    · exact Option.some.inj hnext ▸ h.disconnect
    · rw [← Option.some.inj hnext]
      exact WithinQuota.disconnect (s := s.withRegistry (s.registry.setHeartbeat w none)) h
  case h_8 =>
    split at hnext
    · exact Option.some.inj hnext ▸ h
    · exact Option.some.inj hnext ▸ h.forget
  case h_9 => exact Option.some.inj hnext ▸ h

theorem WithinQuota.closeNext (k : Nat) (sockets : List Nat) :
    (s.closeNext k sockets).WithinQuota quota := by
  cases sockets with
  | nil => exact h
  | cons w rest =>
      rw [RegistryState.closeNext]
      split
      · exact h
      · exact h

theorem WithinQuota.next {label : RegistryLabel}
    (hnext : s.next quota label = some s') : s'.WithinQuota quota := by
  cases label with
  | receive | closeUser | closeSession =>
      unfold RegistryState.next at hnext
      dsimp only at hnext
      split at hnext
      · exact Option.some.inj hnext ▸ h
      · cases hnext
  | enter w connectionId =>
      rcases Option.bind_eq_some_iff.mp hnext with ⟨task, _, hnext⟩
      split at hnext
      · exact Option.some.inj hnext ▸ h.enter connectionId
      · cases hnext
  | enroll | closeReturned =>
      rcases Option.bind_eq_some_iff.mp hnext with ⟨task, _, hnext⟩
      split at hnext
      · exact Option.some.inj hnext ▸ h
      · cases hnext
  | resume w outcome =>
      rcases Option.bind_eq_some_iff.mp hnext with ⟨task, _, hnext⟩
      exact h.resume hnext
  | act w activity =>
      rcases Option.bind_eq_some_iff.mp hnext with ⟨task, _, hnext⟩
      split at hnext
      · rw [← Option.some.inj hnext]
        show Buckets.Within (s.registry.act w activity).connections quota
        rw [(Registry.act_frame s.registry w activity).1]
        exact h
      · cases hnext
  | closeNext k =>
      rcases Option.bind_eq_some_iff.mp hnext with ⟨task, _, hnext⟩
      split at hnext
      · cases hnext
      · exact Option.some.inj hnext ▸ h.closeNext k task.sockets
  | closeEnded k => exact Option.some.inj hnext ▸ h

end

theorem WithinQuota.of_reachable (h : (registrySystem quota).Reachable s) :
    s.WithinQuota quota := by
  refine h.invariant (I := RegistryState.WithinQuota quota) ?_ ?_
  · intro s hs
    cases hs
    intro u
    exact Nat.zero_le quota
  · intro s label s' hs hstep
    exact hs.next hstep

end

end RegistryState

/-!
# Ended connections
-/

/--
No user ever has more sockets than the quota; and as long as every connection cleans up, nothing
is left in the registry once all connections have ended.
-/
theorem registry_quota_and_cleanup (quota : Nat) :
    (forall s, (registrySystem quota).Reachable s ->
      forall u, (s.registry.connections.members u).length ≤ quota) ∧
    (forall s, ((registrySystem quota).restrict RegistryState.CleansUp).Reachable s ->
      (forall w, s.tasks.get w = none) -> s.registry = Registry.empty) := by
  constructor
  · intro s hs
    exact RegistryState.WithinQuota.of_reachable hs
  · intro s hs hended
    exact (AllTracesOk.of_reachable hs).registry_eq_empty hended

/-- A connection that is served, closed by the auth control and left. -/
def servedThenClosed : List RegistryLabel :=
  [ RegistryLabel.receive 7 1 "alice" 11,
    RegistryLabel.enter 7 "c7",
    RegistryLabel.resume 7 WaitOutcome.returned,
    RegistryLabel.resume 7 WaitOutcome.returned,
    RegistryLabel.resume 7 WaitOutcome.returned,
    RegistryLabel.enroll 7 [(100, 0)] 5,
    RegistryLabel.resume 7 WaitOutcome.returned,
    RegistryLabel.closeSession 0 11,
    RegistryLabel.closeNext 0,
    RegistryLabel.resume 7 (WaitOutcome.raised false),
    RegistryLabel.resume 7 WaitOutcome.returned,
    RegistryLabel.resume 7 WaitOutcome.cancelled,
    RegistryLabel.closeReturned 0,
    RegistryLabel.closeNext 0 ]

theorem closed_connection_leaves_nothing :
    exists s, ((registrySystem 1).restrict RegistryState.CleansUp).Reachable s ∧
      s.registry = Registry.empty := by
  have hrun : ((servedThenClosed.foldlM
      (System.guarded RegistryState.CleansUp (RegistryState.next 1)) RegistryState.empty).map
        (fun s => s.tasks.keys)) = some [] := by decide +kernel
  rcases System.exists_reachable_of_run
    (System.step_of_guarded (M := registrySystem 1) (fun _ _ _ hnext => hnext))
    (show ((registrySystem 1).restrict RegistryState.CleansUp).start RegistryState.empty from rfl)
    hrun with ⟨s, hreachable, hkeys⟩
  refine ⟨s, hreachable, (registry_quota_and_cleanup 1).2 s hreachable ?_⟩
  intro w
  refine Option.not_isSome_iff_eq_none.mp ?_
  intro hsome
  have hmem := Table.mem_keys.mpr hsome
  rw [hkeys] at hmem
  cases hmem

/--
A connection that is cancelled while it accepts its socket keeps the slot of its user: the handler
of the handshake does not run for a cancellation.  One that is marked by a close and then fails
keeps the mark.
-/
theorem ended_connection_left_behind :
    (exists s, (registrySystem 1).Reachable s ∧
      (s.tasks.keys = [] ∧ s.registry.connections.members 1 = [7])) ∧
    (exists s, (registrySystem 1).Reachable s ∧
      (s.tasks.keys = [] ∧ s.registry.closingSockets = {7})) := by
  have hcancelled : (([
      RegistryLabel.receive 7 1 "alice" 11, RegistryLabel.enter 7 "c7",
      RegistryLabel.resume 7 WaitOutcome.cancelled ].foldlM
        (RegistryState.next 1) RegistryState.empty).map
      (fun s => (s.tasks.keys, s.registry.connections.members 1))) = some ([], [7]) := by
    decide +kernel
  have hmarked : (([
      RegistryLabel.receive 7 1 "alice" 11, RegistryLabel.enter 7 "c7",
      RegistryLabel.closeUser 0 1, RegistryLabel.closeNext 0,
      RegistryLabel.resume 7 (WaitOutcome.raised false),
      RegistryLabel.resume 7 WaitOutcome.returned ].foldlM
        (RegistryState.next 1) RegistryState.empty).map
      (fun s => (s.tasks.keys, s.registry.closingSockets))) = some ([], {7}) := by
    decide +kernel
  have hstart : (registrySystem 1).start RegistryState.empty := rfl
  constructor
  · rcases System.exists_reachable_of_run (fun _ _ _ hnext => hnext) hstart hcancelled
      with ⟨s, hreachable, hview⟩
    exact ⟨s, hreachable, congrArg Prod.fst hview, congrArg Prod.snd hview⟩
  · rcases System.exists_reachable_of_run (fun _ _ _ hnext => hnext) hstart hmarked
      with ⟨s, hreachable, hview⟩
    exact ⟨s, hreachable, congrArg Prod.fst hview, congrArg Prod.snd hview⟩

end MessagingSystem
