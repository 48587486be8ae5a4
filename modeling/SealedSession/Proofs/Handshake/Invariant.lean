import Mathlib.Tactic.ByContra
import SealedSession.Proofs.Handshake.Standing

/-!
# What holds in every state of a handshake

Six fields of a handshake are written by a dozen operations, several of which fail halfway. They
stay in agreement all the same: `Standing.Sound` says how, `Standing.Step` says what an operation
may do to a standing, and one lemma for each way to step shows that soundness is kept.

* `step_perform`: every operation is a step of the standing, whatever the stores answer.
* `sound_run`: the standing is sound after every run.
* `fields_agree_run`: what that says of the fields of the handshake.
-/

namespace SealedSession

/-- What brings a step about: a socket was opened, a response was accepted, or something else. -/
inductive Cause where
  | opening
  | hearing (m : Response)
  | other

namespace Standing

/-- What an operation may do to a standing. -/
inductive Step (limit : Option Nat) : Cause → Standing → Standing → Prop where
  | same {c s} : Step limit c s s
  /-- A socket is refused, but its lock is kept. -/
  | refused {s} (lock : Option HomeLock) (bound : s.bound = true) :
      Step limit .opening s { s with lock := lock }
  | opened {s} (lock : Option HomeLock) (unbound : s.bound = false) :
      Step limit .opening s ({ s with lock := lock, bound := true }.changeState .connecting)
  | openedWithStore {s} (lock : Option HomeLock) (unbound : s.bound = false) :
      Step limit .opening s
        { { s with lock := lock, bound := true }.changeState .connecting with stored := true }
  | heard {s} (m : Response) (active : s.state ≠ .disconnected)
      (expected : Handshake.expects s.state s.phase m = true) :
      Step limit (.hearing m) s ({ s with failures := 0 }.after m)
  /-- A response was read, but nothing came of it. -/
  | cleared {c s} : Step limit c s { s with failures := 0 }
  | failed {s} (active : s.state ≠ .disconnected) (known : s.server.isSome = true) :
      Step limit .other s (s.failed limit)
  | left {s} : Step limit .other s (s.changeState .disconnected)
  | released {s} : Step limit .other s { s with lock := none }

/-- The fields of a standing agree. -/
structure Sound (limit : Option Nat) (s : Standing) : Prop where
  phase_iff : s.phase.isSome ↔ s.state = .connecting
  bound_iff : s.bound = true ↔ s.state ≠ .disconnected
  server_iff : s.server.isSome ↔ s.state = .connected
  lock : s.lock.isSome → s.state ≠ .disconnected
  stored_of_connected : s.state = .connected → s.stored = true
  stored_of_phase : s.phase = some .awaitingPreKeyAck ∨ s.phase = some .awaitingSessionStart ∨
    s.phase = some .awaitingTrustDecision → s.stored = true
  failures_eq : s.state ≠ .connected → s.failures = 0
  failures_le : ∀ l, limit = some l → s.failures.toNat ≤ l

namespace Sound

variable {limit : Option Nat} {s : Standing}

theorem state_of_phase (h : s.Sound limit) {p : Phase} (hp : s.phase = some p) :
    s.state = .connecting :=
  h.phase_iff.mp (by rw [hp]; rfl)

theorem state_of_unbound (h : s.Sound limit) (hb : s.bound = false) :
    s.state = .disconnected := by
  by_contra hn
  rw [h.bound_iff.mpr hn] at hb
  cases hb

theorem cleared (h : s.Sound limit) : { s with failures := 0 }.Sound limit :=
  { h with failures_eq := fun _ ↦ rfl, failures_le := fun _ _ ↦ Nat.zero_le _ }

theorem relock (h : s.Sound limit) {lock : Option HomeLock}
    (hl : lock.isSome → s.state ≠ .disconnected) : { s with lock := lock }.Sound limit :=
  { h with lock := hl }

theorem withStore (h : s.Sound limit) : { s with stored := true }.Sound limit :=
  { h with stored_of_connected := fun _ ↦ rfl, stored_of_phase := fun _ ↦ rfl }

/-- Moving on keeps the agreement, provided that there is a store once one is needed. -/
theorem setPhase (h : s.Sound limit) {p : Phase}
    (hs : p ≠ .awaitingIdentity → p ≠ .awaitingDeviceApproval → s.stored = true) :
    (s.setPhase p).Sound limit := by
  unfold Standing.setPhase
  by_cases hc : s.state = .connecting
  · rw [if_pos hc]
    refine { h with phase_iff := ⟨fun _ ↦ hc, fun _ ↦ rfl⟩, stored_of_phase := ?_ }
    rintro (hp | hp | hp) <;> cases hp <;> exact hs (by simp) (by simp)
  · rw [if_neg hc]
    exact h

theorem setPhase_of_stored (h : s.Sound limit) (p : Phase) :
    (if s.stored then s.setPhase p else s).Sound limit := by
  split
  · next hs => exact h.setPhase (fun _ _ ↦ hs)
  · exact h

theorem changeState_disconnected (h : s.Sound limit) :
    (s.changeState .disconnected).Sound limit := by
  unfold changeState
  by_cases hc : s.state = .disconnected
  · rw [if_pos hc, if_pos rfl]
    exact h.relock (fun hl ↦ absurd hl (by simp))
  · rw [if_neg hc, if_pos rfl]
    exact
      { phase_iff := by simp [enter]
        bound_iff := by simp [enter]
        server_iff := by simp [enter]
        lock := by simp
        stored_of_connected := by simp [enter]
        stored_of_phase := by simp [enter]
        failures_eq := fun _ ↦ rfl
        failures_le := fun _ _ ↦ Nat.zero_le _ }

/-- A client that is bound to no channel is disconnected, and may start to connect. -/
theorem opened (h : s.Sound limit) (lock : Option HomeLock) (hb : s.bound = false) :
    ({ s with lock := lock, bound := true }.changeState .connecting).Sound limit := by
  have hc := h.state_of_unbound hb
  have hi : s.server.isSome = false := by
    cases hv : s.server with
    | none => rfl
    | some i =>
      have hn := h.server_iff.mp (by rw [hv]; rfl)
      rw [hc] at hn
      cases hn
  have hf : s.failures = 0 := h.failures_eq (by simp [hc])
  exact
    { phase_iff := by simp [changeState, enter, hc]
      bound_iff := by simp [changeState, enter, hc]
      server_iff := by simp [changeState, enter, hc, hi]
      lock := by simp [changeState, enter, hc]
      stored_of_connected := by simp [changeState, enter, hc]
      stored_of_phase := by simp [changeState, enter, hc]
      failures_eq := by simp [changeState, enter, hc, hf]
      failures_le := by simp [changeState, enter, hc, hf] }

/-- A client that awaits the decision of the server becomes connected. -/
theorem trusted (h : s.Sound limit) (hp : s.phase = some .awaitingTrustDecision)
    (identity : ServerIdentity) :
    ({ s with server := some identity }.changeState .connected).Sound limit := by
  have hc := h.state_of_phase hp
  have hb := h.bound_iff.mpr (by simp [hc])
  have hs := h.stored_of_phase (.inr (.inr hp))
  have hf : s.failures = 0 := h.failures_eq (by simp [hc])
  exact
    { phase_iff := by simp [changeState, enter, hc]
      bound_iff := by simp [changeState, enter, hc, hb]
      server_iff := by simp [changeState, enter, hc]
      lock := by simp [changeState, enter, hc]
      stored_of_connected := by simp [changeState, enter, hc, hs]
      stored_of_phase := by simp [changeState, enter, hc]
      failures_eq := by simp [changeState, enter, hc, hf]
      failures_le := by simp [changeState, enter, hc, hf] }

theorem after (h : s.Sound limit) {m : Response}
    (hx : Handshake.expects s.state s.phase m = true) : (s.after m).Sound limit := by
  cases m with
  | identify _ _ _ => exact h.withStore.setPhase (fun _ _ ↦ rfl)
  | registerDevice _ _ => exact h.setPhase (fun _ hp ↦ absurd rfl hp)
  | deviceRegistered _ _ => exact h.withStore.setPhase (fun _ _ ↦ rfl)
  | sendPreKeys _ _ => exact h.setPhase_of_stored _
  | resendPreKeys _ => exact h.setPhase_of_stored _
  | startSession => exact h.setPhase_of_stored _
  | sessionFailed _ => exact h.changeState_disconnected
  | isTrusted identity => exact h.trusted (by simpa [Handshake.expects] using hx) identity
  | isUntrusted => exact h.changeState_disconnected
  | keepAlive => exact h
  | feature _ => exact h

/-- A failure that is counted stays within the limit; one that is not ends the connection. -/
theorem failed (h : s.Sound limit) (hk : s.server.isSome = true) :
    (s.failed limit).Sound limit := by
  have hc := h.server_iff.mp hk
  cases hx : Handshake.exceeds (s.failures + 1).toNat limit with
  | some n =>
    rw [failed_of_some hx]
    -- the count is above the limit here, but the connection ends with it
    have hd : ({ s with failures := s.failures + 1 } : Standing).changeState .disconnected =
        s.changeState .disconnected := by
      simp [changeState, enter, hc]
    rw [hd]
    exact h.changeState_disconnected
  | none =>
    rw [failed_of_none hx]
    refine { h with failures_eq := fun hn ↦ absurd hc hn, failures_le := fun l hl ↦ ?_ }
    rw [hl] at hx
    exact Handshake.le_of_exceeds_eq_none hx

/-- Every step keeps the agreement. -/
theorem step {c : Cause} {s' : Standing} (h : s.Sound limit) (hs : Step limit c s s') :
    s'.Sound limit := by
  cases hs with
  | same => exact h
  | refused lock hb => exact h.relock (fun _ ↦ h.bound_iff.mp hb)
  | opened lock hb => exact h.opened lock hb
  | openedWithStore lock hb => exact (h.opened lock hb).withStore
  | heard m _ hx => exact h.cleared.after hx
  | cleared => exact h.cleared
  | failed _ hk => exact h.failed hk
  | left => exact h.changeState_disconnected
  | released => exact h.relock (fun hl ↦ absurd hl (by simp))

end Sound

end Standing

namespace Handshake

variable {S W : Type} (g : Settings S W)

/-- What brings about the step that an operation takes. -/
def cause (h : Handshake S W) : Operation W → Cause
  | .onOpen _ _ => .opening
  | .receive bytes =>
    match heard? g bytes h with
    | some m => .hearing m
    | none => .other
  | _ => .other

theorem cause_of_heard {h : Handshake S W} {bytes : Bytes} {m : Response}
    (hm : heard? g bytes h = some m) : cause g h (.receive bytes) = .hearing m := by
  simp only [cause, hm]

theorem cause_of_not_heard {h : Handshake S W} {bytes : Bytes}
    (hm : heard? g bytes h = none) : cause g h (.receive bytes) = .other := by
  simp only [cause, hm]

theorem step_leave (h : Handshake S W) (limit : Option Nat) :
    Standing.Step limit .other h.standing (leave g h).standing := by
  unfold leave
  split
  · exact .same
  · rw [standing_changeState]
    exact .left

theorem step_onOpen (channel : Nat) (lock : Option HomeLock) (h : Handshake S W) :
    Standing.Step g.refreshLimit .opening h.standing (onOpen g channel lock h).2.standing := by
  cases hb : h.outbound.bound with
  | some b =>
    rw [onOpen_of_bound g channel lock hb]
    have hs : h.standing.bound = true := by simp [Outbound.isBound, hb]
    have ho : (h.outbound.dropSending channel).isBound = h.outbound.isBound := rfl
    have hr : Standing.Step g.refreshLimit .opening h.standing { h.standing with lock := lock } :=
      .refused lock hs
    simpa [standing, ho] using hr
  | none =>
    rw [onOpen_of_unbound g channel lock hb]
    have hs : h.standing.bound = false := by simp [Outbound.isBound, hb]
    rcases standing_introduce g (changeState g .connecting { h with
        lock := lock, outbound := { h.outbound with bound := some channel } }) with hr | hr
    · rw [hr, standing_changeState]
      exact .opened lock hs
    · rw [hr, standing_changeState]
      exact .openedWithStore lock hs

theorem step_receive (bytes : Bytes) (h : Handshake S W) :
    Standing.Step g.refreshLimit (cause g h (.receive bytes)) h.standing
      (receive g bytes h).2.standing := by
  cases hm : heard? g bytes h with
  | some m =>
    rw [cause_of_heard g hm]
    obtain ⟨hc, hx, -⟩ := receive_of_heard g hm
    rcases standing_receive_of_heard g hm with hr | ⟨-, hr⟩
    · rw [hr]
      exact .heard (s := h.standing) m hc hx
    · rw [hr]
      exact .cleared
  | none =>
    rw [cause_of_not_heard g hm]
    rcases standing_receive_of_not_heard g hm with hr | hr | ⟨hc, hk, -, hr⟩
    · rw [hr]
      exact .same
    · rw [hr]
      exact .cleared
    · rw [hr]
      exact .failed (s := h.standing) hc hk

/-- Every operation is a step of the standing, whatever the stores answer. -/
theorem step_perform (h : Handshake S W) (op : Operation W) :
    Standing.Step g.refreshLimit (cause g h op) h.standing (perform g h op).2.standing := by
  cases op with
  | onOpen channel lock => exact step_onOpen g channel lock h
  | receive bytes => exact step_receive g bytes h
  | onClose close =>
    change Standing.Step _ _ _ (onClose g close h).standing
    unfold onClose
    split
    · exact step_leave g (h.emit _) _
    · exact step_leave g h _
  | onFailure => exact step_leave g h _
  | disconnect =>
    simp only [perform, standing_disconnect]
    exact .left
  | fail message =>
    simp only [perform, standing_fail]
    exact .left
  | saveOnShutdown =>
    change Standing.Step _ _ _ (saveOnShutdown g h).standing
    unfold saveOnShutdown
    split <;> exact .released
  | startSession serverId =>
    simp only [perform, standing_startSession]
    exact .same
  | send r =>
    simp only [perform, standing_send]
    exact .same
  | sendKeepalive identity =>
    simp only [perform, standing_sendKeepalive]
    exact .same
  | takeEnvelope channel =>
    have ho : (((h.outbound.take? channel).map (·.2)).getD h.outbound).isBound =
        h.outbound.isBound := by
      unfold Outbound.take?
      split <;> rfl
    simp only [perform, withOutbound, standing, ho]
    exact .same
  | _ => exact .same

theorem sound_start (limit : Option Nat) (world : W) :
    (start world : Handshake S W).standing.Sound limit where
  phase_iff := by simp [start]
  bound_iff := by simp [start, Outbound.isBound]
  server_iff := by simp [start]
  lock := by simp [start, standing]
  stored_of_connected := by simp [start]
  stored_of_phase := by simp [start]
  failures_eq := fun _ ↦ rfl
  failures_le := fun _ _ ↦ Nat.zero_le _

/-- The standing after every run is sound. -/
theorem sound_run (world : W) (ops : List (Operation W)) :
    (run g (start world) ops).standing.Sound g.refreshLimit :=
  run_induction g (P := fun h ↦ h.standing.Sound g.refreshLimit) (sound_start _ world)
    (fun h op hs ↦ hs.step (step_perform g h op)) ops

/-- What holds at the start and is kept by every operation of a sound handshake holds of every run
and its history. -/
theorem sound_history_induction {P : List (Moment S W) → Handshake S W → Prop} (world : W)
    (base : P [] (start world))
    (step : ∀ past h op, h.standing.Sound g.refreshLimit → P past h →
      P (past ++ [moment g h op]) (perform g h op).2)
    (ops : List (Operation W)) : P (history g (start world) ops) (run g (start world) ops) :=
  (history_induction g (P := fun past h ↦ h.standing.Sound g.refreshLimit ∧ P past h)
    ⟨sound_start _ world, base⟩
    (fun past h op hp ↦ ⟨hp.1.step (step_perform g h op), step past h op hp.1 hp.2⟩) ops).2

/-- After every operation of every run, the fields of the handshake agree with each other. -/
theorem fields_agree_run (world : W) (ops : List (Operation W)) :
    let h : Handshake S W := run g (start world) ops
    (h.phase.isSome ↔ h.state = .connecting) ∧
    (h.outbound.isBound = true ↔ h.state ≠ .disconnected) ∧
    (h.serverIdentity.isSome ↔ h.state = .connected) ∧
    (h.lock.isSome → h.state ≠ .disconnected) ∧
    (h.state = .connected ∨ h.phase = some .awaitingPreKeyAck ∨
      h.phase = some .awaitingSessionStart ∨ h.phase = some .awaitingTrustDecision →
        h.store.isSome) ∧
    (h.state ≠ .connected → h.cipherFailures = 0) ∧
    ∀ limit, g.refreshLimit = some limit → h.cipherFailures.toNat ≤ limit := by
  intro h
  have hs : h.standing.Sound g.refreshLimit := sound_run g world ops
  refine ⟨hs.phase_iff, hs.bound_iff, hs.server_iff, hs.lock, ?_, hs.failures_eq, hs.failures_le⟩
  rintro (hc | hp)
  · exact hs.stored_of_connected hc
  · exact hs.stored_of_phase hp

end Handshake

end SealedSession
