import SealedSession.Proofs.Handshake.Run

/-!
# Where a client stands

What a handshake accepts and what it does next depends on a few of its fields only: the state and
the phase, whether a channel is bound and a store present, the identity of the server, the lock,
and the count of failures. These are its `Standing`. The queues, the events and the stores
themselves move on beside it.

A standing is a small state machine of its own. `Standing.after` says where an accepted response
leads, `Standing.changeState` what a change of state does; the lemmas below say that the handshake
follows them, whatever its stores answer. A handler that fails either has led there already or
has not moved at all.
-/

namespace SealedSession

/-- What of a handshake decides what it accepts. -/
structure Standing where
  state : ConnectionState
  phase : Option Phase
  bound : Bool
  stored : Bool
  server : Option ServerIdentity
  lock : Option HomeLock
  failures : UInt32
deriving DecidableEq

namespace Standing

def setPhase (p : Phase) (s : Standing) : Standing :=
  if s.state = .connecting then { s with phase := some p } else s

@[simp] theorem state_setPhase (p : Phase) (s : Standing) : (s.setPhase p).state = s.state := by
  unfold setPhase
  split <;> rfl

theorem state_setPhase_of_stored (p : Phase) (s : Standing) :
    (if s.stored then s.setPhase p else s).state = s.state := by
  split
  · exact state_setPhase p s
  · rfl

@[simp] theorem server_setPhase (p : Phase) (s : Standing) : (s.setPhase p).server = s.server := by
  unfold setPhase
  split <;> rfl

/-- A standing in a state that differs from the present one. -/
def enter (next : ConnectionState) (s : Standing) : Standing :=
  match next with
  | .connecting => { s with state := .connecting, phase := some .awaitingIdentity }
  | .connected => { s with state := .connected, phase := none }
  | .disconnected =>
    { s with state := .disconnected, phase := none, bound := false, server := none, failures := 0 }

def changeState (next : ConnectionState) (s : Standing) : Standing :=
  let s := if s.state = next then s else s.enter next
  if next = .disconnected then { s with lock := none } else s

@[simp] theorem state_changeState (next : ConnectionState) (s : Standing) :
    (s.changeState next).state = next := by
  unfold changeState
  by_cases hc : s.state = next
  · rw [if_pos hc]
    split <;> exact hc
  · rw [if_neg hc]
    cases next <;> rfl

/-- Where an accepted response leads. -/
def after (s : Standing) : Response → Standing
  | .identify _ _ _ => { s with stored := true }.setPhase .awaitingSessionStart
  | .registerDevice _ _ => s.setPhase .awaitingDeviceApproval
  | .deviceRegistered _ _ => { s with stored := true }.setPhase .awaitingPreKeyAck
  | .sendPreKeys _ _ => if s.stored then s.setPhase .awaitingSessionStart else s
  | .resendPreKeys _ => if s.stored then s.setPhase .awaitingPreKeyAck else s
  | .startSession => if s.stored then s.setPhase .awaitingTrustDecision else s
  | .sessionFailed _ | .isUntrusted => s.changeState .disconnected
  | .isTrusted identity => { s with server := some identity }.changeState .connected
  | .keepAlive | .feature _ => s

/-- Where a failure to decrypt leads. -/
def failed (limit : Option Nat) (s : Standing) : Standing :=
  let s := { s with failures := s.failures + 1 }
  match Handshake.exceeds s.failures.toNat limit with
  | some _ => s.changeState .disconnected
  | none => s

theorem failed_of_some {s : Standing} {limit : Option Nat} {n : Nat}
    (h : Handshake.exceeds (s.failures + 1).toNat limit = some n) :
    s.failed limit = { s with failures := s.failures + 1 }.changeState .disconnected := by
  simp only [failed, h]

theorem failed_of_none {s : Standing} {limit : Option Nat}
    (h : Handshake.exceeds (s.failures + 1).toNat limit = none) :
    s.failed limit = { s with failures := s.failures + 1 } := by
  simp only [failed, h]

/-- Of the responses that are accepted, two end the connection. -/
theorem ends_of_after {s : Standing} {m : Response} (hc : s.state ≠ .disconnected)
    (ha : (s.after m).state = .disconnected) :
    (∃ failure, m = .sessionFailed failure) ∨ m = .isUntrusted := by
  have kept {t : Standing} (ht : t.state = s.state) (hd : t.state = .disconnected) : False :=
    hc (ht.symm.trans hd)
  cases m with
  | sessionFailed failure => exact .inl ⟨failure, rfl⟩
  | isUntrusted => exact .inr rfl
  | isTrusted identity => cases (state_changeState .connected _).symm.trans ha
  | sendPreKeys _ _ | resendPreKeys _ | startSession =>
    exact (kept (state_setPhase_of_stored _ s) ha).elim
  | registerDevice _ _ => exact (kept (state_setPhase _ s) ha).elim
  | identify _ _ _ | deviceRegistered _ _ =>
    exact (kept (state_setPhase _ { s with stored := true }) ha).elim
  | keepAlive | feature _ => exact absurd ha hc

/-- A failure to decrypt ends the connection only if it is one more than the limit allows. -/
theorem exceeded_of_failed {s : Standing} {limit : Option Nat} (hc : s.state ≠ .disconnected)
    (hf : (s.failed limit).state = .disconnected) :
    ∃ n, limit = some n ∧ n < (s.failures + 1).toNat := by
  cases limit with
  | none => exact absurd hf hc
  | some n =>
    by_cases hn : n < (s.failures + 1).toNat
    · exact ⟨n, rfl, hn⟩
    · have hx : Handshake.exceeds (s.failures + 1).toNat (some n) = none := if_neg hn
      rw [failed_of_none hx] at hf
      exact absurd hf hc

end Standing

namespace Handshake

variable {S W : Type} (g : Settings S W)

/-- Where the client of a handshake stands. -/
def standing (h : Handshake S W) : Standing where
  state := h.state
  phase := h.phase
  bound := h.outbound.isBound
  stored := h.store.isSome
  server := h.serverIdentity
  lock := h.lock
  failures := h.cipherFailures

section Fields

variable (h : Handshake S W)

@[simp] theorem state_standing : h.standing.state = h.state := rfl
@[simp] theorem phase_standing : h.standing.phase = h.phase := rfl
@[simp] theorem bound_standing : h.standing.bound = h.outbound.isBound := rfl
@[simp] theorem stored_standing : h.standing.stored = h.store.isSome := rfl
@[simp] theorem server_standing : h.standing.server = h.serverIdentity := rfl
@[simp] theorem standing_inWorld (w : W) : (h.inWorld w).standing = h.standing := rfl
@[simp] theorem standing_emit (e : Event) : (h.emit e).standing = h.standing := rfl

@[simp] theorem standing_keepStore (s : S) :
    (keepStore s h).standing = { h.standing with stored := true } := rfl

@[simp] theorem standing_countFailure :
    h.countFailure.standing = { h.standing with failures := h.standing.failures + 1 } := rfl

@[simp] theorem standing_setPhase (p : Phase) :
    (h.setPhase p).standing = h.standing.setPhase p := by
  unfold setPhase Standing.setPhase
  by_cases hc : h.state = .connecting
  · rw [if_pos hc, if_pos (show h.standing.state = _ from hc)]
    rfl
  · rw [if_neg hc, if_neg (show ¬h.standing.state = _ from hc)]

/-- Keeping another store in place of one changes nothing about the standing. -/
theorem standing_keepStore_of_some {h : Handshake S W} {s : S} (hs : h.store = some s) (t : S) :
    (keepStore t h).standing = h.standing := by
  simp [standing, keepStore, hs]

theorem standing_settleStore : (settleStore g h).standing = h.standing := by
  unfold settleStore
  cases hs : h.store with
  | none => rfl
  | some s => simp [standing, hs]

theorem standing_teardown : (teardown g h).standing =
    { h.standing with bound := false, server := none, failures := 0 } := by
  rw [teardown, standing_settleStore]
  simp [standing]

theorem standing_enter (next : ConnectionState) :
    (enter g next h).standing = h.standing.enter next := by
  cases next with
  | disconnected =>
    simp only [enter, reduceCtorEq, if_false, if_true, standing_emit, standing_teardown]
    rfl
  | connecting => rfl
  | connected => rfl

@[simp] theorem standing_changeState (next : ConnectionState) :
    (changeState g next h).standing = h.standing.changeState next := by
  unfold changeState Standing.changeState
  have hn : (if h.state = next then h else enter g next h).standing =
      if h.standing.state = next then h.standing else h.standing.enter next := by
    by_cases hc : h.state = next
    · rw [if_pos hc, if_pos (show h.standing.state = next from hc)]
    · rw [if_neg hc, if_neg (show ¬h.standing.state = next from hc), standing_enter]
  rw [← hn]
  by_cases hd : next = .disconnected
  · rw [if_pos hd, if_pos hd]
    rfl
  · rw [if_neg hd, if_neg hd]

@[simp] theorem state_changeState (next : ConnectionState) :
    (changeState g next h).state = next := by
  rw [← state_standing, standing_changeState, Standing.state_changeState]

@[simp] theorem standing_fail (message : String) :
    (fail g message h).standing = h.standing.changeState .disconnected := by
  rw [fail, standing_changeState, standing_emit]

@[simp] theorem standing_disconnect :
    (disconnect g h).standing = h.standing.changeState .disconnected := standing_changeState g h _

end Fields

/-! ## Sending and opening -/

@[simp] theorem standing_sendRequest (r : Request) (h : Handshake S W) :
    (sendRequest g r h).2.standing = h.standing := by
  obtain ⟨w, ⟨bytes, -, -, hr⟩ | ⟨-, hr⟩ | ⟨e, hr⟩⟩ := sendRequest_cases g r h
  · rw [hr]
    simp [standing, Outbound.isBound, inWorld]
  · rw [hr]
    rfl
  · rw [hr]
    rfl

theorem standing_announce (i : Identity) (x : Except ClientError Unit × Handshake S W) :
    (announce i x).2.standing = x.2.standing := by
  rcases x with ⟨_ | _, h⟩ <;> rfl

@[simp] theorem standing_startSession (serverId : Option String) (h : Handshake S W) :
    (startSession g serverId h).2.standing = h.standing := by
  by_cases hc : h.state = .connecting
  · cases hs : h.store with
    | none => rw [startSession_of_none g serverId hc hs]
    | some s =>
      rw [startSession_of_some g serverId hc hs, standing_announce, standing_sendRequest,
        standing_inWorld]
  · rw [startSession_of_ne g serverId hc]

@[simp] theorem standing_send (r : Request) (h : Handshake S W) :
    (send g r h).2.standing = h.standing := by
  by_cases hc : h.state = .connected
  · rw [send_of_connected g r hc, standing_sendRequest]
  · rw [send_of_ne g r hc]

@[simp] theorem standing_sendKeepalive (identity : Option Identity) (h : Handshake S W) :
    (sendKeepalive g identity h).2.standing = h.standing := standing_sendRequest g _ h

/-- Introducing itself, a client may find a store. -/
theorem standing_introduce (h : Handshake S W) :
    (introduce g h).2.standing = h.standing ∨
      (introduce g h).2.standing = { h.standing with stored := true } := by
  rcases introduce_cases g h with ⟨e, w, hr⟩ | ⟨w, hr⟩ | ⟨s, w, -, hr⟩ | ⟨s, i, t, w, -, hr⟩
  · exact .inl (by rw [hr]; rfl)
  · exact .inl (by rw [hr, standing_sendRequest]; rfl)
  · exact .inr (by rw [hr, standing_sendRequest]; rfl)
  · exact .inr (by rw [hr, standing_sendRequest]; rfl)

/-! ## Receiving -/

theorem standing_welcome (key secret : Bytes) (h : Handshake S W) :
    (welcome g key secret h).2.standing = h.standing := by
  unfold welcome
  by_cases hm : g.session.mode = .verified
  · rw [if_pos hm]
    rfl
  · rw [if_neg hm, standing_startSession]

/-- A handler leads where its response does, or fails without having moved. -/
theorem standing_handle (m : Response) (h : Handshake S W) :
    (handle g m h).2.standing = h.standing.after m ∨
      (∃ e, (handle g m h).1 = .error e) ∧ (handle g m h).2.standing = h.standing := by
  cases m with
  | identify profile key secret =>
    rcases onIdentify_cases g profile key secret h with ⟨-, e, w, hr⟩ | ⟨s, w, -, hr⟩
    · exact .inr ⟨⟨e, by rw [handle, hr]⟩, by rw [handle, hr]; rfl⟩
    · refine .inl ?_
      rw [handle, hr, standing_welcome, standing_setPhase, standing_inWorld, standing_keepStore]
      rfl
  | registerDevice url token =>
    refine .inl ?_
    change (((h.setPhase .awaitingDeviceApproval).emit _).emit _).standing = _
    rw [standing_emit, standing_emit, standing_setPhase]
    rfl
  | deviceRegistered profile device =>
    rcases onDeviceRegistered_cases g profile device h with ⟨e, w, hr⟩ | ⟨s, w, o, -, hr⟩
    · exact .inr ⟨⟨e, by rw [handle, hr]⟩, by rw [handle, hr]; rfl⟩
    · refine .inl ?_
      rw [handle, hr, standing_sendRequest, standing_setPhase, standing_inWorld,
        standing_keepStore]
      rfl
  | sendPreKeys identity bundle =>
    rcases onSendPreKeys_cases g identity bundle h with ⟨-, hr⟩ |
      ⟨s, t, w, ⟨hs, -⟩, ⟨e, hr⟩ | ⟨hc, hr⟩ | ⟨hc, i, k, -, hr⟩⟩
    · exact .inr ⟨⟨_, by rw [handle, hr]⟩, by rw [handle, hr]⟩
    · refine .inr ⟨⟨e, by rw [handle, hr]⟩, ?_⟩
      rw [handle, hr, standing_inWorld, standing_keepStore_of_some hs]
    · refine .inl ?_
      rw [handle, hr, standing_inWorld, standing_keepStore_of_some hs]
      simp [Standing.after, Standing.setPhase, hc]
    · refine .inl ?_
      rw [handle, hr, standing_sendRequest, standing_setPhase, standing_inWorld,
        standing_keepStore_of_some hs]
      simp [Standing.after, hs]
  | resendPreKeys target =>
    rcases onResendPreKeys_cases g target h with ⟨-, hr⟩ | ⟨s, t, w, ⟨hs, -⟩, ⟨e, hr⟩ | ⟨o, -, hr⟩⟩
    · exact .inr ⟨⟨_, by rw [handle, hr]⟩, by rw [handle, hr]⟩
    · refine .inr ⟨⟨e, by rw [handle, hr]⟩, ?_⟩
      rw [handle, hr, standing_inWorld, standing_keepStore_of_some hs]
    · refine .inl ?_
      rw [handle, hr, standing_sendRequest, standing_setPhase, standing_inWorld,
        standing_keepStore_of_some hs]
      simp [Standing.after, hs]
  | startSession =>
    cases hs : h.store with
    | none =>
      exact .inr ⟨⟨_, by rw [handle, onSessionStarted_of_none g hs]⟩,
        by rw [handle, onSessionStarted_of_none g hs]⟩
    | some s =>
      refine .inl ?_
      rw [handle, onSessionStarted_of_some g hs, standing_sendRequest, standing_setPhase,
        standing_inWorld]
      simp [Standing.after, hs]
  | sessionFailed failure =>
    refine .inl ?_
    change (onSessionFailed g failure h).standing = _
    unfold onSessionFailed
    split <;> rw [standing_changeState] <;> rfl
  | isTrusted identity =>
    refine .inl ?_
    change (changeState g .connected { h with serverIdentity := some identity }).standing = _
    rw [standing_changeState]
    rfl
  | isUntrusted =>
    refine .inl ?_
    change ((changeState g .disconnected h).emit _).standing = _
    rw [standing_emit, standing_changeState]
    rfl
  | keepAlive => exact .inl rfl
  | feature message => exact .inl rfl

theorem standing_recoverCipher {h : Handshake S W} {s : S} (hs : h.store = some s) :
    (recoverCipher g h).2.standing = h.standing.failed g.refreshLimit := by
  rcases recoverCipher_cases g hs with ⟨limit, hx, hr⟩ | ⟨hx, ⟨e, t, w, -, hr⟩ | ⟨o, t, w, -, hr⟩⟩
  · rw [Standing.failed_of_some (s := h.standing) hx, hr, standing_fail, standing_countFailure]
  · rw [Standing.failed_of_none (s := h.standing) hx, hr, standing_inWorld,
      standing_keepStore_of_some (h := h.countFailure) hs, standing_countFailure]
  · rw [Standing.failed_of_none (s := h.standing) hx, hr, standing_sendRequest, standing_inWorld,
      standing_keepStore_of_some (h := h.countFailure) hs, standing_countFailure]

theorem standing_listening (h : Handshake S W) :
    (listening g h).standing = { h.standing with failures := 0 } := by
  obtain ⟨w, hw⟩ := snd_cipher? g h
  rw [listening, hw]
  rfl

/-- An envelope that brings an accepted response leads where the response does. -/
theorem standing_receive_of_heard {h : Handshake S W} {bytes : Bytes} {m : Response}
    (hm : heard? g bytes h = some m) :
    (receive g bytes h).2.standing = { h.standing with failures := 0 }.after m ∨
      (∃ e, (receive g bytes h).1 = .error e) ∧
        (receive g bytes h).2.standing = { h.standing with failures := 0 } := by
  obtain ⟨hc, hx, hr⟩ := receive_of_heard g hm
  rw [hr, ← standing_listening g h]
  exact standing_handle g m _

/-- Any other envelope leaves the client where it stands, but for the count of failures; only when
an envelope of the server could not be decrypted may that end the connection. -/
theorem standing_receive_of_not_heard {h : Handshake S W} {bytes : Bytes}
    (hm : heard? g bytes h = none) :
    (receive g bytes h).2.standing = h.standing ∨
    (receive g bytes h).2.standing = { h.standing with failures := 0 } ∨
    (h.state ≠ .disconnected ∧ h.serverIdentity.isSome ∧
      (∃ e, reading g bytes h = .error (.cipher e)) ∧
      (receive g bytes h).2.standing = h.standing.failed g.refreshLimit) := by
  obtain ⟨w, hw⟩ := snd_cipher? g h
  rcases receive_of_not_heard g hm with hr | hr | ⟨e, hr⟩ | hr | ⟨hc, hs, hi, unread, hr⟩
  · exact .inl (by rw [hr])
  · exact .inl (by rw [hr, hw]; rfl)
  · exact .inl (by rw [hr, hw]; rfl)
  · exact .inr (.inl (by rw [hr]; exact standing_listening g h))
  · refine .inr (.inr ⟨hc, hi, unread, ?_⟩)
    obtain ⟨s, hs⟩ := Option.isSome_iff_exists.mp hs
    rw [hr, hw]
    exact standing_recoverCipher g (h := h.inWorld w) hs

end Handshake

end SealedSession
