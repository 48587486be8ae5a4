import SealedSession.Proofs.Envelope.RoundTrip
import SealedSession.Proofs.Handshake.Course
import SealedSession.Proofs.Handshake.Invariant

/-!
# Operations that fail

An operation may fail at many points: a store refuses, a request does not fit its envelope, a cipher
gives up, the writer of the channel is gone. The client keeps what it did until then, but sending is
always what it does last, and so nobody else can tell a failed operation from none at all.

Four of the errors guard against states that a client should not reach. A client that is connected
has a store and knows its server, and one that is not disconnected is bound to a channel; this rules
them out, but for what a server may bring about and what a probe meets after the end.

* `FailsIdle`: a failure changes nothing but the world.
* `failures_unnoticed`: what every failed operation leaves as it was.
* `Equipped`: what a connected client has.
* `defensive_errors`: where each of the four errors can be met, after every run.
-/

namespace SealedSession

namespace Outbound

/-- What is not queued has no channel, or nobody to take it from there. -/
theorem error_of_send {o : Outbound} {bytes : Bytes} {e : ClientError}
    (h : (o.send bytes).2 = .error e) :
    e = .notConnected ∨ o.bound = none ∧ e = .senderUnbound := by
  unfold send at h
  split at h
  · next hb =>
    cases h
    exact .inr ⟨hb, rfl⟩
  · split at h
    · split at h
      · cases h
      · cases h
        exact .inl rfl
    · cases h
      exact .inl rfl

end Outbound

/-- Whether an error guards against what a client should not come to. -/
def ClientError.isDefensive : ClientError → Bool
  | .senderUnbound | .identityNotEstablished => true
  | .envelope .noCipher | .envelope .missingRecipient => true
  | _ => false

theorem ClientError.isDefensive_of_isMalformed {e : EnvelopeError} (h : e.isMalformed = true) :
    (ClientError.envelope e).isDefensive = false := by
  cases e with
  | noCipher | missingRecipient => cases h
  | _ => rfl

namespace Handshake

variable {S W : Type} (g : Settings S W)

/-! ## What a failure leaves behind -/

/-- If this fails, it changes nothing but the world. -/
def FailsIdle (x : Try S W Unit) (h : Handshake S W) : Prop :=
  ∀ e, (x h).1 = .error e → ∃ w, (x h).2 = h.inWorld w

theorem failsIdle_sendRequest (r : Request) (h : Handshake S W) :
    FailsIdle (sendRequest g r) h := by
  intro e he
  rw [sendRequest_of_error he]
  exact snd_cipher? g h

theorem failsIdle_startSession (serverId : Option String) (h : Handshake S W) :
    FailsIdle (startSession g serverId) h := by
  intro e he
  by_cases hc : h.state = .connecting
  · cases hs : h.store with
    | none =>
      rw [startSession_of_none g serverId hc hs]
      exact ⟨h.world, rfl⟩
    | some s =>
      rw [startSession_of_some g serverId hc hs] at he ⊢
      rw [fst_announce] at he
      rw [announce_of_error he]
      obtain ⟨w, hw⟩ := failsIdle_sendRequest g _ _ e he
      exact ⟨w, hw⟩
  · rw [startSession_of_ne g serverId hc]
    exact ⟨h.world, rfl⟩

theorem failsIdle_send (r : Request) (h : Handshake S W) : FailsIdle (send g r) h := by
  intro e he
  by_cases hc : h.state = .connected
  · rw [send_of_connected g r hc] at he ⊢
    exact failsIdle_sendRequest g r h e he
  · rw [send_of_ne g r hc]
    exact ⟨h.world, rfl⟩

section Course

variable {g} {requests : Request → Prop} {obstacles : ClientError → Prop} {silence : Prop}
  {h : Handshake S W} {x : Except ClientError Unit × Handshake S W} {e : ClientError}

/-- A course that fails has met an obstacle, or its request could not be sent. -/
theorem Course.of_error (hx : Course g requests obstacles silence h x) (he : x.1 = .error e) :
    (obstacles e ∧ Unmoved h x.2) ∨
      ∃ r k, requests r ∧ Unmoved h k ∧ (sendRequest g r k).1 = .error e ∧
        x.2 = (sendRequest g r k).2 := by
  cases hx with
  | failed obstacle unmoved =>
    cases he
    exact .inl ⟨obstacle, unmoved⟩
  | sent due unmoved => exact .inr ⟨_, _, due, unmoved, he, rfl⟩
  | announced i due connecting unmoved =>
    rw [fst_announce] at he
    rw [announce_of_error he]
    exact .inr ⟨_, _, due, unmoved, he, rfl⟩
  | quiet silent outbound => cases he

/-- Nothing that others could see comes of a course that fails. -/
theorem Course.unmoved_of_error (hx : Course g requests obstacles silence h x)
    (he : x.1 = .error e) : Unmoved h x.2 := by
  obtain ⟨-, hu⟩ | ⟨r, k, -, hk, hr, hs⟩ := hx.of_error he
  · exact hu
  · obtain ⟨w, hw⟩ := failsIdle_sendRequest g r k e hr
    rw [hs, hw]
    exact hk.inWorld w

end Course

/-- An envelope that is not understood changes nothing but the world. -/
theorem receive_of_unread {h : Handshake S W} {bytes : Bytes} {x : EnvelopeError}
    (hc : h.state ≠ .disconnected) (hr : reading g bytes h = .error x) (hx : x.asCipher = none) :
    receive g bytes h = (.error (.envelope x), (cipher? g h).2) := by
  rw [receive_eq g bytes hc, hr]
  cases x with
  | cipher c => cases hx
  | _ => rfl

/-- Whenever an envelope is received and the operation fails, nothing was queued or reported, and the
client is as much connected, and bound to the same channel, server and lock, as before. If it fails
because the envelope is not understood, nothing changes but the world; nor does it when a request of
the client's own accord fails. -/
theorem failures_unnoticed (h : Handshake S W) :
    (∀ bytes e, (receive g bytes h).1 = .error e →
      Unmoved h (receive g bytes h).2 ∧
      ∀ x, reading g bytes h = .error x → x.asCipher = none →
        e = .envelope x ∧ ∃ w, (receive g bytes h).2 = h.inWorld w) ∧
    (∀ serverId, FailsIdle (startSession g serverId) h) ∧
    (∀ r, FailsIdle (send g r) h) ∧
    ∀ identity, FailsIdle (sendKeepalive g identity) h := by
  refine ⟨fun bytes e he ↦ ⟨(course_receive g bytes h).unmoved_of_error he, ?_⟩,
    fun serverId ↦ failsIdle_startSession g serverId h, fun r ↦ failsIdle_send g r h,
    fun identity ↦ failsIdle_sendRequest g _ h⟩
  intro x hr hx
  have hc : h.state ≠ .disconnected := by
    intro hc
    rw [receive_of_disconnected g bytes hc] at he
    cases he
  rw [receive_of_unread g hc hr hx] at he ⊢
  cases he
  exact ⟨rfl, snd_cipher? g h⟩

/-! ## Errors that are ruled out -/

/-- Once connected, a client has a store and knows its server. -/
def Equipped (h : Handshake S W) : Prop :=
  h.state = .connected → h.store.isSome ∧ h.serverIdentity.isSome

theorem equipped_of_sound {h : Handshake S W} {limit : Option Nat}
    (hs : h.standing.Sound limit) : Equipped h :=
  fun hc ↦ ⟨hs.stored_of_connected hc, hs.server_iff.mpr hc⟩

theorem Unmoved.equipped {h k : Handshake S W} (hk : Unmoved h k) (he : Equipped h) :
    Equipped k := by
  intro hc
  obtain ⟨hs, hi⟩ := he (hk.state ▸ hc)
  exact ⟨hk.stored hs, hk.server ▸ hi⟩

section Sending

variable {g} {r : Request} {h : Handshake S W}

/-- An equipped client lacks nothing to make an envelope. -/
theorem Equipped.envelope_error {x : EnvelopeError} (hq : Equipped h)
    (hx : envelope g r h = .error x) : (ClientError.envelope x).isDefensive = false := by
  by_cases hc : h.state = .connected
  · obtain ⟨hs, hi⟩ := hq hc
    rw [← isSome_fst_cipher? g] at hs
    obtain ⟨c, hs⟩ := Option.isSome_iff_exists.mp hs
    obtain ⟨server, hi⟩ := Option.isSome_iff_exists.mp hi
    rw [envelope_of_connected g r hc, hs, hi] at hx
    obtain hm | ⟨c, rfl⟩ := Envelope.encodeFor_error hx
    · exact ClientError.isDefensive_of_isMalformed hm
    · rfl
  · rw [envelope_of_ne g r hc] at hx
    exact ClientError.isDefensive_of_isMalformed (Envelope.isMalformed_of_write hx)

/-- So the only such error that sending may meet is that there is no channel. -/
theorem Equipped.of_sendRequest {e : ClientError} (hq : Equipped h)
    (he : (sendRequest g r h).1 = .error e) (hd : e.isDefensive = true) :
    e = .senderUnbound ∧ h.outbound.bound = none := by
  obtain ⟨x, hx, rfl⟩ | ⟨bytes, hs⟩ := obstacle_of_sendRequest he
  · rw [hq.envelope_error hx] at hd
    cases hd
  · obtain rfl | ⟨hb, rfl⟩ := Outbound.error_of_send hs
    · cases hd
    · exact ⟨rfl, hb⟩

end Sending

/-- Only once the handshake has come that far, or is over, is a response accepted that needs a
store; that the server wants other prekeys may be said at any time. -/
theorem isResend_of_needsStore {h : Handshake S W} {limit : Option Nat}
    (hs : h.standing.Sound limit) {m : Response} (hx : expects h.state h.phase m = true)
    (hn : m.needsStore = true) (hm : h.store = none) : ∃ target, m = .resendPreKeys target := by
  have hst : ¬h.standing.stored = true := by simp [hm]
  cases m with
  | resendPreKeys target => exact ⟨target, rfl⟩
  | sendPreKeys identity bundle =>
    simp only [expects, Bool.or_eq_true, decide_eq_true_eq] at hx
    rcases hx with hp | hc
    · exact absurd (hs.stored_of_phase (.inl hp)) hst
    · exact absurd (hs.stored_of_connected hc) hst
  | startSession =>
    simp only [expects, decide_eq_true_eq] at hx
    exact absurd (hs.stored_of_phase (.inr (.inl hx))) hst
  | _ => cases hn

theorem bound_ne_none {h : Handshake S W} {limit : Option Nat} (hs : h.standing.Sound limit)
    (hc : h.state ≠ .disconnected) : h.outbound.bound ≠ none := by
  intro hb
  have bound := hs.bound_iff.mpr hc
  rw [bound_standing, Outbound.isBound, hb] at bound
  cases bound

theorem reading_eq_noCipher_iff {bytes : Bytes} {h : Handshake S W} :
    reading g bytes h = .error .noCipher ↔
      h.store = none ∧ bytes.length ≤ 32767 ∧
        Envelope.peekMode bytes = .ok (some .encrypted) := by
  have hn : (cipher? g h).1 = none ↔ h.store = none := by
    rw [← Option.not_isSome_iff_eq_none, isSome_fst_cipher?, Option.not_isSome_iff_eq_none]
  rw [reading, Envelope.decode_eq_noCipher_iff, hn]
  rfl

/-- What an envelope may bring a client to that has no store yet. -/
theorem receive_defensive {h : Handshake S W} {limit : Option Nat} (hs : h.standing.Sound limit)
    {bytes : Bytes} {e : ClientError} (he : (receive g bytes h).1 = .error e)
    (hd : e.isDefensive = true) :
    (e = .identityNotEstablished ∧ h.store = none ∧
      ∃ target, heard? g bytes h = some (.resendPreKeys target)) ∨
    (e = .envelope .noCipher ∧ h.state ≠ .disconnected ∧ reading g bytes h = .error .noCipher) := by
  have hc : h.state ≠ .disconnected := by
    intro hc
    rw [receive_of_disconnected g bytes hc] at he
    cases he
  obtain ⟨ho, -⟩ | ⟨r, k, -, hk, hr, -⟩ := (course_receive g bytes h).of_error he
  · cases ho with
    | @unreadable x unread uncaused =>
      obtain hm | ⟨-, hu⟩ := Envelope.decode_error unread
      · rw [ClientError.isDefensive_of_isMalformed hm] at hd
        cases hd
      · cases hu with
        | noCipher missing => exact .inr ⟨rfl, hc, unread⟩
        | cipher present known x => cases uncaused
    | denied heard denied => cases hd
    | unmended unread unmended =>
      cases unmended
      cases hd
    | @missing m heard needs missing =>
      obtain ⟨-, hx, -⟩ := receive_of_heard g heard
      obtain ⟨target, rfl⟩ := isResend_of_needsStore hs hx needs missing
      exact .inl ⟨rfl, missing, target, heard⟩
    | idle heard idle => cases hd
  · obtain ⟨-, hb⟩ := (hk.equipped (equipped_of_sound hs)).of_sendRequest hr hd
    rw [hk.outbound] at hb
    exact absurd hb (bound_ne_none hs hc)

/-- After every run, the four errors are met only where a client cannot help it. Receiving, it lacks
an identity exactly when it is asked for prekeys while it has no store, and a cipher exactly when it
gets an encrypted envelope while it has no store; it never lacks a recipient or a channel. Sending a
request, it lacks nothing. Starting the session, it may lack an identity, and only when it has no
store. A probe lacks nothing but the channel, and that only when the client is disconnected. -/
theorem defensive_errors (world : W) (ops : List (Operation W)) :
    let h : Handshake S W := run g (start world) ops
    (∀ bytes,
      ((receive g bytes h).1 = .error .identityNotEstablished ↔
        h.store = none ∧ ∃ target, heard? g bytes h = some (.resendPreKeys target)) ∧
      ((receive g bytes h).1 = .error (.envelope .noCipher) ↔
        h.state ≠ .disconnected ∧ h.store = none ∧ bytes.length ≤ 32767 ∧
          Envelope.peekMode bytes = .ok (some .encrypted)) ∧
      (receive g bytes h).1 ≠ .error (.envelope .missingRecipient) ∧
      (receive g bytes h).1 ≠ .error .senderUnbound) ∧
    (∀ r e, (send g r h).1 = .error e → e.isDefensive = false) ∧
    (∀ serverId e, (startSession g serverId h).1 = .error e → e.isDefensive = true →
      e = .identityNotEstablished ∧ h.store = none) ∧
    ∀ identity e, (sendKeepalive g identity h).1 = .error e → e.isDefensive = true →
      e = .senderUnbound ∧ h.state = .disconnected := by
  intro h
  have hs : h.standing.Sound g.refreshLimit := sound_run g world ops
  have hq := equipped_of_sound hs
  refine ⟨fun bytes ↦ ?_, ?_, ?_, ?_⟩
  · have received {e : ClientError} (he : (receive g bytes h).1 = .error e)
        (hd : e.isDefensive = true) := receive_defensive g hs he hd
    refine ⟨⟨fun he ↦ ?_, fun ⟨hn, target, hm⟩ ↦ ?_⟩, ⟨fun he ↦ ?_, fun ⟨hc, hr⟩ ↦ ?_⟩,
      fun he ↦ ?_, fun he ↦ ?_⟩
    · obtain ⟨-, ht⟩ | ⟨hf, -⟩ := received he rfl
      · exact ht
      · cases hf
    · obtain ⟨w, hw⟩ := snd_cipher? g h
      have hl : (listening g h).store = none := by
        rw [listening, hw]
        exact hn
      obtain ⟨-, -, hr⟩ := receive_of_heard g hm
      rw [hr, handle, onResendPreKeys_of_none g hl]
    · obtain ⟨hf, -⟩ | ⟨-, hc, hr⟩ := received he rfl
      · cases hf
      · exact ⟨hc, (reading_eq_noCipher_iff g).mp hr⟩
    · rw [receive_of_unread g hc ((reading_eq_noCipher_iff g).mpr hr) rfl]
    · obtain ⟨hf, -⟩ | ⟨hf, -⟩ := received he rfl <;> cases hf
    · obtain ⟨hf, -⟩ | ⟨hf, -⟩ := received he rfl <;> cases hf
  · intro r e he
    by_cases hc : h.state = .connected
    · rw [send_of_connected g r hc] at he
      by_contra hd
      obtain ⟨-, hb⟩ := hq.of_sendRequest he (eq_true_of_ne_false hd)
      exact bound_ne_none hs (by simp [hc]) hb
    · rw [send_of_ne g r hc] at he
      cases he
      rfl
  · intro serverId e he hd
    by_cases hc : h.state = .connecting
    · cases hn : h.store with
      | none =>
        rw [startSession_of_none g serverId hc hn] at he
        cases he
        exact ⟨rfl, rfl⟩
      | some s =>
        rw [startSession_of_some g serverId hc hn, fst_announce] at he
        have hk : Equipped (h.inWorld (g.stores.identity s h.world).2) :=
          ((Unmoved.refl h).inWorld _).equipped hq
        obtain ⟨-, hb⟩ := hk.of_sendRequest he hd
        exact absurd hb (bound_ne_none hs (by simp [hc]))
    · rw [startSession_of_ne g serverId hc] at he
      cases he
      cases hd
  · intro identity e he hd
    obtain ⟨rfl, hb⟩ := hq.of_sendRequest he hd
    refine ⟨rfl, ?_⟩
    by_contra hc
    exact bound_ne_none hs hc hb

end Handshake

end SealedSession
