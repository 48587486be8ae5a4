import SealedSession.Proofs.Envelope.Decoding
import SealedSession.Proofs.Handshake.Steps

/-!
# What comes of an envelope

An envelope from the server is dropped, or refused, or cannot be decrypted, or brings a response;
and a response is accepted or does not fit the phase. `heard?` is the response that is accepted,
and `receive_of_heard` and `receive_of_not_heard` tell these fates apart.

The handlers of the responses follow. Each first asks the store for what it needs, which may fail;
then moves on within the handshake; and then sends at most one request.
-/

namespace SealedSession.Handshake

variable {S W : Type} (g : Settings S W)

/-! ## The handlers -/

/-- What is left to do once the account is known. -/
def welcome (serverPublicKey sharedSecret : Bytes) : Try S W Unit :=
  if g.session.mode = .verified then
    modify (emit (.verifyAccount g.session serverPublicKey sharedSecret))
  else startSession g none

/-- The store that is opened for an owner. -/
def OpenedFor (owner : Uuid) (h : Handshake S W) (s : S) : Prop :=
  ∃ i, (g.stores.openFor (some owner) h.world).1 = .ok i ∧ i.store = s

/-- A client with a store is welcomed with it. -/
theorem onIdentify_of_some {h : Handshake S W} {s : S} (hs : h.store = some s) (profile : Profile)
    (key secret : Bytes) :
    onIdentify g profile key secret h =
      welcome g key secret (setPhase .awaitingSessionStart h) := by
  simp only [onIdentify, Try.bind_apply, Try.get_apply]
  rw [if_neg (by simp [hs])]
  rfl

/-- A client without one opens the store of the account first. -/
theorem onIdentify_of_none {h : Handshake S W} (hs : h.store = none) (profile : Profile)
    (key secret : Bytes) :
    onIdentify g profile key secret h = match g.stores.openFor (some profile.id) h.world with
      | (.error e, w) => (.error (.store e), h.inWorld w)
      | (.ok i, w) => welcome g key secret
          (setPhase .awaitingSessionStart ((keepStore i.store h).inWorld w)) := by
  simp only [onIdentify, Try.bind_apply, Try.get_apply]
  rw [if_pos (by rw [hs]; rfl)]
  simp only [Try.bind_apply, openStore_eq]
  rcases g.stores.openFor (some profile.id) h.world with ⟨e | i, w⟩ <;> rfl

theorem onIdentify_cases (profile : Profile) (key secret : Bytes) (h : Handshake S W) :
    (h.store = none ∧ ∃ e w, onIdentify g profile key secret h = (.error e, h.inWorld w)) ∨
    ∃ s w, (h.store = some s ∨ h.store = none ∧ OpenedFor g profile.id h s) ∧
      onIdentify g profile key secret h =
        welcome g key secret (setPhase .awaitingSessionStart ((keepStore s h).inWorld w)) := by
  cases hs : h.store with
  | none =>
    rw [onIdentify_of_none g hs]
    rcases ho : g.stores.openFor (some profile.id) h.world with ⟨e | i, w⟩
    · exact .inl ⟨rfl, _, w, rfl⟩
    · exact .inr ⟨i.store, w, .inr ⟨rfl, i, by rw [ho], rfl⟩, rfl⟩
  | some s =>
    have hk : (keepStore s h).inWorld h.world = h := by
      cases h; cases hs; rfl
    exact .inr ⟨s, h.world, .inl rfl, by rw [onIdentify_of_some g hs, hk]⟩

/-- The store of the account is opened, given the device and asked for prekeys, and only then put to
use. -/
theorem onDeviceRegistered_eq (profile : Profile) (device : UInt32) (h : Handshake S W) :
    onDeviceRegistered g profile device h =
      match g.stores.openFor (some profile.id) h.world with
      | (.error e, w) => (.error (.store e), h.inWorld w)
      | (.ok i, w) => match g.stores.registerDevice profile device i.store w with
        | (.error e, _, w) => (.error (.store e), h.inWorld w)
        | (.ok _, s, w) => match g.stores.offer none s w with
          | (.error e, _, w) => (.error (.store e), h.inWorld w)
          | (.ok o, s, w) => sendRequest g (.sendPreKeys o)
              (setPhase .awaitingPreKeyAck ((keepStore s h).inWorld w)) := by
  simp only [onDeviceRegistered, Try.bind_apply, openStore_eq]
  rcases g.stores.openFor (some profile.id) h.world with ⟨e | i, w⟩
  · rfl
  · rcases hr : g.stores.registerDevice profile device i.store w with ⟨e | _, s, w'⟩
    · simp [hr]
      rfl
    · rcases ho : g.stores.offer none s w' with ⟨e | o, t, v⟩ <;>
      · simp [hr, ho]
        rfl

/-- The prekeys that are sent for an approved device are issued from the store that is opened for
it, once that was given the device; and this store is put to use. -/
theorem onDeviceRegistered_cases (profile : Profile) (device : UInt32) (h : Handshake S W) :
    (∃ e w, onDeviceRegistered g profile device h = (.error e, h.inWorld w)) ∨
    ∃ s w o, (∃ t v v', OpenedFor g profile.id h t ∧
        g.stores.offer none (g.stores.registerDevice profile device t v).2.1 v' = (.ok o, s, w)) ∧
      onDeviceRegistered g profile device h =
        sendRequest g (.sendPreKeys o) (setPhase .awaitingPreKeyAck ((keepStore s h).inWorld w)) := by
  rw [onDeviceRegistered_eq]
  simp only [OpenedFor]
  rcases hi : g.stores.openFor (some profile.id) h.world with ⟨e | i, w⟩
  · exact .inl ⟨_, w, rfl⟩
  · rcases hr : g.stores.registerDevice profile device i.store w with ⟨e | _, s, w'⟩
    · exact .inl ⟨.store e, w', by simp [hr]⟩
    · rcases ho : g.stores.offer none s w' with ⟨e | o, t, v⟩
      · exact .inl ⟨.store e, v, by simp [hr, ho]⟩
      · exact .inr ⟨t, v, o, ⟨i.store, w, w', ⟨i, rfl, rfl⟩, by rw [hr]; exact ho⟩,
          by simp [hr, ho]⟩

theorem onSendPreKeys_of_none {h : Handshake S W} (hs : h.store = none) (identity : ServerIdentity)
    (bundle : Bytes) :
    onSendPreKeys g identity bundle h = (.error .identityNotEstablished, h) := by
  simp only [onSendPreKeys, Try.bind_apply, Try.get_apply, hs]
  rfl

/-- The store establishes a session from the prekeys; while it connects, the client then presents
the identity that the store has by now. -/
theorem onSendPreKeys_of_some {h : Handshake S W} {s : S} (hs : h.store = some s)
    (identity : ServerIdentity) (bundle : Bytes) :
    onSendPreKeys g identity bundle h = match g.stores.trust identity bundle s h.world with
      | (.error e, t, w) => (.error (.store e), (keepStore t h).inWorld w)
      | (.ok _, t, w) =>
        if h.state = .connected then (.ok (), (keepStore t h).inWorld w)
        else
          let i := g.stores.identity t w
          let k := g.stores.token t i.2
          sendRequest g (.identifyAs i.1 k.1)
            (setPhase .awaitingSessionStart ((keepStore t h).inWorld k.2)) := by
  simp only [onSendPreKeys, Try.bind_apply, Try.get_apply, hs]
  rcases hr : g.stores.trust identity bundle s h.world with ⟨e | _, t, w⟩
  · simp [hr]
    rfl
  · by_cases hc : h.state = .connected
    · simp [hr, hc]
      rw [← hc]
      rfl
    · simp [Try.bind_apply, hr, hc]
      rfl

theorem onSendPreKeys_cases (identity : ServerIdentity) (bundle : Bytes) (h : Handshake S W) :
    (h.store = none ∧
      onSendPreKeys g identity bundle h = (.error .identityNotEstablished, h)) ∨
    ∃ s t w, (h.store = some s ∧ (g.stores.trust identity bundle s h.world).2.1 = t) ∧
      ((∃ e, onSendPreKeys g identity bundle h = (.error e, (keepStore t h).inWorld w)) ∨
      (h.state = .connected ∧
        onSendPreKeys g identity bundle h = (.ok (), (keepStore t h).inWorld w)) ∨
      (h.state ≠ .connected ∧ ∃ i k, (∃ v, (g.stores.identity t v).1 = i) ∧
        onSendPreKeys g identity bundle h = sendRequest g (.identifyAs i k)
          (setPhase .awaitingSessionStart ((keepStore t h).inWorld w)))) := by
  cases hs : h.store with
  | none => exact .inl ⟨rfl, onSendPreKeys_of_none g hs identity bundle⟩
  | some s =>
    refine .inr ?_
    rw [onSendPreKeys_of_some g hs]
    rcases hr : g.stores.trust identity bundle s h.world with ⟨e | _, t, w⟩
    · exact ⟨s, t, w, ⟨rfl, by rw [hr]⟩, .inl ⟨.store e, rfl⟩⟩
    · by_cases hc : h.state = .connected
      · exact ⟨s, t, w, ⟨rfl, by rw [hr]⟩, .inr (.inl ⟨hc, if_pos hc⟩)⟩
      · exact ⟨s, t, _, ⟨rfl, by rw [hr]⟩, .inr (.inr ⟨hc, _, _, ⟨w, rfl⟩, if_neg hc⟩)⟩

theorem onResendPreKeys_of_none {h : Handshake S W} (hs : h.store = none)
    (target : Option ServerIdentity) :
    onResendPreKeys g target h = (.error .identityNotEstablished, h) := by
  simp only [onResendPreKeys, Try.bind_apply, offer_of_none g target hs]

theorem onResendPreKeys_of_some {h : Handshake S W} {s : S} (hs : h.store = some s)
    (target : Option ServerIdentity) :
    onResendPreKeys g target h = match g.stores.offer target s h.world with
      | (.error e, t, w) => (.error (.store e), (keepStore t h).inWorld w)
      | (.ok o, t, w) => sendRequest g (.sendPreKeys o)
          (setPhase .awaitingPreKeyAck ((keepStore t h).inWorld w)) := by
  simp only [onResendPreKeys, Try.bind_apply, offer_of_some g target hs]
  rcases g.stores.offer target s h.world with ⟨e | o, t, w⟩ <;> rfl

theorem onResendPreKeys_cases (target : Option ServerIdentity) (h : Handshake S W) :
    (h.store = none ∧ onResendPreKeys g target h = (.error .identityNotEstablished, h)) ∨
    ∃ s t w, (h.store = some s ∧ (g.stores.offer target s h.world).2.1 = t) ∧
      ((∃ e, onResendPreKeys g target h = (.error e, (keepStore t h).inWorld w)) ∨
      ∃ o, (g.stores.offer target s h.world).1 = .ok o ∧
        onResendPreKeys g target h = sendRequest g (.sendPreKeys o)
          (setPhase .awaitingPreKeyAck ((keepStore t h).inWorld w))) := by
  cases hs : h.store with
  | none => exact .inl ⟨rfl, onResendPreKeys_of_none g hs target⟩
  | some s =>
    rw [onResendPreKeys_of_some g hs]
    rcases ho : g.stores.offer target s h.world with ⟨e | o, t, w⟩
    · exact .inr ⟨s, t, w, ⟨rfl, by rw [ho]⟩, .inl ⟨_, rfl⟩⟩
    · exact .inr ⟨s, t, w, ⟨rfl, by rw [ho]⟩, .inr ⟨o, by rw [ho], rfl⟩⟩

theorem onSessionStarted_of_none {h : Handshake S W} (hs : h.store = none) :
    onSessionStarted g h = (.error .identityNotEstablished, h) := by
  simp only [onSessionStarted, Try.bind_apply, establishedIdentity_of_none g hs]

theorem onSessionStarted_of_some {h : Handshake S W} {s : S} (hs : h.store = some s) :
    onSessionStarted g h = sendRequest g (.checkTrust (g.stores.identity s h.world).1)
      (setPhase .awaitingTrustDecision (h.inWorld (g.stores.identity s h.world).2)) := by
  simp only [onSessionStarted, Try.bind_apply, establishedIdentity_of_some g hs, Try.modify_apply]

/-- An envelope more could not be decrypted. -/
def countFailure (h : Handshake S W) : Handshake S W :=
  { h with cipherFailures := h.cipherFailures + 1 }

@[simp] theorem world_countFailure (h : Handshake S W) : h.countFailure.world = h.world := rfl

theorem le_of_exceeds_eq_none {failures limit : Nat} (h : exceeds failures (some limit) = none) :
    failures ≤ limit := by
  by_cases hl : limit < failures
  · simp [exceeds, hl] at h
  · exact Nat.le_of_not_lt hl

/-- Sends fresh prekeys to mend a session. -/
def refresh (target : Option ServerIdentity) : Try S W Unit := do
  let o ← offer g target
  sendRequest g (.sendPreKeys o)

theorem refresh_of_some {h : Handshake S W} {s : S} (hs : h.store = some s)
    (target : Option ServerIdentity) :
    refresh g target h = match g.stores.offer target s h.world with
      | (.error e, t, w) => (.error (.store e), (keepStore t h).inWorld w)
      | (.ok o, t, w) => sendRequest g (.sendPreKeys o) ((keepStore t h).inWorld w) := by
  simp only [refresh, Try.bind_apply, offer_of_some g target hs]
  rcases g.stores.offer target s h.world with ⟨e | o, t, w⟩ <;> rfl

theorem recoverCipher_of_none {h : Handshake S W} (hs : h.store = none) :
    recoverCipher g h = (.error .identityNotEstablished, h) := by
  simp only [recoverCipher, Try.bind_apply, Try.get_apply]
  rw [if_pos (by simp [hs])]
  rfl

/-- A failure to decrypt is one too many, or the session is mended. -/
theorem recoverCipher_of_some {h : Handshake S W} {s : S} (hs : h.store = some s) :
    recoverCipher g h = match exceeds (h.cipherFailures + 1).toNat g.refreshLimit with
      | some limit => (.ok (), fail g (refreshMessage limit) h.countFailure)
      | none => refresh g h.serverIdentity h.countFailure := by
  simp only [recoverCipher, Try.bind_apply, Try.get_apply]
  rw [if_neg (by simp [hs])]
  simp only [Try.bind_apply, Try.modify_apply, Try.get_apply]
  cases exceeds (h.cipherFailures + 1).toNat g.refreshLimit with
  | some limit => rfl
  | none => rfl

/-- A failure to decrypt is one too many, or fresh prekeys are issued and sent. -/
theorem recoverCipher_cases {h : Handshake S W} {s : S} (hs : h.store = some s) :
    (∃ limit, exceeds (h.cipherFailures + 1).toNat g.refreshLimit = some limit ∧
      recoverCipher g h = (.ok (), fail g (refreshMessage limit) h.countFailure)) ∨
    (exceeds (h.cipherFailures + 1).toNat g.refreshLimit = none ∧
      ((∃ e t w, (g.stores.offer h.serverIdentity s h.world).2.1 = t ∧
        recoverCipher g h = (.error e, (keepStore t h.countFailure).inWorld w)) ∨
      ∃ o t w, g.stores.offer h.serverIdentity s h.world = (.ok o, t, w) ∧ recoverCipher g h =
        sendRequest g (.sendPreKeys o) ((keepStore t h.countFailure).inWorld w))) := by
  rw [recoverCipher_of_some g hs]
  cases hx : exceeds (h.cipherFailures + 1).toNat g.refreshLimit with
  | some limit => exact .inl ⟨limit, rfl, rfl⟩
  | none =>
    refine .inr ⟨rfl, ?_⟩
    dsimp only
    rw [refresh_of_some g (h := h.countFailure) hs, world_countFailure]
    rcases ho : g.stores.offer h.serverIdentity s h.world with ⟨e | o, t, w⟩
    · exact .inl ⟨_, t, w, rfl, rfl⟩
    · exact .inr ⟨o, t, w, rfl, rfl⟩

/-! ## One envelope -/

/-- What an envelope is read as. -/
def reading (bytes : Bytes) (h : Handshake S W) : Except EnvelopeError (Option Response) :=
  Envelope.decode Response g.complaint (cipher? g h).1 (h.serverIdentity.map (·.identity)) bytes

/-- The response that an envelope brings, if it is accepted in the present state and phase. -/
def heard? (bytes : Bytes) (h : Handshake S W) : Option Response :=
  if h.state = .disconnected then none
  else match reading g bytes h with
    | .ok (some m) => if expects h.state h.phase m then some m else none
    | _ => none

/-- The handshake once a response was read. -/
def listening (h : Handshake S W) : Handshake S W :=
  { (cipher? g h).2 with cipherFailures := 0 }

theorem receive_of_disconnected {h : Handshake S W} (bytes : Bytes)
    (hc : h.state = .disconnected) : receive g bytes h = (.ok (), h) := by
  simp only [receive, Try.bind_apply, Try.get_apply]
  rw [if_neg (not_not_intro hc)]
  rfl

/-- What an envelope leads to, by what it is read as. -/
theorem receive_eq {h : Handshake S W} (bytes : Bytes) (hc : h.state ≠ .disconnected) :
    receive g bytes h = match reading g bytes h with
      | .ok none => (.ok (), (cipher? g h).2)
      | .error (.cipher _) => recoverCipher g (cipher? g h).2
      | .error e => (.error (.envelope e), (cipher? g h).2)
      | .ok (some m) =>
        if expects h.state h.phase m then handle g m (listening g h)
        else (.ok (), listening g h) := by
  obtain ⟨w, hw⟩ := snd_cipher? g h
  simp only [receive, Try.bind_apply, Try.get_apply]
  rw [if_pos hc]
  simp only [Try.bind_apply, Try.modifyGet_apply, Try.get_apply, reading, listening, hw,
    serverIdentity_inWorld]
  cases Envelope.decode Response g.complaint (cipher? g h).1 (h.serverIdentity.map (·.identity))
    bytes with
  | error e => cases e <;> rfl
  | ok o =>
    cases o with
    | none => rfl
    | some m =>
      simp only [Try.bind_apply, Try.modify_apply, Try.get_apply, state_inWorld, phase_inWorld]
      cases expects h.state h.phase m <;> simp

/-- The store that is there when an envelope fails in the cipher. -/
theorem store_of_undecrypted {h : Handshake S W} {bytes : Bytes} {e : CipherError}
    (hr : reading g bytes h = .error (.cipher e)) :
    ∃ s, h.store = some s ∧ (cipher? g h).2.store = some s := by
  obtain ⟨hs, -⟩ := Envelope.decode_error_cipher hr
  rw [isSome_fst_cipher?] at hs
  obtain ⟨s, hs⟩ := Option.isSome_iff_exists.mp hs
  obtain ⟨w, hw⟩ := snd_cipher? g h
  refine ⟨s, hs, ?_⟩
  rw [hw]
  exact hs

theorem receive_of_undecrypted {h : Handshake S W} {bytes : Bytes} {e : CipherError}
    (hc : h.state ≠ .disconnected) (hr : reading g bytes h = .error (.cipher e)) :
    receive g bytes h = recoverCipher g (cipher? g h).2 := by
  rw [receive_eq g bytes hc, hr]

/-- What comes of a response that was read: it is acted on if it is expected. -/
def respond (m : Response) (h : Handshake S W) : Except ClientError Unit × Handshake S W :=
  if expects h.state h.phase m then handle g m (listening g h) else (.ok (), listening g h)

theorem receive_of_reading {h : Handshake S W} {bytes : Bytes} {m : Response}
    (hc : h.state ≠ .disconnected) (hr : reading g bytes h = .ok (some m)) :
    receive g bytes h = respond g m h := by
  rw [receive_eq g bytes hc, hr]
  rfl

/-- An envelope whose response is accepted is acted on. -/
theorem receive_of_heard {h : Handshake S W} {bytes : Bytes} {m : Response}
    (hm : heard? g bytes h = some m) :
    h.state ≠ .disconnected ∧ expects h.state h.phase m = true ∧
      receive g bytes h = handle g m (listening g h) := by
  unfold heard? at hm
  split at hm
  · cases hm
  · next hc =>
    split at hm
    · next m' hr =>
      split at hm
      · next hx =>
        cases hm
        refine ⟨hc, hx, ?_⟩
        rw [receive_eq g bytes hc, hr]
        exact if_pos hx
      · cases hm
    · cases hm

/-- Any other envelope is passed over, refused, or answered by fresh prekeys. -/
theorem receive_of_not_heard {h : Handshake S W} {bytes : Bytes}
    (hm : heard? g bytes h = none) :
    receive g bytes h = (.ok (), h) ∨
    receive g bytes h = (.ok (), (cipher? g h).2) ∨
    (∃ e, receive g bytes h = (.error (.envelope e), (cipher? g h).2)) ∨
    receive g bytes h = (.ok (), listening g h) ∨
    (h.state ≠ .disconnected ∧ h.store.isSome ∧ h.serverIdentity.isSome ∧
      (∃ e, reading g bytes h = .error (.cipher e)) ∧
      receive g bytes h = recoverCipher g (cipher? g h).2) := by
  by_cases hc : h.state = .disconnected
  · exact .inl (receive_of_disconnected g bytes hc)
  · rw [receive_eq g bytes hc]
    rw [heard?, if_neg hc] at hm
    cases hr : reading g bytes h with
    | ok o =>
      cases o with
      | none => exact .inr (.inl rfl)
      | some m =>
        rw [hr] at hm
        cases hx : expects h.state h.phase m with
        | true => simp [hx] at hm
        | false => exact .inr (.inr (.inr (.inl (if_neg (by simp [hx])))))
    | error e =>
      cases e with
      | cipher c =>
        obtain ⟨hs, hi⟩ := Envelope.decode_error_cipher hr
        rw [isSome_fst_cipher?] at hs
        exact .inr (.inr (.inr (.inr ⟨hc, hs, by simpa using hi, ⟨c, rfl⟩, rfl⟩)))
      | _ => exact .inr (.inr (.inl ⟨_, rfl⟩))

end SealedSession.Handshake
