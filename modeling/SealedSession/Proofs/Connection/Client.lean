import SealedSession.Proofs.Connection.Run

/-!
# The client keeps the agreement

Whatever a client does of its own accord, and whatever it hears from a server that it agrees with,
it agrees with that server afterwards. It can read what it is sent: its cipher is that of its
owner, and once it is connected it knows the server.

* `agree_sendRequest`, `agree_own`: what a client does by itself.
* `reading_frame`: an envelope for a client is read, and encrypted only for a connected one.
* `agree_handle`, `agree_onTrusted`: a response is acted on.
* `agree_receive`, `agree_hear`: what a client is brought.
-/

namespace SealedSession.Connection

open Handshake

variable {S W A : Type} (e : Ends S W A) {n : Nat} {server : ServerIdentity} {o : Uuid}
  {h : Handshake S W} {down : List Frame} {record : Option SessionRecord} {served : Bool}

/-! ## What a client does -/

/-- The store of a client that is connected is that of the owner agreed on. -/
theorem store_of_connected (ha : Agree server o (viewOf e n h down record served))
    (hc : h.state = .connected) :
    h.serverIdentity = some server ∧ ∃ s, h.store = some s ∧ e.owner s = o := by
  obtain ⟨ho, hs, -⟩ := ha.connected hc
  obtain ⟨s, hst, hos⟩ := Option.map_eq_some_iff.mp ho
  exact ⟨hs, s, hst, hos⟩

/-- A request goes out in the clear or encrypted, as the state demands. -/
theorem agree_sendRequest (ha : Agree server o (viewOf e n h down record served))
    (hu : h.Uses n) {r : Request} (hr : r.asksForTrust = false) :
    (sendRequest e.client r h).2.Uses n ∧
      Agree server o (viewOf e n (sendRequest e.client r h).2 down record served) := by
  obtain ⟨bs, hq, ht, hb⟩ := sent_sendRequest e.client hu r
  refine ⟨hq.uses, ?_⟩
  rw [viewOf_of_sent e n down record served hq (standing_sendRequest e.client r h) ht]
  apply ha.request
  intro b hm
  have he := hb b hm
  by_cases hc : h.state = .connected
  · rw [if_pos (show (viewOf e n h down record served).state = _ from hc)]
    obtain ⟨hs, s, hst, ho⟩ := store_of_connected e ha hc
    rw [envelope_of_connected e.client r hc, cipher?_of_some e.client hst, e.cipher_client,
      hs] at he
    exact ⟨r, _, hr, (e.owner_identity s h.world).trans ho, he⟩
  · rw [if_neg (show ¬(viewOf e n h down record served).state = _ from hc)]
    rw [envelope_of_ne e.client r hc] at he
    exact ⟨r, hr, he⟩

/-- A client that disconnects agrees with anybody. -/
theorem agree_disconnected (ha : Agree server o (viewOf e n h down record served))
    (hu : h.Uses n) {k : Handshake S W} (hk : k.outbound = h.outbound) (down' : List Frame) :
    (changeState e.client .disconnected k).Uses n ∧
      Agree server o (viewOf e n (changeState e.client .disconnected k) down' record served) := by
  have hq : Sent n h [] (changeState e.client .disconnected k) :=
    (sent_changeState e.client (show k.Uses n by rw [Uses, hk]; exact hu) _).from_outbound hk
  exact ⟨hq.uses, ha.leave (state_changeState e.client k .disconnected)
    (hq.queued.trans (List.append_nil _)) rfl rfl⟩

/-- A client that leaves agrees with anybody. -/
theorem agree_leave (ha : Agree server o (viewOf e n h down record served))
    (hu : h.Uses n) {k : Handshake S W} (hk : k.outbound = h.outbound) :
    (leave e.client k).Uses n ∧
      Agree server o (viewOf e n (leave e.client k) down record served) := by
  unfold leave
  split
  · next hc =>
    have hq : Sent n h [] k := .refl hu hk
    exact ⟨hq.uses, ha.leave hc (hq.queued.trans (List.append_nil _)) rfl rfl⟩
  · exact agree_disconnected e ha hu hk down

/-- Whatever a client does of its own accord, it agrees with the server afterwards. -/
theorem agree_own (ha : Agree server o (viewOf e n h down record served)) (hu : h.Uses n)
    (op : Operation W) (own : op.isOwn = true) :
    (perform e.client h op).2.Uses n ∧
      Agree server o (viewOf e n (perform e.client h op).2 down record served) := by
  cases op with
  | onOpen | receive | createChannel | takeEnvelope | dropReceiving => cases own
  | onClose close =>
    simp only [perform, onClose]
    split
    · exact agree_leave e ha hu rfl
    · exact agree_leave e ha hu rfl
  | onFailure => exact agree_leave e ha hu rfl
  | disconnect => exact agree_disconnected e ha hu rfl down
  | fail message => exact agree_disconnected e ha hu (k := h.emit (.error message)) rfl down
  | saveOnShutdown =>
    simp only [perform, saveOnShutdown]
    split <;> exact ⟨hu, ha⟩
  | takeEvents => exact ⟨hu, ha⟩
  | elapse change => exact ⟨hu, ha⟩
  | sendKeepalive identity => exact agree_sendRequest e ha hu rfl
  | send r =>
    cases r with
    | feature m =>
      by_cases hc : h.state = .connected
      · simp only [perform, send_of_connected e.client _ hc]
        exact agree_sendRequest e ha hu rfl
      · simp only [perform, send_of_ne e.client _ hc]
        exact ⟨hu, ha⟩
    | _ => cases own
  | startSession serverId =>
    obtain ⟨bs, hq, ht, hb⟩ := sent_startSession e.client hu serverId
    refine ⟨hq.uses, ?_⟩
    rw [perform, viewOf_of_sent e n down record served hq
      (standing_startSession e.client serverId h) ht]
    apply ha.request
    intro b hm
    obtain ⟨hc, i, he⟩ := hb b hm
    rw [if_neg (show ¬(viewOf e n h down record served).state = _ by simp [viewOf, hc])]
    exact ⟨_, rfl, he⟩

/-! ## What a client hears -/

/-- Listening, a client is seen as before. -/
theorem viewOf_listening (h : Handshake S W) (down : List Frame) (record : Option SessionRecord)
    (served : Bool) :
    viewOf e n (listening e.client h) down record served = viewOf e n h down record served := by
  obtain ⟨w, hw⟩ := snd_cipher? e.client h
  rw [listening, hw]
  rfl

/-- An envelope on its way to a client that has not left is read: as an ordinary response in the
clear, as the confirmation of trust by one that connects, or as something that was encrypted for
one that is connected. -/
theorem reading_frame (ha : Agree server o (viewOf e n h down record served)) {bytes : Bytes}
    {rest : List Frame} (hd : down = .envelope bytes :: rest) (hs : h.state ≠ .disconnected) :
    (∃ m : Response, m.isOrdinary = true ∧ Envelope.encodePlain m = .ok bytes ∧
      reading e.client bytes h = .ok (some m.erased)) ∨
    (h.state = .connecting ∧ TrustReply server (.envelope bytes) ∧
      reading e.client bytes h = .ok (some (.isTrusted server))) ∨
    (h.state = .connected ∧ ∃ m : Response, (m.isOrdinary = true ∨ m = .isTrusted server) ∧
      reading e.client bytes h = .ok (some m.erased)) := by
  rcases ha.next_frame hd hs with ⟨m, hm, he⟩ | ⟨hc, ht⟩ | ⟨hc, m, i, bytes', hm, hi, hf, he⟩
  · exact .inl ⟨m, hm, he, Envelope.decode_encodePlain he _ _⟩
  · refine .inr (.inl ⟨hc, ht, ?_⟩)
    obtain ⟨bytes', hb, he⟩ := ht
    cases hb
    exact Envelope.decode_encodePlain he _ _
  · refine .inr (.inr ⟨hc, m, hm, ?_⟩)
    cases hf
    obtain ⟨hv, s, hst, ho⟩ := store_of_connected e ha hc
    rw [reading, cipher?_of_some e.client hst, e.cipher_client, hv]
    exact Envelope.decode_pair rfl ((e.owner_identity s h.world).trans (ho.trans hi.symm)) he

/-- A client that hears who it is or that its device has to be registered, or that its session has
started, was not asking for trust. -/
theorem unasked_of_phase (ha : Agree server o (viewOf e n h down record served))
    (hc : h.state = .connecting) (hp : h.phase ≠ some .awaitingTrustDecision) :
    (∀ b ∈ h.queued n, PlainRequest b) ∧ (∀ f ∈ down, f.Calm) ∧ record = none := by
  cases ha.connecting hc with
  | unasked up down record =>
    exact ⟨up, down, record⟩
  | asked owner phase down record =>
    exact absurd phase hp
  | answered owner phase before f since down calm trust sealed record =>
    exact absurd phase hp

/-- A client that has not asked for trust agrees with anybody, as long as it sends in the clear. -/
theorem agree_move (ha : Agree server o (viewOf e n h down record served))
    (hc : h.state = .connecting) (hp : h.phase ≠ some .awaitingTrustDecision)
    {h' : Handshake S W} {bs : List Bytes} (hq : Sent n h bs h') (hb : ∀ b ∈ bs, PlainRequest b)
    (hs : h'.state = h.state) (hv : h'.serverIdentity = h.serverIdentity) :
    Agree server o (viewOf e n h' down record served) := by
  obtain ⟨up, calm, hr⟩ := unasked_of_phase e ha hc hp
  have hm : Agree server o { viewOf e n h down record served with
      up := h.queued n ++ bs, owner := h'.store.map e.owner, phase := h'.phase } :=
    Agree.move (v := viewOf e n h down record served) up calm hr o _ _ hb hc
  simpa only [viewOf, hq.queued, hs, hv] using hm

/-- Asking for trust, a client agrees on its owner with the server. -/
theorem agree_onSessionStarted (ha : Agree server o (viewOf e n h down record served))
    (hu : h.Uses n) (hs : h.standing.Sound e.client.refreshLimit)
    (hp : h.phase = some .awaitingSessionStart) :
    (onSessionStarted e.client h).2.Uses n ∧ ∃ o',
      Agree server o' (viewOf e n (onSessionStarted e.client h).2 down record served) := by
  have hc : h.state = .connecting := hs.state_of_phase hp
  obtain ⟨up, calm, hr⟩ := unasked_of_phase e ha hc (by simp [hp])
  obtain ⟨s, hst⟩ := Option.isSome_iff_exists.mp (hs.stored_of_phase (.inr (.inl hp)))
  obtain ⟨bs, hq, ht, hb⟩ := sent_onSessionStarted e.client hu hst (by simp [hc])
  refine ⟨hq.uses, e.owner s, ?_⟩
  have hk : (onSessionStarted e.client h).2.standing =
      h.standing.setPhase .awaitingTrustDecision := by
    rw [onSessionStarted_of_some e.client hst, standing_sendRequest, standing_setPhase,
      standing_inWorld]
  rw [Standing.setPhase, if_pos (show h.standing.state = _ from hc)] at hk
  have ho : (viewOf e n h down record served).owner = some (e.owner s) := by
    simp [viewOf, hst]
  have hb' : ∀ b ∈ bs, TrustRequest (e.owner s) b := by
    intro b hm
    exact ⟨_, e.owner_identity s h.world, hb b hm⟩
  have hm : Agree server (e.owner s) { viewOf e n h down record served with
      up := h.queued n ++ bs, phase := some .awaitingTrustDecision } :=
    Agree.ask (v := viewOf e n h down record served) up calm hr hc ho hb'
  have h1 : (onSessionStarted e.client h).2.state = h.state := congrArg Standing.state hk
  have h2 : (onSessionStarted e.client h).2.phase = some .awaitingTrustDecision :=
    congrArg Standing.phase hk
  have h3 : (onSessionStarted e.client h).2.serverIdentity = h.serverIdentity :=
    congrArg Standing.server hk
  simpa only [viewOf, hq.queued, h1, h2, h3, ht, hst] using hm

/-- A client that is told who it is has not asked for trust, and may ask for its session now. -/
theorem agree_identify (ha : Agree server o (viewOf e n h down record served)) (hu : h.Uses n)
    (hs : h.standing.Sound e.client.refreshLimit) (profile : Profile) (key secret : Bytes)
    (hp : h.phase = some .awaitingIdentity ∨ h.phase = some .awaitingSessionStart) :
    (handle e.client (.identify profile key secret) h).2.Uses n ∧ Agree server o
      (viewOf e n (handle e.client (.identify profile key secret) h).2 down record served) := by
  have hc : h.state = .connecting := by
    rcases hp with hp | hp <;> exact hs.state_of_phase hp
  have hn : h.phase ≠ some .awaitingTrustDecision := by
    rcases hp with hp | hp <;> simp [hp]
  obtain ⟨bs, hq, hb⟩ := sent_onIdentify e.client hu profile key secret
  have hb' : ∀ b ∈ bs, PlainRequest b := by
    intro b hm
    obtain ⟨-, i, he⟩ := hb b hm
    exact ⟨_, rfl, he⟩
  have hk := standing_handle e.client (.identify profile key secret) h
  refine ⟨hq.uses, agree_move e ha hc hn hq hb' ?_ ?_⟩
  · rcases hk with hk | ⟨-, hk⟩
    · exact (congrArg Standing.state hk).trans (Standing.state_setPhase _ _)
    · exact congrArg Standing.state hk
  · rcases hk with hk | ⟨-, hk⟩
    · exact (congrArg Standing.server hk).trans (Standing.server_setPhase _ _)
    · exact congrArg Standing.server hk

/-- Nor has a client that is told to have its device approved. -/
theorem agree_registerDevice (ha : Agree server o (viewOf e n h down record served))
    (hu : h.Uses n) (hs : h.standing.Sound e.client.refreshLimit) (url token : String)
    (hp : h.phase = some .awaitingIdentity) :
    (handle e.client (.registerDevice url token) h).2.Uses n ∧ Agree server o
      (viewOf e n (handle e.client (.registerDevice url token) h).2 down record served) := by
  have hq : Sent n h [] (handle e.client (.registerDevice url token) h).2 :=
    .refl hu (outbound_setPhase _ h)
  have hk : (handle e.client (.registerDevice url token) h).2.standing =
      h.standing.setPhase .awaitingDeviceApproval := standing_setPhase h _
  refine ⟨hq.uses, agree_move e ha (hs.state_of_phase hp) (by simp [hp]) hq (by simp) ?_ ?_⟩
  · rw [← state_standing, hk, Standing.state_setPhase, state_standing]
  · rw [← server_standing, hk, Standing.server_setPhase, server_standing]

/-- A client whose session has failed agrees with anybody. -/
theorem agree_sessionFailed (ha : Agree server o (viewOf e n h down record served))
    (hu : h.Uses n) (failure : SessionFailure) :
    (onSessionFailed e.client failure h).Uses n ∧
      Agree server o (viewOf e n (onSessionFailed e.client failure h) down record served) := by
  unfold onSessionFailed
  split
  · next event _ => exact agree_disconnected e ha hu (k := h.emit event) rfl down
  · exact agree_disconnected e ha hu rfl down

/-- An ordinary response that is expected leaves the client in agreement with the server. -/
theorem agree_handle (ha : Agree server o (viewOf e n h down record served)) (hu : h.Uses n)
    (hs : h.standing.Sound e.client.refreshLimit) {m : Response} (hm : m.isOrdinary = true)
    (hx : expects h.state h.phase m = true) :
    (handle e.client m h).2.Uses n ∧ ∃ o',
      Agree server o' (viewOf e n (handle e.client m h).2 down record served) := by
  cases m with
  | deviceRegistered | sendPreKeys | resendPreKeys | isTrusted => cases hm
  | keepAlive => exact ⟨hu, o, ha⟩
  | feature m => exact ⟨hu, o, ha⟩
  | startSession => exact agree_onSessionStarted e ha hu hs (by simpa [expects] using hx)
  | sessionFailed failure =>
    obtain ⟨hu', ha'⟩ := agree_sessionFailed e ha hu failure
    exact ⟨hu', o, ha'⟩
  | isUntrusted =>
    obtain ⟨hu', ha'⟩ := agree_disconnected e ha hu rfl down
    exact ⟨hu', o, ha'⟩
  | registerDevice url token =>
    obtain ⟨hu', ha'⟩ :=
      agree_registerDevice e ha hu hs url token (by simpa [expects] using hx)
    exact ⟨hu', o, ha'⟩
  | identify profile key secret =>
    obtain ⟨hu', ha'⟩ :=
      agree_identify e ha hu hs profile key secret (by simpa [expects] using hx)
    exact ⟨hu', o, ha'⟩

/-- Told that it is trusted, a client that awaits the decision is connected and encrypts. -/
theorem agree_onTrusted {f : Frame} {rest : List Frame}
    (ha : Agree server o (viewOf e n h down record served)) (hu : h.Uses n)
    (hd : down = f :: rest) (hf : TrustReply server f) (hc : h.state = .connecting) :
    (onTrusted e.client server h).Uses n ∧
      Agree server o (viewOf e n (onTrusted e.client server h) rest record served) := by
  have hq : Sent n h [] (onTrusted e.client server h) :=
    (sent_changeState e.client (show Uses n { h with serverIdentity := some server } from hu)
      .connected).from_outbound rfl
  have hk : (onTrusted e.client server h).standing =
      { h.standing with state := .connected, phase := none, server := some server } := by
    have hn : ¬h.state = .connected := by simp [hc]
    rw [onTrusted, standing_changeState, Standing.changeState, if_neg (by simp),
      if_neg (by exact hn)]
    rfl
  have ht : (onTrusted e.client server h).store = h.store :=
    store_changeState e.client (h := { h with serverIdentity := some server }) (by simp)
  have hm := ha.connect hd hf hc
  have h1 : (onTrusted e.client server h).state = .connected := congrArg Standing.state hk
  have h2 : (onTrusted e.client server h).phase = none := congrArg Standing.phase hk
  have h3 : (onTrusted e.client server h).serverIdentity = some server :=
    congrArg Standing.server hk
  refine ⟨hq.uses, ?_⟩
  simpa only [viewOf, hq.queued, List.append_nil, h1, h2, h3, ht] using hm

theorem uses_listening (hu : h.Uses n) : (listening e.client h).Uses n := by
  obtain ⟨w, hw⟩ := snd_cipher? e.client h
  rw [listening, hw]
  exact hu

/-- An ordinary response is acted on or passed over, and the agreement kept. -/
theorem agree_respond (hs : h.standing.Sound e.client.refreshLimit) (hu : h.Uses n)
    {m : Response} (hm : m.isOrdinary = true)
    (ha : Agree server o (viewOf e n h down record served)) :
    (respond e.client m h).2.Uses n ∧ ∃ o',
      Agree server o' (viewOf e n (respond e.client m h).2 down record served) := by
  have hl := standing_listening e.client h
  rw [← viewOf_listening e] at ha
  unfold respond
  split
  · next hx =>
    refine agree_handle e ha (uses_listening e hu) (by rw [hl]; exact hs.cleared) hm ?_
    rw [← state_standing, ← phase_standing, hl]
    exact hx
  · exact ⟨uses_listening e hu, o, ha⟩

/-- The confirmation of trust connects the client that awaits it. -/
theorem agree_respond_trusted (hu : h.Uses n) {f : Frame} {rest : List Frame}
    (hd : down = f :: rest) (hf : TrustReply server f) (hc : h.state = .connecting)
    (ha : Agree server o (viewOf e n h down record served)) :
    (respond e.client (.isTrusted server) h).2.Uses n ∧ Agree server o
      (viewOf e n (respond e.client (.isTrusted server) h).2 rest record served) := by
  have hp : h.phase = some .awaitingTrustDecision := (ha.answered_of_trustReply hd hf hc).2.1
  have hx : expects h.state h.phase (.isTrusted server) = true := by
    simpa [expects] using hp
  rw [respond, if_pos hx]
  rw [← viewOf_listening e] at ha
  refine agree_onTrusted e ha (uses_listening e hu) hd hf ?_
  rw [← state_standing, standing_listening]
  exact hc

/-- A connected client passes over another confirmation of trust. -/
theorem respond_isTrusted_of_connected (hs : h.standing.Sound e.client.refreshLimit)
    (hc : h.state = .connected) :
    respond e.client (.isTrusted server) h = (.ok (), listening e.client h) := by
  apply if_neg
  intro hx
  have hp : h.phase = some .awaitingTrustDecision := by simpa [expects] using hx
  have hn : h.state = .connecting := hs.state_of_phase hp
  rw [hc] at hn
  cases hn

/-- An envelope that the server has sent leaves the client in agreement with it. -/
theorem agree_receive (hs : h.standing.Sound e.client.refreshLimit) (hu : h.Uses n)
    {bytes : Bytes} {rest : List Frame} (hd : down = .envelope bytes :: rest)
    (ha : Agree server o (viewOf e n h down record served)) :
    (receive e.client bytes h).2.Uses n ∧ ∃ o',
      Agree server o' (viewOf e n (receive e.client bytes h).2 rest record served) := by
  by_cases hc : h.state = .disconnected
  · rw [receive_of_disconnected e.client bytes hc]
    exact ⟨hu, o, ha.leave hc rfl rfl rfl⟩
  · rcases reading_frame e ha hd hc with ⟨m, hm, he, hr⟩ | ⟨hn, ht, hr⟩ | ⟨hn, m, hm, hr⟩
    · rw [receive_of_reading e.client hc hr]
      exact agree_respond e hs hu ((isOrdinary_erased m).trans hm)
        (ha.pop_calm hd (.inr ⟨m, bytes, hm, rfl, he⟩))
    · rw [receive_of_reading e.client hc hr]
      obtain ⟨hu', ha'⟩ := agree_respond_trusted e hu hd ht hn ha
      exact ⟨hu', o, ha'⟩
    · rw [receive_of_reading e.client hc hr]
      have hp : Agree server o (viewOf e n h rest record served) := ha.pop_connected hd hn
      rcases hm with hm | rfl
      · exact agree_respond e hs hu ((isOrdinary_erased m).trans hm) hp
      · change (respond e.client (.isTrusted server) h).2.Uses n ∧ ∃ o', Agree server o'
          (viewOf e n (respond e.client (.isTrusted server) h).2 rest record served)
        rw [respond_isTrusted_of_connected e hs hn]
        rw [← viewOf_listening e] at hp
        exact ⟨uses_listening e hu, o, hp⟩

/-- Whatever frame a client is brought, it agrees with the server afterwards. -/
theorem agree_hear (hs : h.standing.Sound e.client.refreshLimit) (hu : h.Uses n)
    {f : Frame} {rest : List Frame} (hd : down = f :: rest)
    (ha : Agree server o (viewOf e n h down record served)) :
    (perform e.client h f.operation).2.Uses n ∧ ∃ o',
      Agree server o' (viewOf e n (perform e.client h f.operation).2 rest record served) := by
  cases f with
  | envelope bytes => exact agree_receive e hs hu hd ha
  | close info =>
    obtain ⟨hu', ha'⟩ := agree_own e (ha.pop_calm hd (.inl ⟨info, rfl⟩)) hu
      (.onClose (some info)) rfl
    exact ⟨hu', o, ha'⟩

end SealedSession.Connection
