import SealedSession.Handshake

/-!
# The operations of a handshake, taken apart

An operation of the handshake is a sequence of questions to the store, changes of the state and at
most one envelope. This file says once, for each of them, what comes of it, so that no later
statement has to open a definition again.

* `sendRequest_eq`: what sending a request leads to, in every state.
* `startSession_of_some`, `send_of_connected`: what is sent of the client's own accord.
* `onOpen_of_bound`, `onOpen_of_unbound`: a channel is refused, or the handshake begins.
* `introduce_cases`: how a client introduces itself.
-/

namespace SealedSession.Handshake

variable {S W α β : Type}

/-! ## Attempts -/

section MapError

variable {ε ε' : Type} (f : ε → ε')

@[simp] theorem mapError_ok (a : α) : (.ok a : Except ε α).mapError f = .ok a := rfl

@[simp] theorem mapError_error (e : ε) : (.error e : Except ε α).mapError f = .error (f e) := rfl

end MapError

namespace Try

/-- A failed attempt keeps what it did, and nothing after it is tried. -/
theorem bind_apply (x : Try S W α) (f : α → Try S W β) (h : Handshake S W) :
    (x >>= f) h = match x h with
      | (.ok a, h) => f a h
      | (.error e, h) => (.error e, h) := by
  change (ExceptT.bindCont f (x h).1) (x h).2 = _
  rcases x h with ⟨r, h⟩
  cases r <;> rfl

@[simp] theorem pure_apply (a : α) (h : Handshake S W) :
    (pure a : Try S W α) h = (.ok a, h) := rfl

@[simp] theorem throw_apply (e : ClientError) (h : Handshake S W) :
    (throw e : Try S W α) h = (.error e, h) := rfl

@[simp] theorem get_apply (h : Handshake S W) : (get : Try S W (Handshake S W)) h = (.ok h, h) :=
  rfl

@[simp] theorem modify_apply (f : Handshake S W → Handshake S W) (h : Handshake S W) :
    (modify f : Try S W Unit) h = (.ok (), f h) := rfl

@[simp] theorem modifyGet_apply (f : Handshake S W → α × Handshake S W) (h : Handshake S W) :
    (modifyGet f : Try S W α) h = (.ok (f h).1, (f h).2) := rfl

@[simp] theorem liftExcept_apply (r : Except ClientError α) (h : Handshake S W) :
    (liftExcept r : Try S W α) h = (r, h) := by
  cases r <;> rfl

end Try

/-! ## Questions to the store -/

/-- The same handshake in another world. -/
def inWorld (w : W) (h : Handshake S W) : Handshake S W := { h with world := w }

section InWorld

variable (w : W) (h : Handshake S W)

@[simp] theorem state_inWorld : (h.inWorld w).state = h.state := rfl
@[simp] theorem phase_inWorld : (h.inWorld w).phase = h.phase := rfl
@[simp] theorem outbound_inWorld : (h.inWorld w).outbound = h.outbound := rfl
@[simp] theorem store_inWorld : (h.inWorld w).store = h.store := rfl
@[simp] theorem serverIdentity_inWorld : (h.inWorld w).serverIdentity = h.serverIdentity := rfl
@[simp] theorem world_inWorld : (h.inWorld w).world = w := rfl
@[simp] theorem inWorld_inWorld (v : W) : (h.inWorld v).inWorld w = h.inWorld w := rfl

end InWorld

theorem consult_eq (call : W → α × W) (h : Handshake S W) :
    h.consult call = ((call h.world).1, h.inWorld (call h.world).2) := rfl

variable (g : Settings S W)

theorem identity?_of_none {h : Handshake S W} (hs : h.store = none) :
    identity? g h = (none, h) := by
  rw [identity?, hs]

theorem identity?_of_some {h : Handshake S W} {s : S} (hs : h.store = some s) :
    identity? g h = (some (g.stores.identity s h.world).1,
      h.inWorld (g.stores.identity s h.world).2) := by
  rw [identity?, hs]; rfl

theorem cipher?_of_none {h : Handshake S W} (hs : h.store = none) :
    cipher? g h = (none, h) := by
  rw [cipher?, hs]

theorem cipher?_of_some {h : Handshake S W} {s : S} (hs : h.store = some s) :
    cipher? g h = (some (g.stores.cipher s h.world).1,
      h.inWorld (g.stores.cipher s h.world).2) := by
  rw [cipher?, hs]; rfl

/-- Asking for the cipher changes the world alone. -/
theorem snd_cipher? (h : Handshake S W) : ∃ w, (cipher? g h).2 = h.inWorld w := by
  cases hs : h.store with
  | none => exact ⟨h.world, by rw [cipher?_of_none g hs]; rfl⟩
  | some s => exact ⟨_, by rw [cipher?_of_some g hs]⟩

/-- There is a cipher exactly when there is a store. -/
theorem isSome_fst_cipher? (h : Handshake S W) : (cipher? g h).1.isSome = h.store.isSome := by
  cases hs : h.store with
  | none => rw [cipher?_of_none g hs]; rfl
  | some s => rw [cipher?_of_some g hs]; rfl

theorem establishedIdentity_of_none {h : Handshake S W} (hs : h.store = none) :
    establishedIdentity g h = (.error .identityNotEstablished, h) := by
  simp [establishedIdentity, Try.bind_apply, identity?_of_none g hs]

theorem establishedIdentity_of_some {h : Handshake S W} {s : S} (hs : h.store = some s) :
    establishedIdentity g h = (.ok (g.stores.identity s h.world).1,
      h.inWorld (g.stores.identity s h.world).2) := by
  simp [establishedIdentity, Try.bind_apply, identity?_of_some g hs]

theorem openStore_eq (owner : Option Uuid) (h : Handshake S W) :
    openStore g owner h = ((g.stores.openFor owner h.world).1.mapError ClientError.store,
      h.inWorld (g.stores.openFor owner h.world).2) := by
  simp only [openStore, Try.bind_apply, Try.modifyGet_apply, consult_eq]
  cases (g.stores.openFor owner h.world).1 <;> rfl

theorem offer_of_none {h : Handshake S W} (target : Option ServerIdentity) (hs : h.store = none) :
    offer g target h = (.error .identityNotEstablished, h) := by
  simp [offer, Try.bind_apply, hs]

theorem offer_of_some {h : Handshake S W} {s : S} (target : Option ServerIdentity)
    (hs : h.store = some s) :
    offer g target h = ((g.stores.offer target s h.world).1.mapError ClientError.store,
      (keepStore (g.stores.offer target s h.world).2.1 h).inWorld
        (g.stores.offer target s h.world).2.2) := by
  simp only [offer, Try.bind_apply, Try.get_apply, hs, Try.modify_apply, Try.liftExcept_apply]
  rfl

/-! ## Sending -/

theorem queue_eq (bytes : Bytes) (h : Handshake S W) :
    queue bytes h = ((h.outbound.send bytes).2,
      { h with outbound := (h.outbound.send bytes).1 }) := by
  simp only [queue, Try.bind_apply, Try.get_apply, Try.modify_apply, Try.liftExcept_apply]

/-- The envelope that a request gets in the present state. -/
def envelope (r : Request) (h : Handshake S W) : Except EnvelopeError Bytes :=
  if h.state = .connected then
    Envelope.encodeFor (cipher? g h).1 (h.serverIdentity.map (·.identity)) r
  else Envelope.encodePlain r

/-- Whether a request that fails with this error is dropped, and the client reported. -/
def isUntrusted (state : ConnectionState) (e : EnvelopeError) : Bool :=
  state = .connected && e.asCipher.any CipherError.isInvalidSession

/-- Sending queues the envelope of the request, or reports the client, or fails with the error of
the envelope; beside that, only the world changes. -/
theorem sendRequest_eq (r : Request) (h : Handshake S W) :
    sendRequest g r h = match envelope g r h with
      | .ok bytes => queue bytes (cipher? g h).2
      | .error e =>
        if isUntrusted h.state e then (.ok (), (cipher? g h).2.emit .clientUntrusted)
        else (.error (.envelope e), (cipher? g h).2) := by
  obtain ⟨w, hw⟩ := snd_cipher? g h
  simp only [sendRequest, Try.bind_apply, Try.modifyGet_apply, Try.get_apply, envelope, hw]
  by_cases hc : h.state = .connected
  · rw [if_pos (show (h.inWorld w).state = .connected from hc), if_pos hc, hc]
    simp only [serverIdentity_inWorld]
    cases Envelope.encodeFor (cipher? g h).1 (h.serverIdentity.map (·.identity)) r with
    | ok bytes => rfl
    | error e => cases hu : e.asCipher.any CipherError.isInvalidSession <;> simp [isUntrusted, hu]
  · rw [if_neg (show ¬(h.inWorld w).state = .connected from hc), if_neg hc]
    cases Envelope.encodePlain r with
    | ok bytes => rfl
    | error e => simp [isUntrusted, hc]

/-- A request that gets an envelope is queued, if the channel takes it. -/
theorem sendRequest_of_envelope {r : Request} {h : Handshake S W} {bytes : Bytes}
    (he : envelope g r h = .ok bytes) : ∃ w, sendRequest g r h =
      ((h.outbound.send bytes).2, { h.inWorld w with outbound := (h.outbound.send bytes).1 }) := by
  obtain ⟨w, hw⟩ := snd_cipher? g h
  refine ⟨w, ?_⟩
  rw [sendRequest_eq, he, hw]
  exact queue_eq bytes _

/-- A request that gets none is refused, unless its cipher is to blame. -/
theorem sendRequest_of_refused {r : Request} {h : Handshake S W} {e : EnvelopeError}
    (he : envelope g r h = .error e) (hn : e.asCipher = none) :
    sendRequest g r h = (.error (.envelope e), (cipher? g h).2) := by
  rw [sendRequest_eq, he]
  exact if_neg (by simp [isUntrusted, hn])

/-- What sending a request may lead to. -/
theorem sendRequest_cases (r : Request) (h : Handshake S W) : ∃ w,
    (∃ bytes, envelope g r h = .ok bytes ∧ (h.outbound.send bytes).2 = .ok () ∧
      sendRequest g r h =
        (.ok (), { h.inWorld w with outbound := (h.outbound.send bytes).1 })) ∨
    (h.state = .connected ∧ sendRequest g r h = (.ok (), (h.inWorld w).emit .clientUntrusted)) ∨
    ∃ e, sendRequest g r h = (.error e, h.inWorld w) := by
  obtain ⟨w, hw⟩ := snd_cipher? g h
  refine ⟨w, ?_⟩
  rw [sendRequest_eq, hw]
  cases he : envelope g r h with
  | ok bytes =>
    simp only [queue_eq, outbound_inWorld]
    cases hr : (h.outbound.send bytes).2 with
    | ok _ => exact .inl ⟨bytes, rfl, hr, rfl⟩
    | error e =>
      refine .inr (.inr ⟨e, ?_⟩)
      rw [Outbound.send_of_error hr]
      rfl
  | error e =>
    cases hu : isUntrusted h.state e with
    | true =>
      have hc : h.state = .connected := by
        simp only [isUntrusted, Bool.and_eq_true, decide_eq_true_eq] at hu
        exact hu.1
      exact .inr (.inl ⟨hc, if_pos hu⟩)
    | false => exact .inr (.inr ⟨_, if_neg (by rw [hu]; exact Bool.false_ne_true)⟩)

/-- What is left to do once the request to start the session was sent. -/
def announce (i : Identity) :
    Except ClientError Unit × Handshake S W → Except ClientError Unit × Handshake S W
  | (.ok _, h) => (.ok (), h.emit (.identified i))
  | (.error e, h) => (.error e, h)

theorem startSession_of_ne {h : Handshake S W} (serverId : Option String)
    (hc : h.state ≠ .connecting) : startSession g serverId h = (.error .notConnected, h) := by
  simp only [startSession, Try.bind_apply, Try.get_apply]
  rw [if_pos hc]
  rfl

theorem startSession_of_none {h : Handshake S W} (serverId : Option String)
    (hc : h.state = .connecting) (hs : h.store = none) :
    startSession g serverId h = (.error .identityNotEstablished, h) := by
  simp only [startSession, Try.bind_apply, Try.get_apply]
  rw [if_neg (not_not_intro hc)]
  simp only [Try.bind_apply, establishedIdentity_of_none g hs]

theorem startSession_of_some {h : Handshake S W} {s : S} (serverId : Option String)
    (hc : h.state = .connecting) (hs : h.store = some s) :
    startSession g serverId h = announce (g.stores.identity s h.world).1
      (sendRequest g (.startSession (g.stores.identity s h.world).1 g.session serverId)
        (h.inWorld (g.stores.identity s h.world).2)) := by
  simp only [startSession, Try.bind_apply, Try.get_apply]
  rw [if_neg (not_not_intro hc)]
  simp only [Try.bind_apply, establishedIdentity_of_some g hs]
  rcases sendRequest g _ _ with ⟨_ | _, h⟩ <;> rfl

theorem send_of_ne {h : Handshake S W} (r : Request) (hc : h.state ≠ .connected) :
    send g r h = (.error .notConnected, h) := by
  simp only [send, Try.bind_apply, Try.get_apply]
  rw [if_pos hc]
  rfl

theorem send_of_connected {h : Handshake S W} (r : Request) (hc : h.state = .connected) :
    send g r h = sendRequest g r h := by
  simp only [send, Try.bind_apply, Try.get_apply]
  rw [if_neg (not_not_intro hc)]

/-! ## Opening -/

theorem onOpen_of_bound {h : Handshake S W} {b : Nat} (channel : Nat) (lock : Option HomeLock)
    (hb : h.outbound.bound = some b) :
    onOpen g channel lock h = (.error .senderAlreadyBound,
      { h with lock := lock, outbound := h.outbound.dropSending channel }) := by
  simp [onOpen, bindChannel, Try.bind_apply, Outbound.bind, hb]

theorem onOpen_of_unbound {h : Handshake S W} (channel : Nat) (lock : Option HomeLock)
    (hb : h.outbound.bound = none) :
    onOpen g channel lock h = introduce g (changeState g .connecting
      { h with lock := lock, outbound := { h.outbound with bound := some channel } }) := by
  simp [onOpen, bindChannel, Try.bind_apply, Outbound.bind, hb]

/-- The store that is found when a client introduces itself. -/
def Found (h : Handshake S W) (s : S) : Prop :=
  (g.stores.installed h.world).1 = true ∧
    ∃ i, (g.stores.openFor none (g.stores.installed h.world).2).1 = .ok i ∧ i.store = s

/-- The client introduces itself as unknown or by the identity of the store that was found, unless
no store can be opened. -/
theorem introduce_cases (h : Handshake S W) :
    (∃ e w, introduce g h = (.error e, h.inWorld w)) ∨
    (∃ w, introduce g h = sendRequest g .identifyUnknown (h.inWorld w)) ∨
    (∃ s w, Found g h s ∧
      introduce g h = sendRequest g .identifyUnknown ((keepStore s h).inWorld w)) ∨
    ∃ s i t w, (Found g h s ∧ ∃ v, (g.stores.identity s v).1 = i) ∧
      introduce g h = sendRequest g (.identifyAs i t) ((keepStore s h).inWorld w) := by
  simp only [introduce, Found, Try.bind_apply, Try.modifyGet_apply, consult_eq]
  cases hi : (g.stores.installed h.world).1 with
  | true =>
    rw [if_pos rfl]
    simp only [Try.bind_apply, openStore_eq, world_inWorld, inWorld_inWorld]
    rcases ho : g.stores.openFor none (g.stores.installed h.world).2 with ⟨e | s | s, w⟩
    · exact .inl ⟨_, _, rfl⟩
    · exact .inr (.inr (.inl ⟨s, w, ⟨trivial, _, rfl, rfl⟩, rfl⟩))
    · exact .inr (.inr (.inr ⟨s, (g.stores.identity s w).1,
        (g.stores.token s (g.stores.identity s w).2).1,
        (g.stores.token s (g.stores.identity s w).2).2, ⟨⟨trivial, _, rfl, rfl⟩, w, rfl⟩, rfl⟩))
  | false =>
    rw [if_neg Bool.false_ne_true]
    exact .inr (.inl ⟨_, rfl⟩)

end SealedSession.Handshake
