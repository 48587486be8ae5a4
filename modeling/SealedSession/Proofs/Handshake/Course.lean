import SealedSession.Proofs.Handshake.Sending

/-!
# The course of an envelope

Whatever a server sends, a client takes one of three courses. It meets an obstacle and fails before
it has sent anything; or it prepares one request and sends it; or nothing is to be sent. Preparing a
request may change the phase, the store and the count of failures, but nothing that others could
see, so that the client can still fail without anybody noticing.

* `Reply`: the request that answers a response, made from what the store says at that time.
* `Denied`: what a store may refuse instead.
* `Unmoved`: what is left as it was before something is sent.
* `Course`: the three courses, told by the requests, the obstacles and the silence that they allow.
* `course_handle`, `course_recoverCipher`: each handler takes one of them.
* `course_receive`: and so does every envelope.
-/

namespace SealedSession

/-- Whether a client needs a store to act on a response. -/
def Response.needsStore : Response → Bool
  | .sendPreKeys _ _ | .resendPreKeys _ | .startSession => true
  | _ => false

/-- Whether a client answers a response that it accepts. -/
def Response.isAnswered (mode : SessionMode) (state : ConnectionState) : Response → Bool
  | .identify _ _ _ => mode ≠ .verified
  | .sendPreKeys _ _ => state ≠ .connected
  | .deviceRegistered _ _ | .resendPreKeys _ | .startSession => true
  | _ => false

namespace Handshake

variable {S W : Type} (g : Settings S W)

/-- Nothing was changed that others could see, and no store was given up. -/
structure Unmoved (h k : Handshake S W) : Prop where
  state : k.state = h.state
  outbound : k.outbound = h.outbound
  server : k.serverIdentity = h.serverIdentity
  lock : k.lock = h.lock
  events : k.events = h.events
  stored : h.store.isSome → k.store.isSome

section Unmoved

variable {h k l : Handshake S W}

theorem Unmoved.refl (h : Handshake S W) : Unmoved h h := ⟨rfl, rfl, rfl, rfl, rfl, id⟩

theorem Unmoved.trans (hk : Unmoved h k) (hl : Unmoved k l) : Unmoved h l where
  state := hl.state.trans hk.state
  outbound := hl.outbound.trans hk.outbound
  server := hl.server.trans hk.server
  lock := hl.lock.trans hk.lock
  events := hl.events.trans hk.events
  stored := fun hs ↦ hl.stored (hk.stored hs)

theorem Unmoved.inWorld (hk : Unmoved h k) (w : W) : Unmoved h (k.inWorld w) := { hk with }

theorem Unmoved.keepStore (hk : Unmoved h k) (s : S) : Unmoved h (keepStore s k) :=
  { hk with stored := fun _ ↦ rfl }

theorem Unmoved.countFailure (hk : Unmoved h k) : Unmoved h k.countFailure := { hk with }

theorem Unmoved.setPhase (hk : Unmoved h k) (p : Phase) : Unmoved h (setPhase p k) := by
  unfold Handshake.setPhase
  split
  · exact { hk with }
  · exact hk

@[simp] theorem world_setPhase (p : Phase) (h : Handshake S W) :
    (Handshake.setPhase p h).world = h.world := by
  unfold Handshake.setPhase
  split <;> rfl

theorem unmoved_cipher? (h : Handshake S W) : Unmoved h (cipher? g h).2 := by
  obtain ⟨w, hw⟩ := snd_cipher? g h
  rw [hw]
  exact (Unmoved.refl h).inWorld w

theorem unmoved_listening (h : Handshake S W) : Unmoved h (listening g h) :=
  { unmoved_cipher? g h with }

end Unmoved

/-! ## Sending -/

section Sending

variable {g} {r : Request} {h : Handshake S W} {e : ClientError}

/-- A request that cannot be sent leaves everything as it was, but for the world, in which the store
was asked for its cipher. -/
theorem sendRequest_of_error (he : (sendRequest g r h).1 = .error e) :
    (sendRequest g r h).2 = (cipher? g h).2 := by
  rw [sendRequest_eq] at he ⊢
  cases hv : envelope g r h with
  | ok bytes =>
    rw [hv] at he
    simp only [queue_eq] at he ⊢
    rw [Outbound.send_of_error he]
  | error x =>
    rw [hv] at he
    dsimp only at he ⊢
    split
    · next hu =>
      rw [if_pos hu] at he
      cases he
    · rfl

/-- It cannot be sent because its envelope cannot be made or cannot be queued. -/
theorem obstacle_of_sendRequest (he : (sendRequest g r h).1 = .error e) :
    (∃ x, envelope g r h = .error x ∧ e = .envelope x) ∨
      ∃ bytes, (h.outbound.send bytes).2 = .error e := by
  obtain ⟨w, hw⟩ := snd_cipher? g h
  rw [sendRequest_eq, hw] at he
  cases hv : envelope g r h with
  | ok bytes =>
    rw [hv] at he
    simp only [queue_eq] at he
    exact .inr ⟨bytes, he⟩
  | error x =>
    rw [hv] at he
    dsimp only at he
    split at he
    · cases he
    · cases he
      exact .inl ⟨x, rfl, rfl⟩

theorem fst_announce (i : Identity) (x : Except ClientError Unit × Handshake S W) :
    (announce i x).1 = x.1 := by
  rcases x with ⟨_ | _, k⟩ <;> rfl

theorem announce_of_error {i : Identity} {x : Except ClientError Unit × Handshake S W}
    (hx : x.1 = .error e) : announce i x = x := by
  rcases x with ⟨_ | _, k⟩
  · rfl
  · cases hx

end Sending

/-! ## Leaving -/

/-- The channel was let go of, or it had been before. -/
def Unbound (h h' : Handshake S W) : Prop :=
  h'.state = .disconnected ∧ (h'.outbound = h.outbound.unbind ∨ h'.outbound = h.outbound)

theorem unbound_changeState (h : Handshake S W) : Unbound h (changeState g .disconnected h) := by
  refine ⟨state_changeState g h _, ?_⟩
  unfold changeState
  rw [if_pos rfl]
  by_cases hc : h.state = .disconnected
  · rw [if_pos hc]
    exact .inr rfl
  · rw [if_neg hc]
    refine .inl ?_
    simp only [enter, reduceCtorEq, if_false, if_true, emit, teardown, settleStore]
    split <;> rfl

theorem unbound_leave (h : Handshake S W) : Unbound h (leave g h) := by
  unfold leave
  split
  · next hc => exact ⟨hc, .inr rfl⟩
  · exact unbound_changeState g h

/-! ## The courses -/

/-- The request that answers an accepted response, made from what the store says at that time. -/
inductive Reply (h : Handshake S W) : Response → Request → Prop where
  | identified {s : S} (profile : Profile) (key secret : Bytes) (mode : g.session.mode ≠ .verified)
      (held : h.store = some s) :
      Reply h (.identify profile key secret)
        (.startSession (g.stores.identity s h.world).1 g.session none)
  | admitted {i : Installation S} {w : W} (profile : Profile) (key secret : Bytes)
      (mode : g.session.mode ≠ .verified) (missing : h.store = none)
      (opened : g.stores.openFor (some profile.id) h.world = (.ok i, w)) :
      Reply h (.identify profile key secret)
        (.startSession (g.stores.identity i.store w).1 g.session none)
  | approved {i : Installation S} {s t : S} {w w' w'' : W} {o : PreKeyOffer} (profile : Profile)
      (device : UInt32) (opened : g.stores.openFor (some profile.id) h.world = (.ok i, w))
      (registered : g.stores.registerDevice profile device i.store w = (.ok (), s, w'))
      (offered : g.stores.offer none s w' = (.ok o, t, w'')) :
      Reply h (.deviceRegistered profile device) (.sendPreKeys o)
  | exchanged {s t : S} {w : W} (identity : ServerIdentity) (bundle : Bytes)
      (active : h.state ≠ .connected) (held : h.store = some s)
      (trusted : g.stores.trust identity bundle s h.world = (.ok (), t, w)) :
      Reply h (.sendPreKeys identity bundle)
        (.identify (some (g.stores.identity t w).1)
          (some (g.stores.token t (g.stores.identity t w).2).1))
  | resent {s t : S} {w : W} {o : PreKeyOffer} (target : Option ServerIdentity)
      (held : h.store = some s) (offered : g.stores.offer target s h.world = (.ok o, t, w)) :
      Reply h (.resendPreKeys target) (.sendPreKeys o)
  | started {s : S} (held : h.store = some s) :
      Reply h .startSession (.checkTrust (g.stores.identity s h.world).1)

/-- The request by which a session is mended: prekeys that the store has issued for the server. -/
inductive Mending (h : Handshake S W) : Request → Prop where
  | offered {s t : S} {w : W} {o : PreKeyOffer} (held : h.store = some s)
      (offered : g.stores.offer h.serverIdentity s h.world = (.ok o, t, w)) :
      Mending h (.sendPreKeys o)

/-- A store refuses what a client needs to act on a response. -/
inductive Denied (h : Handshake S W) : Response → StoreError → Prop where
  | unadmitted {e : StoreError} {w : W} (profile : Profile) (key secret : Bytes)
      (missing : h.store = none)
      (unopened : g.stores.openFor (some profile.id) h.world = (.error e, w)) :
      Denied h (.identify profile key secret) e
  | unopened {e : StoreError} {w : W} (profile : Profile) (device : UInt32)
      (unopened : g.stores.openFor (some profile.id) h.world = (.error e, w)) :
      Denied h (.deviceRegistered profile device) e
  | unregistered {i : Installation S} {s : S} {e : StoreError} {w w' : W} (profile : Profile)
      (device : UInt32) (opened : g.stores.openFor (some profile.id) h.world = (.ok i, w))
      (unregistered : g.stores.registerDevice profile device i.store w = (.error e, s, w')) :
      Denied h (.deviceRegistered profile device) e
  | unoffered {i : Installation S} {s t : S} {e : StoreError} {w w' w'' : W} (profile : Profile)
      (device : UInt32) (opened : g.stores.openFor (some profile.id) h.world = (.ok i, w))
      (registered : g.stores.registerDevice profile device i.store w = (.ok (), s, w'))
      (unoffered : g.stores.offer none s w' = (.error e, t, w'')) :
      Denied h (.deviceRegistered profile device) e
  | untrusted {s t : S} {e : StoreError} {w : W} (identity : ServerIdentity) (bundle : Bytes)
      (held : h.store = some s)
      (untrusted : g.stores.trust identity bundle s h.world = (.error e, t, w)) :
      Denied h (.sendPreKeys identity bundle) e
  | unresent {s t : S} {e : StoreError} {w : W} (target : Option ServerIdentity)
      (held : h.store = some s)
      (unoffered : g.stores.offer target s h.world = (.error e, t, w)) :
      Denied h (.resendPreKeys target) e

/-- What may keep a client from acting on a response before it sends anything. -/
inductive Obstacle (h : Handshake S W) (m : Response) : ClientError → Prop where
  | store {e : StoreError} (denied : Denied g h m e) : Obstacle h m (.store e)
  | missing (needs : m.needsStore = true) (missing : h.store = none) :
      Obstacle h m .identityNotEstablished
  | idle {profile : Profile} {key secret : Bytes} (identify : m = .identify profile key secret)
      (idle : h.state ≠ .connecting) : Obstacle h m .notConnected

/-- What may keep it from mending a session: the store issues no prekeys. -/
inductive Unmended (h : Handshake S W) : ClientError → Prop where
  | unoffered {s t : S} {e : StoreError} {w : W} (held : h.store = some s)
      (unoffered : g.stores.offer h.serverIdentity s h.world = (.error e, t, w)) :
      Unmended h (.store e)

/-- A client meets an obstacle before it has sent anything, or it sends one request, or it sends
nothing. -/
inductive Course (requests : Request → Prop) (obstacles : ClientError → Prop) (silence : Prop)
    (h : Handshake S W) : Except ClientError Unit × Handshake S W → Prop where
  | failed {e : ClientError} {k : Handshake S W} (obstacle : obstacles e) (unmoved : Unmoved h k) :
      Course requests obstacles silence h (.error e, k)
  | sent {r : Request} {k : Handshake S W} (due : requests r) (unmoved : Unmoved h k) :
      Course requests obstacles silence h (sendRequest g r k)
  /-- Having sent it, the client announces its identity. -/
  | announced {r : Request} {k : Handshake S W} (i : Identity) (due : requests r)
      (connecting : h.state = .connecting) (unmoved : Unmoved h k) :
      Course requests obstacles silence h (announce i (sendRequest g r k))
  | quiet {k : Handshake S W} (silent : silence)
      (outbound : k.outbound = h.outbound ∨ Unbound h k) :
      Course requests obstacles silence h (.ok (), k)

namespace Course

variable {g} {requests requests' : Request → Prop} {obstacles obstacles' : ClientError → Prop}
  {silence silence' : Prop} {h k : Handshake S W} {x : Except ClientError Unit × Handshake S W}

theorem mono (hx : Course g requests obstacles silence h x) (hr : ∀ r, requests r → requests' r)
    (ho : ∀ e, obstacles e → obstacles' e) (hs : silence → silence') :
    Course g requests' obstacles' silence' h x := by
  cases hx with
  | failed obstacle unmoved => exact .failed (ho _ obstacle) unmoved
  | sent due unmoved => exact .sent (hr _ due) unmoved
  | announced i due connecting unmoved => exact .announced i (hr _ due) connecting unmoved
  | quiet silent outbound => exact .quiet (hs silent) outbound

/-- A course may begin after something was prepared. -/
theorem from_unmoved (hx : Course g requests obstacles silence k x) (hk : Unmoved h k) :
    Course g requests obstacles silence h x := by
  cases hx with
  | failed obstacle unmoved => exact .failed obstacle (hk.trans unmoved)
  | sent due unmoved => exact .sent due (hk.trans unmoved)
  | announced i due connecting unmoved =>
    exact .announced i due (hk.state.symm.trans connecting) (hk.trans unmoved)
  | quiet silent outbound =>
    refine .quiet silent ?_
    rcases outbound with ho | ⟨hd, hu⟩
    · exact .inl (ho.trans hk.outbound)
    · exact .inr ⟨hd, hk.outbound ▸ hu⟩

end Course

/-! ## The handlers -/

section Handlers

variable {h : Handshake S W}

/-- A client that is welcomed starts its session, unless the account has to be verified first. -/
theorem course_welcome {k : Handshake S W} {s : S} (hk : Unmoved h k) (hs : k.store = some s)
    (profile : Profile) (key secret : Bytes)
    (reply : g.session.mode ≠ .verified → Reply g h (.identify profile key secret)
      (.startSession (g.stores.identity s k.world).1 g.session none)) :
    Course g (Reply g h (.identify profile key secret)) (Obstacle g h (.identify profile key secret))
      ((Response.identify profile key secret).isAnswered g.session.mode h.state = false) h
      (welcome g key secret k) := by
  unfold welcome
  by_cases hm : g.session.mode = .verified
  · rw [if_pos hm]
    exact .quiet (by simp [Response.isAnswered, hm]) (.inl hk.outbound)
  · rw [if_neg hm]
    by_cases hc : h.state = .connecting
    · rw [startSession_of_some g none (hk.state.trans hc) hs]
      exact .announced _ (reply hm) hc (hk.inWorld _)
    · rw [startSession_of_ne g none (hk.state ▸ hc)]
      exact .failed (.idle rfl hc) hk

theorem course_onIdentify (profile : Profile) (key secret : Bytes) (h : Handshake S W) :
    Course g (Reply g h (.identify profile key secret)) (Obstacle g h (.identify profile key secret))
      ((Response.identify profile key secret).isAnswered g.session.mode h.state = false) h
      (onIdentify g profile key secret h) := by
  cases hs : h.store with
  | none =>
    rw [onIdentify_of_none g hs]
    rcases ho : g.stores.openFor (some profile.id) h.world with ⟨e | i, w⟩
    · exact .failed (.store (.unadmitted profile key secret hs ho)) ((Unmoved.refl h).inWorld w)
    · refine course_welcome g ((((Unmoved.refl h).keepStore i.store).inWorld w).setPhase _)
        (store_setPhase _ _) profile key secret fun hm ↦ ?_
      rw [world_setPhase]
      exact .admitted profile key secret hm hs ho
  | some s =>
    rw [onIdentify_of_some g hs]
    refine course_welcome g ((Unmoved.refl h).setPhase _) ((store_setPhase _ h).trans hs) profile
      key secret fun hm ↦ ?_
    rw [world_setPhase]
    exact .identified profile key secret hm hs

theorem course_onDeviceRegistered (profile : Profile) (device : UInt32) (h : Handshake S W) :
    Course g (Reply g h (.deviceRegistered profile device))
      (Obstacle g h (.deviceRegistered profile device)) False h
      (onDeviceRegistered g profile device h) := by
  rw [onDeviceRegistered_eq]
  rcases hi : g.stores.openFor (some profile.id) h.world with ⟨e | i, w⟩
  · exact .failed (.store (.unopened profile device hi)) ((Unmoved.refl h).inWorld w)
  dsimp only
  rcases hr : g.stores.registerDevice profile device i.store w with ⟨e | _, s, w'⟩
  · exact .failed (.store (.unregistered profile device hi hr)) ((Unmoved.refl h).inWorld w')
  dsimp only
  rcases ho : g.stores.offer none s w' with ⟨e | o, t, w''⟩
  · exact .failed (.store (.unoffered profile device hi hr ho)) ((Unmoved.refl h).inWorld w'')
  · exact .sent (.approved profile device hi hr ho)
      ((((Unmoved.refl h).keepStore t).inWorld w'').setPhase _)

theorem course_onSendPreKeys (identity : ServerIdentity) (bundle : Bytes) (h : Handshake S W) :
    Course g (Reply g h (.sendPreKeys identity bundle)) (Obstacle g h (.sendPreKeys identity bundle))
      ((Response.sendPreKeys identity bundle).isAnswered g.session.mode h.state = false) h
      (onSendPreKeys g identity bundle h) := by
  cases hs : h.store with
  | none =>
    rw [onSendPreKeys_of_none g hs]
    exact .failed (.missing rfl hs) (.refl h)
  | some s =>
    rw [onSendPreKeys_of_some g hs]
    rcases ht : g.stores.trust identity bundle s h.world with ⟨e | _, t, w⟩
    · exact .failed (.store (.untrusted identity bundle hs ht))
        (((Unmoved.refl h).keepStore t).inWorld w)
    dsimp only
    by_cases hc : h.state = .connected
    · rw [if_pos hc]
      exact .quiet (by simp [Response.isAnswered, hc]) (.inl rfl)
    · rw [if_neg hc]
      exact .sent (.exchanged identity bundle hc hs ht)
        ((((Unmoved.refl h).keepStore t).inWorld _).setPhase _)

theorem course_onResendPreKeys (target : Option ServerIdentity) (h : Handshake S W) :
    Course g (Reply g h (.resendPreKeys target)) (Obstacle g h (.resendPreKeys target)) False h
      (onResendPreKeys g target h) := by
  cases hs : h.store with
  | none =>
    rw [onResendPreKeys_of_none g hs]
    exact .failed (.missing rfl hs) (.refl h)
  | some s =>
    rw [onResendPreKeys_of_some g hs]
    rcases ho : g.stores.offer target s h.world with ⟨e | o, t, w⟩
    · exact .failed (.store (.unresent target hs ho)) (((Unmoved.refl h).keepStore t).inWorld w)
    · exact .sent (.resent target hs ho) ((((Unmoved.refl h).keepStore t).inWorld w).setPhase _)

theorem course_onSessionStarted (h : Handshake S W) :
    Course g (Reply g h .startSession) (Obstacle g h .startSession) False h
      (onSessionStarted g h) := by
  cases hs : h.store with
  | none =>
    rw [onSessionStarted_of_none g hs]
    exact .failed (.missing rfl hs) (.refl h)
  | some s =>
    rw [onSessionStarted_of_some g hs]
    exact .sent (.started hs) (((Unmoved.refl h).inWorld _).setPhase _)

/-- Acting on a response is one course. -/
theorem course_handle (m : Response) (h : Handshake S W) :
    Course g (Reply g h m) (Obstacle g h m) (m.isAnswered g.session.mode h.state = false) h
      (handle g m h) := by
  cases m with
  | identify profile key secret => exact course_onIdentify g profile key secret h
  | deviceRegistered profile device =>
    exact (course_onDeviceRegistered g profile device h).mono (fun _ ↦ id) (fun _ ↦ id) False.elim
  | sendPreKeys identity bundle => exact course_onSendPreKeys g identity bundle h
  | resendPreKeys target =>
    exact (course_onResendPreKeys g target h).mono (fun _ ↦ id) (fun _ ↦ id) False.elim
  | startSession =>
    exact (course_onSessionStarted g h).mono (fun _ ↦ id) (fun _ ↦ id) False.elim
  | registerDevice url token => exact .quiet rfl (.inl (outbound_setPhase _ h))
  | sessionFailed failure =>
    refine .quiet rfl (.inr ?_)
    unfold onSessionFailed
    split
    · exact unbound_changeState g (h.emit _)
    · exact unbound_changeState g h
  | isTrusted identity => exact .quiet rfl (.inl (outbound_changeState g (by decide)))
  | isUntrusted => exact .quiet rfl (.inr (unbound_changeState g h))
  | keepAlive | feature _ => exact .quiet rfl (.inl rfl)

/-- So is mending the session, or giving it up. -/
theorem course_recoverCipher {s : S} (hs : h.store = some s) :
    Course g (Mending g h) (Unmended g h)
      (∃ limit, exceeds (h.cipherFailures + 1).toNat g.refreshLimit = some limit) h
      (recoverCipher g h) := by
  rw [recoverCipher_of_some g hs]
  cases hx : exceeds (h.cipherFailures + 1).toNat g.refreshLimit with
  | some limit => exact .quiet ⟨limit, rfl⟩ (.inr (unbound_changeState g (h.countFailure.emit _)))
  | none =>
    dsimp only
    rw [refresh_of_some g (h := h.countFailure) hs, world_countFailure]
    have counted : Unmoved h h.countFailure := (Unmoved.refl h).countFailure
    rcases ho : g.stores.offer h.serverIdentity s h.world with ⟨e | o, t, w⟩
    · exact .failed (.unoffered hs ho) ((counted.keepStore t).inWorld w)
    · exact .sent (.offered hs ho) ((counted.keepStore t).inWorld w)

end Handlers

/-! ## One envelope -/

/-- The request with which a client answers an envelope. -/
inductive Answer (bytes : Bytes) (h : Handshake S W) : Request → Prop where
  | reply {m : Response} {r : Request} (heard : heard? g bytes h = some m)
      (reply : Reply g (listening g h) m r) : Answer bytes h r
  /-- The envelope could not be decrypted. -/
  | mending {e : CipherError} {r : Request} (active : h.state ≠ .disconnected)
      (unread : reading g bytes h = .error (.cipher e)) (mending : Mending g (cipher? g h).2 r) :
      Answer bytes h r

/-- What may keep a client from acting on an envelope before it sends anything. -/
inductive Refusal (bytes : Bytes) (h : Handshake S W) : ClientError → Prop where
  | unreadable {e : EnvelopeError} (unread : reading g bytes h = .error e)
      (uncaused : e.asCipher = none) : Refusal bytes h (.envelope e)
  | denied {m : Response} {e : StoreError} (heard : heard? g bytes h = some m)
      (denied : Denied g (listening g h) m e) : Refusal bytes h (.store e)
  | missing {m : Response} (heard : heard? g bytes h = some m) (needs : m.needsStore = true)
      (missing : h.store = none) : Refusal bytes h .identityNotEstablished
  | idle {profile : Profile} {key secret : Bytes}
      (heard : heard? g bytes h = some (.identify profile key secret))
      (idle : h.state ≠ .connecting) : Refusal bytes h .notConnected
  | unmended {c : CipherError} {e : ClientError} (unread : reading g bytes h = .error (.cipher c))
      (unmended : Unmended g (cipher? g h).2 e) : Refusal bytes h e

/-- Every envelope takes one course. Only a response that is accepted and needs no answer may be
passed over in silence, besides what is no response that was accepted. -/
theorem course_receive (bytes : Bytes) (h : Handshake S W) :
    Course g (Answer g bytes h) (Refusal g bytes h)
      (∀ m, heard? g bytes h = some m → m.isAnswered g.session.mode h.state = false) h
      (receive g bytes h) := by
  by_cases hc : h.state = .disconnected
  · rw [receive_of_disconnected g bytes hc]
    exact .quiet (by simp [heard?, hc]) (.inl rfl)
  obtain ⟨w, hw⟩ := snd_cipher? g h
  have hst : (cipher? g h).2.store = h.store := by rw [hw]; rfl
  have asked := unmoved_cipher? g h
  have listens := unmoved_listening g h
  cases hm : heard? g bytes h with
  | some m =>
    obtain ⟨-, -, hr⟩ := receive_of_heard g hm
    rw [hr]
    refine ((course_handle g m (listening g h)).mono (fun r hr ↦ .reply hm hr) ?_ ?_).from_unmoved
      listens
    · rintro e (denied | ⟨hn, hs⟩ | ⟨rfl, hi⟩)
      · exact .denied hm denied
      · exact .missing hm hn (hst.symm.trans hs)
      · exact .idle hm (listens.state ▸ hi)
    · rintro ha m' hm'
      cases hm'
      rw [← listens.state]
      exact ha
  | none =>
    have silent : ∀ m, (none : Option Response) = some m →
        m.isAnswered g.session.mode h.state = false := by
      intro m hn
      cases hn
    rw [receive_eq g bytes hc]
    cases hr : reading g bytes h with
    | ok o =>
      cases o with
      | none => exact .quiet silent (.inl asked.outbound)
      | some m =>
        have hx : expects h.state h.phase m ≠ true := by
          intro hx
          simp [heard?, hc, hr, hx] at hm
        dsimp only
        rw [if_neg hx]
        exact .quiet silent (.inl listens.outbound)
    | error e =>
      cases e with
      | cipher c =>
        obtain ⟨s, -, hs⟩ := store_of_undecrypted g hr
        exact ((course_recoverCipher g hs).mono (fun r ↦ .mending hc hr)
          (fun e ↦ .unmended hr) fun _ ↦ silent).from_unmoved asked
      | _ => exact .failed (.unreadable hr rfl) asked

end Handshake

end SealedSession
