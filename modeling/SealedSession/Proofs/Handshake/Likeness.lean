import SealedSession.Proofs.Handshake.Events

/-!
# Handshakes alike

Two handshakes may be set up differently and still do the same: because they differ in a secret that
neither may show, or because one of them has stores that keep a record of what they are asked. A
`Likeness` says which worlds and which events count as the same, and that the stores give the same
answers in worlds that do. Then whatever is asked of the two of them has the same results and leaves
them alike.

* `Likeness.Matches`: two programs that do the same with handshakes alike. It is closed under the
  sequence of programs, so that each handler matches because its parts do.
* `Likeness.matches_handle`: the handlers of all responses but the `Response.isVerdict` ones, which
  change the state. They match whatever becomes of changes of the state.
* `Likeness.Whole`: changes of the state count as the same, too.
* `Whole.matches_perform`, `Whole.alike_run`: all operations, and all runs.
-/

namespace SealedSession

/-- The state that an event tells of. -/
def Event.entered? : Event → Option ConnectionState
  | .stateChanged s => some s
  | _ => none

/-- Whether a response changes the state of the client that accepts it. -/
def Response.isVerdict : Response → Bool
  | .sessionFailed _ | .isTrusted _ | .isUntrusted => true
  | _ => false

section Congruence

variable {α : Type} [Payload α] {m m' : α} (hm : Payload.encode m = Payload.encode m')

include hm

/-- An envelope depends on its message through its payload alone. -/
theorem Envelope.encodePlain_congr : encodePlain m = encodePlain m' := by
  rw [encodePlain, hm, encodePlain]

theorem Envelope.encodeFor_congr (cipher : Option Cipher) (recipient : Option Identity) :
    encodeFor cipher recipient m = encodeFor cipher recipient m' := by
  unfold encodeFor
  rw [hm]

end Congruence

/-- A request of another world: what happens to the world by itself happens there instead. -/
def Operation.map {W W' : Type} (f : (W → W) → W' → W') : Operation W → Operation W'
  | .onOpen channel lock => .onOpen channel lock
  | .receive bytes => .receive bytes
  | .onClose close => .onClose close
  | .onFailure => .onFailure
  | .disconnect => .disconnect
  | .fail message => .fail message
  | .saveOnShutdown => .saveOnShutdown
  | .startSession serverId => .startSession serverId
  | .send r => .send r
  | .sendKeepalive identity => .sendKeepalive identity
  | .takeEvents => .takeEvents
  | .createChannel => .createChannel
  | .takeEnvelope channel => .takeEnvelope channel
  | .dropReceiving channel => .dropReceiving channel
  | .elapse change => .elapse (f change)

theorem Operation.map_id {W : Type} (op : Operation W) : op.map id = op := by
  cases op <;> rfl

namespace Handshake

variable {S W W' : Type}

/-- Two calls of stores have the same answer, and leave worlds that are related. -/
def Echo {α : Type} (world : W → W' → Prop) (x : α × W) (y : α × W') : Prop :=
  x.1 = y.1 ∧ world x.2 y.2

/-- So have two calls that may change the store itself. -/
def EchoWith {α : Type} (world : W → W' → Prop) (x : α × S × W) (y : α × S × W') : Prop :=
  x.1 = y.1 ∧ Echo world x.2 y.2

/-- Which worlds and which events of two handshakes count as the same, as far as the state does not
change. -/
structure Likeness (g : Settings S W) (g' : Settings S W') where
  world : W → W' → Prop
  events : List Event → List Event → Prop
  session : g.session.withoutToken = g'.session.withoutToken
  refreshLimit : g.refreshLimit = g'.refreshLimit
  complaint : g.complaint = g'.complaint
  installed {w w'} (hw : world w w') : Echo world (g.stores.installed w) (g'.stores.installed w')
  openFor (owner) {w w'} (hw : world w w') :
    Echo world (g.stores.openFor owner w) (g'.stores.openFor owner w')
  identity (s) {w w'} (hw : world w w') :
    Echo world (g.stores.identity s w) (g'.stores.identity s w')
  token (s) {w w'} (hw : world w w') : Echo world (g.stores.token s w) (g'.stores.token s w')
  cipher (s) {w w'} (hw : world w w') : Echo world (g.stores.cipher s w) (g'.stores.cipher s w')
  trust (i bundle s) {w w'} (hw : world w w') :
    EchoWith world (g.stores.trust i bundle s w) (g'.stores.trust i bundle s w')
  registerDevice (profile device s) {w w'} (hw : world w w') :
    EchoWith world (g.stores.registerDevice profile device s w)
      (g'.stores.registerDevice profile device s w')
  offer (target s) {w w'} (hw : world w w') :
    EchoWith world (g.stores.offer target s w) (g'.stores.offer target s w')
  emit {es es'} (e : Event) (hn : e.entered? = none) (hv : e.isVerification = false)
    (he : events es es') : events (es ++ [e]) (es' ++ [e])
  /-- Each side has its own session verified. -/
  verify {es es'} (key secret) (he : events es es') :
    events (es ++ [.verifyAccount g.session key secret])
      (es' ++ [.verifyAccount g'.session key secret])

/-- The same client with another token, or with none. -/
def Settings.withToken (g : Settings S W) (token : Option String) : Settings S W :=
  { g with session := { g.session with accessToken := token } }

/-- Clients with the same stores, whose sessions may differ in their tokens. -/
def Likeness.ofToken {g : Settings S W} (token : Option String)
    (events : List Event → List Event → Prop)
    (emit : ∀ es es' e, e.isVerification = false → events es es' →
      events (es ++ [e]) (es' ++ [e]))
    (verify : ∀ es es' key secret, events es es' →
      events (es ++ [.verifyAccount g.session key secret])
        (es' ++ [.verifyAccount (g.withToken token).session key secret])) :
    Likeness g (g.withToken token) where
  world := Eq
  events := events
  session := rfl
  refreshLimit := rfl
  complaint := rfl
  installed hw := hw ▸ ⟨rfl, rfl⟩
  openFor _ _ _ hw := hw ▸ ⟨rfl, rfl⟩
  identity _ _ _ hw := hw ▸ ⟨rfl, rfl⟩
  token _ _ _ hw := hw ▸ ⟨rfl, rfl⟩
  cipher _ _ _ hw := hw ▸ ⟨rfl, rfl⟩
  trust _ _ _ _ _ hw := hw ▸ ⟨rfl, rfl, rfl⟩
  registerDevice _ _ _ _ _ hw := hw ▸ ⟨rfl, rfl, rfl⟩
  offer _ _ _ _ hw := hw ▸ ⟨rfl, rfl, rfl⟩
  emit e _ := emit _ _ e
  verify := verify _ _

namespace Likeness

variable {g : Settings S W} {g' : Settings S W'} (L : Likeness g g')

/-- Two handshakes agree in everything but the world and the events, which count as the same. -/
structure Alike (h : Handshake S W) (h' : Handshake S W') : Prop where
  state : h.state = h'.state
  phase : h.phase = h'.phase
  outbound : h.outbound = h'.outbound
  store : h.store = h'.store
  server : h.serverIdentity = h'.serverIdentity
  lock : h.lock = h'.lock
  failures : h.cipherFailures = h'.cipherFailures
  world : L.world h.world h'.world
  events : L.events h.events h'.events

/-- Two programs have the same result with handshakes alike, and leave them alike. -/
def Matches {α : Type} (x : Try S W α) (y : Try S W' α) : Prop :=
  ∀ h h', L.Alike h h' → (x h).1 = (y h').1 ∧ L.Alike (x h).2 (y h').2

section Programs

variable {L} {α β : Type} {h : Handshake S W} {h' : Handshake S W'}

theorem Alike.inWorld (ha : L.Alike h h') {w : W} {w' : W'} (hw : L.world w w') :
    L.Alike (h.inWorld w) (h'.inWorld w') :=
  { ha with world := hw }

theorem Alike.withOutbound (ha : L.Alike h h') {o o' : Outbound} (ho : o = o') :
    L.Alike (h.withOutbound o) (h'.withOutbound o') :=
  { ha with outbound := ho }

theorem Alike.emit (ha : L.Alike h h') {e : Event} (hn : e.entered? = none)
    (hv : e.isVerification = false) : L.Alike (h.emit e) (h'.emit e) :=
  { ha with events := L.emit e hn hv ha.events }

theorem Alike.keepStore (ha : L.Alike h h') (s : S) : L.Alike (keepStore s h) (keepStore s h') :=
  { ha with store := rfl }

theorem Alike.setPhase (ha : L.Alike h h') (p : Phase) :
    L.Alike (h.setPhase p) (h'.setPhase p) := by
  unfold Handshake.setPhase
  by_cases hc : h.state = .connecting
  · rw [if_pos hc, if_pos (ha.state ▸ hc)]
    exact { ha with phase := rfl }
  · rw [if_neg hc, if_neg (ha.state ▸ hc)]
    exact ha

theorem Matches.pure (a : α) : L.Matches (pure a) (pure a) := fun _ _ ha ↦ ⟨rfl, ha⟩

theorem Matches.throw (e : ClientError) :
    L.Matches (throw e : Try S W α) (throw e : Try S W' α) := fun _ _ ha ↦ ⟨rfl, ha⟩

theorem Matches.bind {x : Try S W α} {y : Try S W' α} {f : α → Try S W β} {f' : α → Try S W' β}
    (hx : L.Matches x y) (hf : ∀ a, L.Matches (f a) (f' a)) : L.Matches (x >>= f) (y >>= f') := by
  intro h h' ha
  obtain ⟨hr, hn⟩ := hx h h' ha
  rw [Try.bind_apply, Try.bind_apply]
  rcases hk : x h with ⟨e | a, k⟩ <;> rcases hk' : y h' with ⟨e' | a', k'⟩ <;>
    rw [hk, hk'] at hr hn <;> cases hr
  · exact ⟨rfl, hn⟩
  · exact hf a k k' hn

/-- What a program reads of handshakes alike, it may use of each of them. -/
theorem Matches.get_bind {f : Handshake S W → Try S W α} {f' : Handshake S W' → Try S W' α}
    (hf : ∀ h h', L.Alike h h' → L.Matches (f h) (f' h')) : L.Matches (get >>= f) (get >>= f') := by
  intro h h' ha
  rw [Try.bind_apply, Try.bind_apply]
  exact hf h h' ha h h' ha

theorem Matches.modify {f : Handshake S W → Handshake S W} {f' : Handshake S W' → Handshake S W'}
    (hf : ∀ h h', L.Alike h h' → L.Alike (f h) (f' h')) :
    L.Matches (modify f) (modify f') := fun h h' ha ↦ ⟨rfl, hf h h' ha⟩

theorem Matches.modifyGet {f : Handshake S W → α × Handshake S W}
    {f' : Handshake S W' → α × Handshake S W'}
    (hf : ∀ h h', L.Alike h h' → (f h).1 = (f' h').1 ∧ L.Alike (f h).2 (f' h').2) :
    L.Matches (modifyGet f) (modifyGet f') := by
  intro h h' ha
  obtain ⟨hr, hn⟩ := hf h h' ha
  exact ⟨congrArg Except.ok hr, hn⟩

theorem Matches.liftExcept (r : Except ClientError α) :
    L.Matches (liftExcept r) (liftExcept r) := by
  intro h h' ha
  rw [Try.liftExcept_apply, Try.liftExcept_apply]
  exact ⟨rfl, ha⟩

/-- Stores that are asked the same give the same answer. -/
theorem Alike.consult (ha : L.Alike h h') {call : W → α × W} {call' : W' → α × W'}
    (hc : Echo L.world (call h.world) (call' h'.world)) :
    (h.consult call).1 = (h'.consult call').1 ∧
      L.Alike (h.consult call).2 (h'.consult call').2 :=
  ⟨hc.1, ha.inWorld hc.2⟩

end Programs

/-! ## Questions to the store -/

theorem matches_identity? : L.Matches (modifyGet (identity? g)) (modifyGet (identity? g')) := by
  refine .modifyGet fun h h' ha ↦ ?_
  cases hs : h.store with
  | none =>
    rw [identity?_of_none g hs, identity?_of_none g' (ha.store ▸ hs)]
    exact ⟨rfl, ha⟩
  | some s =>
    rw [identity?_of_some g hs, identity?_of_some g' (ha.store ▸ hs)]
    obtain ⟨hi, hw⟩ := L.identity s ha.world
    exact ⟨congrArg some hi, ha.inWorld hw⟩

theorem matches_cipher? : L.Matches (modifyGet (cipher? g)) (modifyGet (cipher? g')) := by
  refine .modifyGet fun h h' ha ↦ ?_
  cases hs : h.store with
  | none =>
    rw [cipher?_of_none g hs, cipher?_of_none g' (ha.store ▸ hs)]
    exact ⟨rfl, ha⟩
  | some s =>
    rw [cipher?_of_some g hs, cipher?_of_some g' (ha.store ▸ hs)]
    obtain ⟨hc, hw⟩ := L.cipher s ha.world
    exact ⟨congrArg some hc, ha.inWorld hw⟩

theorem matches_establishedIdentity :
    L.Matches (establishedIdentity g) (establishedIdentity g') := by
  refine .bind L.matches_identity? fun i ↦ ?_
  cases i with
  | none => exact .throw _
  | some i => exact .pure i

theorem matches_openStore (owner : Option Uuid) :
    L.Matches (openStore g owner) (openStore g' owner) := by
  refine .bind (.modifyGet fun h h' ha ↦ ha.consult (L.openFor owner ha.world)) fun r ↦ ?_
  cases r with
  | ok i => exact .pure i
  | error e => exact .throw _

theorem matches_offer (target : Option ServerIdentity) :
    L.Matches (Handshake.offer g target) (Handshake.offer g' target) := by
  intro h h' ha
  cases hs : h.store with
  | none =>
    rw [offer_of_none g target hs, offer_of_none g' target (ha.store ▸ hs)]
    exact ⟨rfl, ha⟩
  | some s =>
    rw [offer_of_some g target hs, offer_of_some g' target (ha.store ▸ hs)]
    obtain ⟨hr, ht, hw⟩ := L.offer target s ha.world
    refine ⟨by rw [hr], ?_⟩
    rw [ht]
    exact (ha.keepStore _).inWorld hw

theorem matches_presentation (s : S) :
    L.Matches (modifyGet (presentation g s)) (modifyGet (presentation g' s)) := by
  refine .modifyGet fun h h' ha ↦ ?_
  obtain ⟨hi, hw⟩ := L.identity s ha.world
  obtain ⟨ht, hv⟩ := L.token s hw
  refine ⟨?_, (ha.inWorld hw).inWorld hv⟩
  change Request.identifyAs _ _ = Request.identifyAs _ _
  congr 1

/-! ## Sending -/

theorem matches_queue (bytes : Bytes) :
    L.Matches (queue bytes) (queue bytes) := by
  intro h h' ha
  rw [queue_eq, queue_eq, ha.outbound]
  exact ⟨rfl, { ha with outbound := rfl }⟩

/-- Two requests that are written alike are sent alike. -/
theorem matches_sendRequest {r r' : Request} (hr : Payload.encode r = Payload.encode r') :
    L.Matches (sendRequest g r) (sendRequest g' r') := by
  refine .bind L.matches_cipher? fun cipher ↦ .get_bind fun h h' ha ↦ ?_
  rw [ha.state, ha.server, Envelope.encodeFor_congr hr, Envelope.encodePlain_congr hr]
  split
  · split
    · exact L.matches_queue _
    · split
      · exact .modify fun k k' hk ↦ hk.emit rfl rfl
      · exact .throw _
  · split
    · exact L.matches_queue _
    · exact .throw _

/-- Each side starts its own session, and both write the same of it. -/
theorem matches_startSession (serverId : Option String) :
    L.Matches (startSession g serverId) (startSession g' serverId) := by
  have hp (i : Identity) : Payload.encode (Request.startSession i g.session serverId) =
      Payload.encode (Request.startSession i g'.session serverId) := by
    change (Request.erased (.startSession i g.session serverId)).toJson.encode =
      (Request.erased (.startSession i g'.session serverId)).toJson.encode
    rw [Request.erased, Request.erased, L.session]
  refine .get_bind fun h h' ha ↦ ?_
  rw [ha.state]
  split
  · exact .throw _
  · exact .bind L.matches_establishedIdentity fun i ↦ .bind (L.matches_sendRequest (hp i))
      fun _ ↦ .modify fun k k' hk ↦ hk.emit rfl rfl

theorem matches_send (r : Request) : L.Matches (send g r) (send g' r) := by
  refine .get_bind fun h h' ha ↦ ?_
  rw [ha.state]
  split
  · exact .throw _
  · exact L.matches_sendRequest rfl

theorem matches_introduce : L.Matches (introduce g) (introduce g') := by
  refine .bind (.modifyGet fun h h' ha ↦ ha.consult (L.installed ha.world)) fun installed ↦ ?_
  split
  · refine .bind (L.matches_openStore none) fun i ↦ ?_
    cases i with
    | existing s =>
      exact .bind (L.matches_presentation s) fun r ↦
        .bind (.modify fun h h' ha ↦ ha.keepStore s) fun _ ↦ L.matches_sendRequest rfl
    | fresh s =>
      exact .bind (.modify fun h h' ha ↦ ha.keepStore s) fun _ ↦ L.matches_sendRequest rfl
  · exact L.matches_sendRequest rfl

/-! ## The handlers -/

theorem matches_setPhase (p : Phase) :
    L.Matches (modify (setPhase p)) (modify (setPhase p)) :=
  .modify fun _ _ ha ↦ ha.setPhase p

/-- The sessions of both sides have the same mode, so both are verified or none. -/
theorem matches_welcome (key secret : Bytes) :
    L.Matches (welcome g key secret) (welcome g' key secret) := by
  have mode : g.session.mode = g'.session.mode := by
    change g.session.withoutToken.mode = g'.session.withoutToken.mode
    rw [L.session]
  unfold welcome
  rw [mode]
  split
  · exact .modify fun h h' ha ↦ { ha with events := L.verify key secret ha.events }
  · exact L.matches_startSession none

theorem matches_onIdentify (profile : Profile) (key secret : Bytes) :
    L.Matches (onIdentify g profile key secret) (onIdentify g' profile key secret) := by
  have known := Matches.bind (L.matches_setPhase .awaitingSessionStart) fun _ ↦
    L.matches_welcome key secret
  unfold onIdentify
  refine .get_bind fun h h' ha ↦ ?_
  rw [ha.store]
  by_cases hs : h'.store.isNone = true
  · rw [if_pos hs, if_pos hs]
    exact .bind (L.matches_openStore (some profile.id)) fun i ↦
      .bind (.modify fun k k' hk ↦ hk.keepStore i.store) fun _ ↦ known
  · rw [if_neg hs, if_neg hs]
    exact known

theorem matches_onDeviceRegistered (profile : Profile) (device : UInt32) :
    L.Matches (onDeviceRegistered g profile device) (onDeviceRegistered g' profile device) := by
  unfold onDeviceRegistered
  refine .bind (L.matches_openStore _) fun i ↦ .get_bind fun h h' ha ↦ ?_
  obtain ⟨hr, hs, hw⟩ := L.registerDevice profile device i.store ha.world
  dsimp only
  rw [hr, hs]
  refine .bind (.modify fun k k' hk ↦ hk.inWorld hw) fun _ ↦ .bind (.liftExcept _) fun _ ↦
    .get_bind fun k k' hk ↦ ?_
  obtain ⟨ho, ht, hv⟩ := L.offer none
    (g'.stores.registerDevice profile device i.store h'.world).2.1 hk.world
  rw [ho, ht]
  exact .bind (.modify fun k k' hk ↦ hk.inWorld hv) fun _ ↦ .bind (.liftExcept _) fun o ↦
    .bind (.modify fun k k' hk ↦ hk.keepStore _) fun _ ↦
    .bind (L.matches_setPhase _) fun _ ↦ L.matches_sendRequest rfl

theorem matches_onSendPreKeys (identity : ServerIdentity) (bundle : Bytes) :
    L.Matches (onSendPreKeys g identity bundle) (onSendPreKeys g' identity bundle) := by
  unfold onSendPreKeys
  refine .get_bind fun h h' ha ↦ ?_
  rw [ha.store]
  split
  · exact .throw _
  · next s hs =>
    refine .get_bind fun k k' hk ↦ ?_
    obtain ⟨hr, ht, hw⟩ := L.trust identity bundle s hk.world
    dsimp only
    rw [hr, ht]
    refine .bind (.modify fun k k' hk ↦ (hk.keepStore _).inWorld hw) fun _ ↦
      .bind (.liftExcept _) fun _ ↦ .get_bind fun k k' hk ↦ ?_
    rw [hk.state]
    split
    · exact .bind (L.matches_presentation _) fun r ↦
        .bind (L.matches_setPhase _) fun _ ↦ L.matches_sendRequest rfl
    · exact .pure _

theorem matches_onResendPreKeys (target : Option ServerIdentity) :
    L.Matches (onResendPreKeys g target) (onResendPreKeys g' target) :=
  .bind (L.matches_offer target) fun _ ↦
    .bind (L.matches_setPhase _) fun _ ↦ L.matches_sendRequest rfl

theorem matches_onSessionStarted : L.Matches (onSessionStarted g) (onSessionStarted g') :=
  .bind L.matches_establishedIdentity fun _ ↦
    .bind (L.matches_setPhase _) fun _ ↦ L.matches_sendRequest rfl

/-- Handlers that do not change the state match, whatever becomes of changes of the state. -/
theorem matches_handle {m : Response} (hm : m.isVerdict = false) :
    L.Matches (handle g m) (handle g' m) := by
  cases m with
  | identify profile key secret => exact L.matches_onIdentify profile key secret
  | registerDevice url token =>
    exact .modify fun h h' ha ↦ ((ha.setPhase _).emit rfl rfl).emit rfl rfl
  | deviceRegistered profile device => exact L.matches_onDeviceRegistered profile device
  | sendPreKeys identity bundle => exact L.matches_onSendPreKeys identity bundle
  | resendPreKeys target => exact L.matches_onResendPreKeys target
  | startSession => exact L.matches_onSessionStarted
  | sessionFailed | isTrusted | isUntrusted => cases hm
  | keepAlive => exact .pure _
  | feature message => exact .modify fun h h' ha ↦ ha.emit rfl rfl

/-- Fresh prekeys are issued and sent. -/
theorem matches_refresh (target : Option ServerIdentity) :
    L.Matches (refresh g target) (refresh g' target) :=
  .bind (L.matches_offer target) fun _ ↦ L.matches_sendRequest rfl

/-! ## Changes of the state -/

/-- Changes of the state count as the same, and so does what they ask of the stores. -/
structure Whole : Prop where
  nil : L.events [] []
  entered {es es'} (state) (he : L.events es es') :
    L.events (es ++ [.stateChanged state]) (es' ++ [.stateChanged state])
  forgetGroups (s) {w w'} (hw : L.world w w') :
    Echo L.world (g.stores.forgetGroups s w) (g'.stores.forgetGroups s w')
  save (s) {w w'} (hw : L.world w w') :
    Echo L.world (g.stores.save s w) (g'.stores.save s w')

/-- Clients with the same stores ask them for the same when their state changes. -/
theorem Whole.ofToken {token : Option String} {events : List Event → List Event → Prop}
    {emit : ∀ es es' e, e.isVerification = false → events es es' →
      events (es ++ [e]) (es' ++ [e])}
    {verify : ∀ es es' key secret, events es es' →
      events (es ++ [.verifyAccount g.session key secret])
        (es' ++ [.verifyAccount (g.withToken token).session key secret])}
    (nil : events [] []) : (Likeness.ofToken token events emit verify).Whole where
  nil := nil
  entered _ he := emit _ _ _ rfl he
  forgetGroups _ _ _ hw := hw ▸ ⟨rfl, rfl⟩
  save _ _ _ hw := hw ▸ ⟨rfl, rfl⟩

namespace Whole

variable {L} (hL : L.Whole) {h : Handshake S W} {h' : Handshake S W'}

include hL

theorem alike_settleStore (ha : L.Alike h h') : L.Alike (settleStore g h) (settleStore g' h') := by
  unfold settleStore
  rw [ha.store]
  split
  · exact ha
  · next s hs =>
    obtain ⟨ht, hw⟩ := hL.forgetGroups s ha.world
    dsimp only
    rw [ht]
    exact { ha with store := rfl, world := (hL.save _ hw).2 }

theorem alike_enter (ha : L.Alike h h') (next : ConnectionState) :
    L.Alike (enter g next h) (enter g' next h') := by
  have entered {k : Handshake S W} {k' : Handshake S W'} (hk : L.Alike k k') :
      L.Alike (k.emit (.stateChanged next)) (k'.emit (.stateChanged next)) :=
    { hk with events := hL.entered next hk.events }
  apply entered
  by_cases hn : next = .disconnected
  · rw [if_pos hn, if_pos hn]
    apply hL.alike_settleStore
    exact { ha with
      state := rfl, phase := rfl, outbound := congrArg Outbound.unbind ha.outbound, server := rfl
      failures := rfl }
  · rw [if_neg hn, if_neg hn]
    exact { ha with state := rfl, phase := rfl }

theorem alike_changeState (ha : L.Alike h h') (next : ConnectionState) :
    L.Alike (changeState g next h) (changeState g' next h') := by
  have changed : L.Alike (if h.state = next then h else enter g next h)
      (if h'.state = next then h' else enter g' next h') := by
    rw [ha.state]
    split
    · exact ha
    · exact hL.alike_enter ha next
  unfold changeState
  by_cases hn : next = .disconnected
  · rw [if_pos hn, if_pos hn]
    exact { changed with lock := rfl }
  · rw [if_neg hn, if_neg hn]
    exact changed

theorem alike_leave (ha : L.Alike h h') : L.Alike (leave g h) (leave g' h') := by
  unfold leave
  rw [ha.state]
  split
  · exact ha
  · exact hL.alike_changeState ha .disconnected

theorem alike_fail (ha : L.Alike h h') (message : String) :
    L.Alike (fail g message h) (fail g' message h') :=
  hL.alike_changeState (ha.emit rfl rfl) .disconnected

theorem alike_onClose (ha : L.Alike h h') (close : Option CloseInfo) :
    L.Alike (onClose g close h) (onClose g' close h') := by
  unfold onClose
  rw [ha.state]
  split
  · exact hL.alike_leave (ha.emit rfl rfl)
  · exact hL.alike_leave ha

theorem alike_saveOnShutdown (ha : L.Alike h h') :
    L.Alike (saveOnShutdown g h) (saveOnShutdown g' h') := by
  unfold saveOnShutdown
  rw [ha.store]
  split
  · exact { ha with lock := rfl, store := rfl }
  · next s hs => exact { ha with lock := rfl, store := rfl, world := (hL.save s ha.world).2 }

theorem alike_onSessionFailed (ha : L.Alike h h') (failure : SessionFailure) :
    L.Alike (onSessionFailed g failure h) (onSessionFailed g' failure h') := by
  unfold onSessionFailed
  cases failure with
  | sessionError reason message =>
    simp only [failureEvent?]
    by_cases hr : reason = .normalClose
    · rw [if_pos hr]
      exact hL.alike_changeState ha .disconnected
    · rw [if_neg hr]
      exact hL.alike_changeState (ha.emit rfl rfl) .disconnected
  | _ => exact hL.alike_changeState (ha.emit rfl rfl) .disconnected

theorem matches_onOpen (channel : Nat) (lock : Option HomeLock) :
    L.Matches (onOpen g channel lock) (onOpen g' channel lock) := by
  have bound : L.Matches (bindChannel channel lock) (bindChannel channel lock) := by
    refine .get_bind fun h h' ha ↦ ?_
    rw [ha.outbound]
    exact .bind (.modify fun k k' hk ↦ { hk with lock := rfl, outbound := rfl }) fun _ ↦
      .liftExcept _
  exact .bind bound fun _ ↦
    .bind (.modify fun k k' hk ↦ hL.alike_changeState hk .connecting) fun _ ↦ L.matches_introduce

/-! ## Receiving -/

theorem matches_handle (m : Response) : L.Matches (handle g m) (handle g' m) := by
  cases hm : m.isVerdict with
  | false => exact L.matches_handle hm
  | true =>
    cases m with
    | sessionFailed failure => exact .modify fun h h' ha ↦ hL.alike_onSessionFailed ha failure
    | isTrusted identity =>
      refine .modify fun h h' ha ↦ ?_
      have named : L.Alike { h with serverIdentity := some identity }
          { h' with serverIdentity := some identity } := { ha with server := rfl }
      exact hL.alike_changeState named .connected
    | isUntrusted =>
      exact .modify fun h h' ha ↦ (hL.alike_changeState ha .disconnected).emit rfl rfl
    | _ => cases hm

theorem matches_recoverCipher : L.Matches (recoverCipher g) (recoverCipher g') := by
  intro h h' ha
  cases hs : h.store with
  | none =>
    rw [recoverCipher_of_none g hs, recoverCipher_of_none g' (ha.store ▸ hs)]
    exact ⟨rfl, ha⟩
  | some s =>
    have counted : L.Alike h.countFailure h'.countFailure :=
      { ha with failures := congrArg (· + 1) ha.failures }
    rw [recoverCipher_of_some g hs, recoverCipher_of_some g' (ha.store ▸ hs), ha.failures,
      L.refreshLimit, ha.server]
    split
    · exact ⟨rfl, hL.alike_fail counted _⟩
    · exact L.matches_refresh _ _ _ counted

theorem matches_receive (bytes : Bytes) : L.Matches (receive g bytes) (receive g' bytes) := by
  unfold receive
  refine .get_bind fun h h' ha ↦ ?_
  rw [ha.state]
  split
  · refine .bind L.matches_cipher? fun cipher ↦ .get_bind fun k k' hk ↦ ?_
    rw [hk.server, L.complaint]
    dsimp only
    split
    · exact .pure _
    · exact hL.matches_recoverCipher
    · exact .throw _
    · refine .bind (.modify fun j j' hj ↦ { hj with failures := rfl }) fun _ ↦
        .get_bind fun j j' hj ↦ ?_
      rw [hj.state, hj.phase]
      split
      · exact hL.matches_handle _
      · exact .pure _
  · exact .pure _

/-! ## All operations -/

/-- Whatever is done to handshakes alike, it has the same result and leaves them alike. -/
theorem matches_perform {f : (W → W) → W' → W'}
    (hf : ∀ change w w', L.world w w' → L.world (change w) (f change w')) (ha : L.Alike h h')
    (op : Operation W) :
    (perform g h op).1 = (perform g' h' (op.map f)).1 ∧
      L.Alike (perform g h op).2 (perform g' h' (op.map f)).2 := by
  cases op with
  | onOpen channel lock => exact hL.matches_onOpen channel lock h h' ha
  | receive bytes => exact hL.matches_receive bytes h h' ha
  | onClose close => exact ⟨rfl, hL.alike_onClose ha close⟩
  | onFailure => exact ⟨rfl, hL.alike_leave ha⟩
  | disconnect => exact ⟨rfl, hL.alike_changeState ha .disconnected⟩
  | fail message => exact ⟨rfl, hL.alike_fail ha message⟩
  | saveOnShutdown => exact ⟨rfl, hL.alike_saveOnShutdown ha⟩
  | startSession serverId => exact L.matches_startSession serverId h h' ha
  | send r => exact L.matches_send r h h' ha
  | sendKeepalive identity => exact L.matches_sendRequest rfl h h' ha
  | takeEvents => exact ⟨rfl, { ha with events := hL.nil }⟩
  | createChannel => exact ⟨rfl, ha.withOutbound (congrArg (·.create.1) ha.outbound)⟩
  | takeEnvelope channel =>
    exact ⟨rfl, ha.withOutbound
      (congrArg (fun o : Outbound ↦ ((o.take? channel).map (·.2)).getD o) ha.outbound)⟩
  | dropReceiving channel =>
    exact ⟨rfl, ha.withOutbound (congrArg (·.dropReceiving channel) ha.outbound)⟩
  | elapse change => exact ⟨rfl, ha.inWorld (hf change _ _ ha.world)⟩

/-- Runs from handshakes alike have the same results, and end alike. -/
theorem alike_run {f : (W → W) → W' → W'}
    (hf : ∀ change w w', L.world w w' → L.world (change w) (f change w')) (ha : L.Alike h h')
    (ops : List (Operation W)) :
    (history g h ops).map Moment.result = (history g' h' (ops.map (.map f))).map Moment.result ∧
      L.Alike (run g h ops) (run g' h' (ops.map (.map f))) := by
  induction ops generalizing h h' with
  | nil => exact ⟨rfl, ha⟩
  | cons op ops ih =>
    obtain ⟨hr, hn⟩ := hL.matches_perform hf ha op
    obtain ⟨hrs, hns⟩ := ih hn
    exact ⟨List.cons_eq_cons.mpr ⟨hr, hrs⟩, hns⟩

end Whole

end Likeness

end Handshake

end SealedSession
