import SealedSession.HomeLock
import SealedSession.IdentityStore
import SealedSession.Outbound

/-! # The handshake

The handshake turns an opened socket into an encrypted session with a trusted server, or ends in
a stated way. It is a state machine without any activity of its own: the client feeds it what
arrives, in order, and then takes the events it has produced.

```text
awaitingIdentity ──registerDevice──▶ awaitingDeviceApproval
       │                                   │ deviceRegistered
       │                                   ▼
       │                             awaitingPreKeyAck ◀── resendPreKeys
       │ identify                          │ sendPreKeys
       ▼                                   ▼
awaitingSessionStart ◀─────────────────────┘
       │ startSession
       ▼
awaitingTrustDecision ──isTrusted──▶ connected
```

What is sent is encoded when it is sent, in the state of that moment: plainly while connecting,
encrypted for the identity that the server has confirmed once connected.

## Main definitions

* `Handshake.onOpen`, `Handshake.onClose`, `Handshake.onFailure`: the life of the socket.
* `Handshake.receive`: one envelope from the server.
* `Handshake.startSession`, `Handshake.send`, `Handshake.sendKeepalive`: what is sent unasked.
* `Handshake.disconnect`, `Handshake.fail`, `Handshake.saveOnShutdown`: the ends.

An operation that fails keeps what it did before it failed.
-/

namespace SealedSession

/-- Where the handshake is while connecting. -/
inductive Phase where
  | awaitingIdentity
  | awaitingDeviceApproval
  | awaitingPreKeyAck
  | awaitingSessionStart
  | awaitingTrustDecision
deriving DecidableEq, Repr, Inhabited

/-- The name of a phase. -/
def Phase.name : Phase → String
  | .awaitingIdentity => "AwaitingIdentity"
  | .awaitingDeviceApproval => "AwaitingDeviceApproval"
  | .awaitingPreKeyAck => "AwaitingPreKeyAck"
  | .awaitingSessionStart => "AwaitingSessionStart"
  | .awaitingTrustDecision => "AwaitingTrustDecision"

/-- What the handshake wants others to know or to do. -/
inductive Event where
  | stateChanged (state : ConnectionState)
  | error (message : String)
  | confirmDevice (token url : String)
  | accountVerificationFailed (session : PlayerSession)
  | privateIdentityMismatch (url : String)
  | clientUntrusted
  | feature (message : FeatureMessage)
  /-- The keepalive is to be restarted with this identity. -/
  | identified (identity : Identity)
  /-- The session has to be verified before it can start. -/
  | verifyAccount (session : PlayerSession) (serverPublicKey sharedSecret : Bytes)
  | awaitingApproval
deriving DecidableEq, Repr

/-- The state of one client. -/
structure Handshake (S W : Type) where
  state : ConnectionState := .disconnected
  /-- Where the handshake is, only while connecting. -/
  phase : Option Phase := none
  outbound : Outbound := {}
  store : Option S := none
  /-- The identity of the server, once it has confirmed that it trusts the client. -/
  serverIdentity : Option ServerIdentity := none
  lock : Option HomeLock := none
  /-- How many envelopes in a row could not be decrypted, counted in 32 bits. -/
  cipherFailures : UInt32 := 0
  /-- What was not taken yet, oldest first. -/
  events : List Event := []
  world : W

namespace Handshake

/-- What a handshake is set up with. -/
structure Settings (S W : Type) where
  stores : IdentityStores S W
  session : PlayerSession
  refreshLimit : Option Nat := none
  /-- What is said of a payload that holds no response. -/
  complaint : Bytes → String

variable {S W : Type}

/-- An operation that may fail; what it did before it failed is kept. -/
abbrev Try (S W : Type) := ExceptT ClientError (StateM (Handshake S W))

/-- Asks the world. -/
def consult {α : Type} (call : W → α × W) (h : Handshake S W) : α × Handshake S W :=
  let (a, w) := call h.world
  (a, { h with world := w })

/-- Produces an event. -/
def emit (e : Event) (h : Handshake S W) : Handshake S W :=
  { h with events := h.events ++ [e] }

/-- The events since the last time. -/
def takeEvents (h : Handshake S W) : List Event × Handshake S W :=
  (h.events, { h with events := [] })

variable (g : Settings S W)

/-- The identity of this client, once there is a store. -/
def identity? (h : Handshake S W) : Option Identity × Handshake S W :=
  match h.store with
  | none => (none, h)
  | some s =>
    let (i, h) := h.consult (g.stores.identity s)
    (some i, h)

/-- The cipher of the store, if there is one. -/
def cipher? (h : Handshake S W) : Option Cipher × Handshake S W :=
  match h.store with
  | none => (none, h)
  | some s =>
    let (c, h) := h.consult (g.stores.cipher s)
    (some c, h)

/-- Moves on within the handshake. -/
def setPhase (p : Phase) (h : Handshake S W) : Handshake S W :=
  if h.state = .connecting then { h with phase := some p } else h

/-- Ends the group sessions of the store and saves it, whether or not that succeeds. -/
def settleStore (h : Handshake S W) : Handshake S W :=
  match h.store with
  | none => h
  | some s =>
    let (s, w) := g.stores.forgetGroups s h.world
    let (_, w) := g.stores.save s w
    { h with store := some s, world := w }

/-- Lets go of everything that belongs to one connection. -/
def teardown (h : Handshake S W) : Handshake S W :=
  settleStore g
    { h with outbound := h.outbound.unbind, serverIdentity := none, cipherFailures := 0 }

/-- Enters a state that differs from the present one. -/
def enter (next : ConnectionState) (h : Handshake S W) : Handshake S W :=
  let phase := if next = .connecting then some .awaitingIdentity else none
  let h := { h with state := next, phase := phase }
  let h := if next = .disconnected then teardown g h else h
  h.emit (.stateChanged next)

/-- Enters a state. Being disconnected releases the lock in any case. -/
def changeState (next : ConnectionState) (h : Handshake S W) : Handshake S W :=
  let h := if h.state = next then h else enter g next h
  if next = .disconnected then { h with lock := none } else h

/-! ## Sending -/

/-- Queues an envelope. -/
def queue (bytes : Bytes) : Try S W Unit := do
  let (o, r) := (← get).outbound.send bytes
  modify fun h => { h with outbound := o }
  liftExcept r

/-- Encodes a request for the current state and queues it. A request that finds no cipher session
with the server is dropped, and the client reported as untrusted. -/
def sendRequest (r : Request) : Try S W Unit := do
  let cipher ← modifyGet (cipher? g)
  let h ← get
  if h.state = .connected then
    match Envelope.encodeFor cipher (h.serverIdentity.map (·.identity)) r with
    | .ok bytes => queue bytes
    | .error e =>
      if e.asCipher.any CipherError.isInvalidSession then modify (emit .clientUntrusted)
      else throw (.envelope e)
  else
    match Envelope.encodePlain r with
    | .ok bytes => queue bytes
    | .error e => throw (.envelope e)

/-- The identity of this client, which must have been established. -/
def establishedIdentity : Try S W Identity := do
  match ← modifyGet (identity? g) with
  | some identity => return identity
  | none => throw .identityNotEstablished

/-- Starts the session, with the proof of ownership if there is one. -/
def startSession (serverId : Option String) : Try S W Unit := do
  if (← get).state ≠ .connecting then
    throw .notConnected
  let identity ← establishedIdentity g
  sendRequest g (.startSession identity g.session serverId)
  modify (emit (.identified identity))

/-- Sends a request of the application. -/
def send (r : Request) : Try S W Unit := do
  if (← get).state ≠ .connected then
    throw .notConnected
  sendRequest g r

/-- Sends a probe. -/
def sendKeepalive (identity : Option Identity) : Try S W Unit :=
  sendRequest g (.keepAlive identity)

/-! ## The life of the socket -/

/-- The request that presents the identity of a store. -/
def presentation (s : S) (h : Handshake S W) : Request × Handshake S W :=
  let (identity, h) := h.consult (g.stores.identity s)
  let (token, h) := h.consult (g.stores.token s)
  (.identifyAs identity token, h)

/-- Opens the store for an owner. -/
def openStore (owner : Option Uuid) : Try S W (Installation S) := do
  match ← modifyGet (consult (g.stores.openFor owner)) with
  | .ok installation => return installation
  | .error e => throw (.store e)

/-- Makes a store the one in use. -/
def keepStore (s : S) (h : Handshake S W) : Handshake S W :=
  { h with store := some s }

/-- Binds the channel of an opened socket. The lock that comes with the socket replaces the one
that was held, even when the channel is refused. -/
def bindChannel (channel : Nat) (lock : Option HomeLock) : Try S W Unit := do
  let (o, bound) := (← get).outbound.bind channel
  modify fun h => { h with lock := lock, outbound := o }
  liftExcept bound

/-- Sends what the client knows of itself. -/
def introduce : Try S W Unit := do
  if ← modifyGet (consult g.stores.installed) then
    match ← openStore g none with
    | .existing s =>
      let r ← modifyGet (presentation g s)
      modify (keepStore s)
      sendRequest g r
    | .fresh s =>
      modify (keepStore s)
      sendRequest g .identifyUnknown
  else
    sendRequest g .identifyUnknown

/-- Binds the channel of an opened socket and identifies the client. The lock is held until the
client is next disconnected. -/
def onOpen (channel : Nat) (lock : Option HomeLock) : Try S W Unit := do
  bindChannel channel lock
  modify (changeState g .connecting)
  introduce g

/-- The error that a close frame amounts to. -/
def closeError? (c : CloseInfo) : Option String :=
  if c.isNormal then none
  else if c.reason = "" then some ("connection closed with code " ++ toString c.code.toNat)
  else some c.reason

/-- What is reported when the socket was closed in this state, with or without a close frame. -/
def closeReport? (state : ConnectionState) : Option CloseInfo → Option String
  | some c => closeError? c
  | none => if state = .disconnected then none else some "connection closed unexpectedly"

/-- Disconnects a client that is not. -/
def leave (h : Handshake S W) : Handshake S W :=
  if h.state = .disconnected then h else changeState g .disconnected h

/-- The socket was closed, with or without a close frame. -/
def onClose (close : Option CloseInfo) (h : Handshake S W) : Handshake S W :=
  match closeReport? h.state close with
  | some message => leave g (h.emit (.error message))
  | none => leave g h

/-- The socket failed; nobody is told why. -/
def onFailure (h : Handshake S W) : Handshake S W := leave g h

/-- Disconnects, and releases the lock in any case. -/
def disconnect (h : Handshake S W) : Handshake S W := changeState g .disconnected h

/-- Reports an error and disconnects. -/
def fail (message : String) (h : Handshake S W) : Handshake S W :=
  changeState g .disconnected (h.emit (.error message))

/-- Saves the store and releases the lock. -/
def saveOnShutdown (h : Handshake S W) : Handshake S W :=
  match h.store with
  | none => { h with lock := none }
  | some s => { h with world := (g.stores.save s h.world).2, lock := none }

/-! ## Receiving -/

/-- Whether a response fits the state and the phase. -/
def expects (state : ConnectionState) (phase : Option Phase) : Response → Bool
  | .keepAlive | .sessionFailed _ | .resendPreKeys _ => true
  | .identify _ _ _ => phase = some .awaitingIdentity || phase = some .awaitingSessionStart
  | .registerDevice _ _ => phase = some .awaitingIdentity
  | .deviceRegistered _ _ => phase = some .awaitingDeviceApproval
  | .sendPreKeys _ _ => phase = some .awaitingPreKeyAck || state = .connected
  | .startSession => phase = some .awaitingSessionStart
  | .isTrusted _ | .isUntrusted => phase = some .awaitingTrustDecision
  | .feature _ => state = .connected

/-- Issues prekeys from the store in use. -/
def offer (target : Option ServerIdentity) : Try S W PreKeyOffer := do
  match (← get).store with
  | none => throw .identityNotEstablished
  | some s =>
    let (r, s, w) := g.stores.offer target s (← get).world
    modify fun h => { h with store := some s, world := w }
    liftExcept (r.mapError ClientError.store)

/-- The account is known: the session is verified or started. -/
def onIdentify (profile : Profile) (serverPublicKey sharedSecret : Bytes) : Try S W Unit := do
  if (← get).store.isNone then
    let installation ← openStore g (some profile.id)
    modify (keepStore installation.store)
  modify (setPhase .awaitingSessionStart)
  if g.session.mode = .verified then
    modify (emit (.verifyAccount g.session serverPublicKey sharedSecret))
  else
    startSession g none

/-- The device was approved: a store is made for it and prekeys are sent. The store is put to use
only when all of that has succeeded. -/
def onDeviceRegistered (profile : Profile) (device : UInt32) : Try S W Unit := do
  let installation ← openStore g (some profile.id)
  let (registered, s, w) := g.stores.registerDevice profile device installation.store (← get).world
  modify fun h => { h with world := w }
  liftExcept (registered.mapError ClientError.store)
  let (offered, s, w) := g.stores.offer none s (← get).world
  modify fun h => { h with world := w }
  let o ← liftExcept (offered.mapError ClientError.store)
  modify (keepStore s)
  modify (setPhase .awaitingPreKeyAck)
  sendRequest g (.sendPreKeys o)

/-- The server's prekeys: a session with it is established. -/
def onSendPreKeys (identity : ServerIdentity) (bundle : Bytes) : Try S W Unit := do
  match (← get).store with
  | none => throw .identityNotEstablished
  | some s =>
    let (trusted, s, w) := g.stores.trust identity bundle s (← get).world
    modify fun h => { h with store := some s, world := w }
    liftExcept (trusted.mapError ClientError.store)
    if (← get).state ≠ .connected then
      let r ← modifyGet (presentation g s)
      modify (setPhase .awaitingSessionStart)
      sendRequest g r

/-- The server has no use for the prekeys it has. -/
def onResendPreKeys (identity : Option ServerIdentity) : Try S W Unit := do
  let o ← offer g identity
  modify (setPhase .awaitingPreKeyAck)
  sendRequest g (.sendPreKeys o)

/-- The session has started: the server is asked whether it trusts the client. -/
def onSessionStarted : Try S W Unit := do
  let identity ← establishedIdentity g
  modify (setPhase .awaitingTrustDecision)
  sendRequest g (.checkTrust identity)

/-- What is reported of a failed session. -/
def failureEvent? : SessionFailure → Option Event
  | .accountVerificationFailed session => some (.accountVerificationFailed session)
  | .privateIdentityMismatch url => some (.privateIdentityMismatch url)
  | .sessionError reason message =>
    if reason = .normalClose then none else some (.error (reason.message message))

/-- The session could not start or was ended. -/
def onSessionFailed (failure : SessionFailure) (h : Handshake S W) : Handshake S W :=
  match failureEvent? failure with
  | some e => changeState g .disconnected (h.emit e)
  | none => changeState g .disconnected h

/-- The server trusts the client. -/
def onTrusted (identity : ServerIdentity) (h : Handshake S W) : Handshake S W :=
  changeState g .connected { h with serverIdentity := some identity }

/-- The server does not trust the client. -/
def onUntrusted (h : Handshake S W) : Handshake S W :=
  (changeState g .disconnected h).emit .clientUntrusted

/-- Acts on a response that was expected. -/
def handle : Response → Try S W Unit
  | .identify profile serverPublicKey sharedSecret =>
    onIdentify g profile serverPublicKey sharedSecret
  | .keepAlive => return
  | .registerDevice approvalUrl approvalToken =>
    modify fun h => ((h.setPhase .awaitingDeviceApproval).emit
      (.confirmDevice approvalToken approvalUrl)).emit .awaitingApproval
  | .deviceRegistered profile device => onDeviceRegistered g profile device
  | .sendPreKeys identity bundle => onSendPreKeys g identity bundle
  | .resendPreKeys identity => onResendPreKeys g identity
  | .startSession => onSessionStarted g
  | .sessionFailed failure => modify (onSessionFailed g failure)
  | .isTrusted identity => modify (onTrusted g identity)
  | .isUntrusted => modify (onUntrusted g)
  | .feature message => modify (emit (.feature message))

/-- What is reported when the session could not be mended often enough. -/
def refreshMessage (limit : Nat) : String :=
  "cipher session could not be recovered after " ++ toString limit ++ " prekey refreshes"

/-- Whether so many failures in a row are too many. -/
def exceeds (failures : Nat) : Option Nat → Option Nat
  | some limit => if limit < failures then some limit else none
  | none => none

/-- An envelope could not be decrypted: the session is mended by fresh prekeys, or given up. -/
def recoverCipher : Try S W Unit := do
  if (← get).store.isNone then
    throw .identityNotEstablished
  modify fun h => { h with cipherFailures := h.cipherFailures + 1 }
  match exceeds (← get).cipherFailures.toNat g.refreshLimit with
  | some limit => modify (fail g (refreshMessage limit))
  | none =>
    let o ← offer g (← get).serverIdentity
    sendRequest g (.sendPreKeys o)

/-- Takes one envelope from the server. -/
def receive (bytes : Bytes) : Try S W Unit := do
  if (← get).state ≠ .disconnected then
    let cipher ← modifyGet (cipher? g)
    let sender := (← get).serverIdentity.map (·.identity)
    match Envelope.decode Response g.complaint cipher sender bytes with
    | .ok none => return
    | .error (.cipher _) => recoverCipher g
    | .error e => throw (.envelope e)
    | .ok (some response) =>
      modify fun h => { h with cipherFailures := 0 }
      let h ← get
      if expects h.state h.phase response then
        handle g response

end Handshake

end SealedSession
