import SealedSession.Client.Config
import SealedSession.Handlers
import SealedSession.Handshake
import SealedSession.Transport.Socket

/-! # Clients

A client puts a handshake to work. It owns the sockets, each with a reader that feeds the
handshake what arrives and a writer that empties the channel of the handshake; the keepalive
monitor; the verifications that are under way; and the deadlines for the approval of the device.
All of these go on side by side, so a client is a state machine with one step for each thing that
may happen next. After every step the events of the handshake are dispatched, which makes no new
events.

Only the reader of the socket that was opened last may drive the handshake; any other reader
stops at what it next receives. Nothing of the kind holds for a verification or a deadline: it
acts on whatever the client is doing when it ends. Each notes the connection that it began on.

## Main definitions

* `Client.opened`: a socket was opened.
* `Client.arrive`, `Client.write`: one step of a reader and of a writer.
* `Client.verified`, `Client.approvalDue`, `Client.probe`: what was under way is done.
* `Client.disconnect`, `Client.send`, `Client.shutdown`, `Client.drop`: what the owner does.
-/

namespace SealedSession

/-- What the listener and the handlers of a client are told. -/
inductive Notice where
  | state (state : ConnectionState)
  | error (message : String)
  | confirmDevice (token url : String)
  | accountVerificationFailed (session : PlayerSession)
  | privateIdentityMismatch (url : String)
  | clientUntrusted
  /-- A handler was offered a message. -/
  | offered (handler : Nat) (message : FeatureMessage)
  /-- A handler was told of a change of state. -/
  | informed (handler : Nat) (state : ConnectionState)
deriving DecidableEq, Repr

/-- A verification that is under way. -/
structure PendingVerification where
  /-- The connection whose response asked for it. -/
  connection : Option ConnectionId
  session : PlayerSession
  serverPublicKey : Bytes
  sharedSecret : Bytes
deriving DecidableEq, Repr

/-- A deadline for the approval of the device. -/
structure ApprovalDeadline where
  /-- The connection on which the wait began. -/
  connection : Option ConnectionId
  due : Nat
deriving DecidableEq, Repr

/-- A socket of a client with the tasks that serve it. -/
structure ClientSocket where
  socket : Socket
  /-- The channel that the writer empties. -/
  channel : Nat
  /-- Whether the reader is at work. -/
  reading : Bool := true
  /-- Whether the writer is at work. -/
  writing : Bool := true
deriving DecidableEq, Repr

/-- The state of a client. Time is counted in nanoseconds. -/
structure Client (S W : Type) where
  handshake : Handshake S W
  keepalive : Keepalive
  /-- How often the keepalive was started. -/
  starts : Nat := 0
  now : Nat := 0
  /-- The connection that was opened last. -/
  current : Option ConnectionId := none
  /-- All sockets that were opened, oldest first. -/
  sockets : List ClientSocket := []
  verifications : List PendingVerification := []
  approvals : List ApprovalDeadline := []
  /-- What others were told, oldest first. -/
  notices : List Notice := []

namespace Client

/-- What a client is set up with. -/
structure Settings (S W : Type) where
  config : ClientConfig
  stores : IdentityStores S W
  handlers : HandlerChain := {}
  /-- What is said of a payload that holds no response. -/
  complaint : Bytes → String
  /-- The jitter drawn for each start of the keepalive. -/
  jitter : Nat → Nat := fun _ => 0

variable {S W : Type}

/-- What the handshake is set up with. -/
def Settings.handshake (g : Settings S W) : Handshake.Settings S W :=
  ⟨g.stores, g.config.session, g.config.refreshLimit, g.complaint⟩

variable (g : Settings S W)

/-- A client that was never connected. -/
def start (world : W) : Client S W :=
  { handshake := { world := world }, keepalive := .ofConfig g.config.keepalive }

/-! ## Dispatching events -/

/-- Tells others. -/
def note (ns : List Notice) (c : Client S W) : Client S W :=
  { c with notices := c.notices ++ ns }

/-- Restarts the keepalive with an identity. -/
def restartKeepalive (identity : Option Identity) (c : Client S W) : Client S W :=
  { c with
    keepalive := (c.keepalive.start? c.now (g.jitter c.starts) identity).getD c.keepalive.stop
    starts := c.starts + 1 }

/-- Acts on an event of the handshake. -/
def dispatch (c : Client S W) : Event → Client S W
  | .stateChanged s =>
    let c := if s = .disconnected then { c with keepalive := c.keepalive.stop } else c
    c.note (.state s :: g.handlers.informed.map (.informed · s))
  | .error message => c.note [.error message]
  | .confirmDevice token url => c.note [.confirmDevice token url]
  | .accountVerificationFailed session => c.note [.accountVerificationFailed session]
  | .privateIdentityMismatch url => c.note [.privateIdentityMismatch url]
  | .clientUntrusted => c.note [.clientUntrusted]
  | .feature message => c.note ((g.handlers.dispatch message).1.map (.offered · message))
  | .identified identity => restartKeepalive g (some identity) c
  | .verifyAccount session key secret =>
    { c with verifications := c.verifications ++ [⟨c.current, session, key, secret⟩] }
  | .awaitingApproval =>
    match g.config.approvalTimeout with
    | some t => { c with approvals := c.approvals ++ [⟨c.current, c.now + t.nanos⟩] }
    | none => c

/-- Dispatches what the handshake has produced. -/
def drain (c : Client S W) : Client S W :=
  let (events, h) := c.handshake.takeEvents
  events.foldl (dispatch g) { c with handshake := h }

/-- Acting on an event leaves the handshake alone, so no event brings about another. -/
@[simp] theorem handshake_dispatch (c : Client S W) (e : Event) :
    (dispatch g c e).handshake = c.handshake := by
  cases e with
  | stateChanged s => by_cases h : s = .disconnected <;> simp [dispatch, note, h]
  | awaitingApproval => cases h : g.config.approvalTimeout <;> simp [dispatch, h]
  | _ => rfl

theorem handshake_foldl_dispatch (events : List Event) (c : Client S W) :
    (events.foldl (dispatch g) c).handshake = c.handshake := by
  induction events generalizing c with
  | nil => rfl
  | cons e rest ih => rw [List.foldl_cons, ih, handshake_dispatch]

/-- Dispatching takes the events of the handshake and changes nothing else about it. -/
theorem handshake_drain (c : Client S W) :
    (drain g c).handshake = { c.handshake with events := [] } :=
  handshake_foldl_dispatch g _ _

/-- Changes the handshake and dispatches what it has produced. -/
def act (f : Handshake S W → Handshake S W) (c : Client S W) : Client S W :=
  drain g { c with handshake := f c.handshake }

/-- Attempts something with the handshake and dispatches what it has produced. -/
def attempt (f : Handshake.Try S W Unit) (c : Client S W) :
    Except ClientError Unit × Client S W :=
  let (r, h) := f c.handshake
  (r, drain g { c with handshake := h })

/-! ## What the owner does -/

/-- Disconnects. -/
def disconnect (c : Client S W) : Client S W :=
  act g (Handshake.disconnect g.handshake) c

/-- Sends a request of the application. -/
def send (r : Request) (c : Client S W) : Except ClientError Unit × Client S W :=
  attempt g (Handshake.send g.handshake r) c

/-- Saves the store and releases the lock, since the process is about to exit. -/
def shutdown (c : Client S W) : Client S W :=
  { c with handshake := Handshake.saveOnShutdown g.handshake c.handshake }

/-- Lets go of the client. -/
def drop (c : Client S W) : Client S W :=
  let c := disconnect g c
  { c with keepalive := c.keepalive.stop }

/-- A socket was opened while the home was locked. The handshake begins, or the client is
disconnected from whatever it was doing. -/
def opened (connection : ConnectionId) (lock : HomeLock) (c : Client S W) :
    Except ClientError Unit × Client S W :=
  let (o, channel) := c.handshake.outbound.create
  let (r, h) := Handshake.onOpen g.handshake channel (some lock) { c.handshake with outbound := o }
  let c := { c with current := some connection, handshake := h }
  match r with
  | .ok _ =>
    let c := restartKeepalive g none c
    let socket : ClientSocket := { socket := { id := connection }, channel := channel }
    (.ok (), drain g { c with sockets := c.sockets ++ [socket] })
  | .error e =>
    let c := disconnect g c
    let outbound := c.handshake.outbound.dropReceiving channel
    (.error e, { c with handshake := { c.handshake with outbound := outbound } })

/-! ## Readers and writers -/

/-- Changes the socket of a connection. -/
def adjust (connection : ConnectionId) (f : ClientSocket → ClientSocket) (c : Client S W) :
    Client S W :=
  { c with sockets := c.sockets.map fun s => if s.socket.id = connection then f s else s }

/-- The socket of a connection. -/
def socket? (connection : ConnectionId) (c : Client S W) : Option ClientSocket :=
  c.sockets.find? fun s => s.socket.id = connection

/-- The reader of a connection stops. -/
def stopReading (connection : ConnectionId) (c : Client S W) : Client S W :=
  c.adjust connection fun s => { s with reading := false }

/-- Feeds one envelope to the handshake. A failure to process it disconnects. -/
def process (bytes : Bytes) (c : Client S W) : Client S W :=
  let (r, h) := Handshake.receive g.handshake bytes c.handshake
  match r with
  | .ok _ => drain g { c with handshake := h }
  | .error _ => act g (Handshake.onFailure g.handshake) { c with handshake := h }

/-- The reader of a connection takes what its peer did. -/
def arrive (connection : ConnectionId) (a : Arrival) (c : Client S W) : Client S W :=
  match c.socket? connection with
  | none => c
  | some s =>
    if s.reading then
      let (r, socket) := s.socket.receive a
      let c := c.adjust connection fun s => { s with socket := socket }
      if c.current ≠ some connection then c.stopReading connection
      else match r with
        | .ok (some bytes) => process g bytes c
        | .ok none =>
          act g (Handshake.onClose g.handshake socket.closeInfo) (c.stopReading connection)
        | .error _ => act g (Handshake.onFailure g.handshake) (c.stopReading connection)
    else c

/-- The writer of a connection closes its socket and stops. -/
def stopWriting (connection : ConnectionId) (s : ClientSocket) (c : Client S W) : Client S W :=
  let outbound := c.handshake.outbound.dropReceiving s.channel
  let c := { c with handshake := { c.handshake with outbound := outbound } }
  c.adjust connection fun s => { s with socket := s.socket.closeNormally.2, writing := false }

/-- The writer of a connection writes the next envelope. It closes the socket when that fails, and
when nothing is queued and the handshake has let go of the channel. -/
def write (connection : ConnectionId) (c : Client S W) : Client S W :=
  match c.socket? connection with
  | none => c
  | some s =>
    if s.writing then
      match c.handshake.outbound.take? s.channel with
      | some (bytes, outbound) =>
        let (r, socket) := s.socket.send bytes
        let c := { c with handshake := { c.handshake with outbound := outbound } }
        let c := c.adjust connection fun s => { s with socket := socket }
        match r with
        | .ok _ => c
        | .error _ => stopWriting connection { s with socket := socket } c
      | none =>
        if (c.handshake.outbound.channels[s.channel]?).any Channel.sending then c
        else stopWriting connection s c
    else c

/-! ## What was under way -/

/-- Time passes. -/
def pass (span : Nat) (c : Client S W) : Client S W :=
  { c with now := c.now + span }

/-- The keepalive probes if it is due. -/
def probe (c : Client S W) : Client S W :=
  let (k, probes) := c.keepalive.stall c.now
  probes.foldl (fun c identity => (attempt g (Handshake.sendKeepalive g.handshake identity) c).2)
    { c with keepalive := k }

/-- A verification ends. The session starts, or the client fails, if it is connecting by then. -/
def verified (n : Nat) (result : Except ClientError String) (c : Client S W) : Client S W :=
  match c.verifications[n]? with
  | none => c
  | some _ =>
    let c := { c with verifications := c.verifications.eraseIdx n }
    if c.handshake.state = .connecting then
      match result with
      | .ok serverId => (attempt g (Handshake.startSession g.handshake (some serverId)) c).2
      | .error e => act g (Handshake.fail g.handshake e.message) c
    else drain g c

/-- What is reported when the device was not approved in time. -/
def approvalMessage (timeout : Duration) : String :=
  "device was not approved within " ++ toString timeout.secs ++ "s"

/-- A deadline for the approval of the device has come. The client fails if it is waiting. -/
def approvalDue (n : Nat) (c : Client S W) : Client S W :=
  match c.approvals[n]?, g.config.approvalTimeout with
  | some a, some timeout =>
    if c.now < a.due then c
    else
      let c := { c with approvals := c.approvals.eraseIdx n }
      if c.handshake.phase = some .awaitingDeviceApproval then
        act g (Handshake.fail g.handshake (approvalMessage timeout)) c
      else drain g c
  | _, _ => c

end Client

end SealedSession
