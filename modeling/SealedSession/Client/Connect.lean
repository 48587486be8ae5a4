import SealedSession.Client
import SealedSession.Discovery.Address

/-! # Connecting a client

To connect, a client locks its home, asks the server what it offers, checks that this suffices
and opens a socket. Whatever fails before the socket is open is the answer and leaves the client
as it was; the lock is then released. A lock that cannot be had is also told to the listener.

What lies beyond the client is a `Network`: how servers answer, and which sockets open.

## Main definitions

* `Network`: what is beyond the client; `Network.none` reaches nobody.
* `Network.discover`: the discovery document of a server.
* `Client.connect`: the whole of connecting.
-/

namespace SealedSession

/-- The answer of a server to a request for a document. -/
structure HttpAnswer where
  status : Nat
  body : Bytes
deriving DecidableEq, Repr, Inhabited

/-- What is beyond the client. -/
structure Network where
  /-- Asks for a document; when there is no answer, the failure is told. -/
  fetch : Url → Except String HttpAnswer
  /-- Opens a socket. -/
  connect : Url → Except TransportError ConnectionId

namespace Network

/-- The network that reaches nobody. -/
def none : Network where
  fetch _ := .error "unreachable"
  connect url := .error (.connectFailed url.text "unreachable")

/-- Whether a status reports an error of the client or of the server. -/
def isFailure (status : Nat) : Bool := 400 ≤ status && status < 600

/-- The discovery document of a server. -/
def discover (net : Network) (server : String) : Except ClientError Discovery := do
  let url ← Discovery.endpoint server Discovery.path
  match net.fetch url with
  | .error system => throw (.connection "problem connecting to server" (some system))
  | .ok answer =>
    if isFailure answer.status then throw (.http ("status " ++ toString answer.status))
    match Discovery.decode? answer.body with
    | some document => return document
    | .none => throw (.http "malformed document")

/-- Opens a socket to a server that can serve a session. -/
def openSocket (net : Network) (server : String) (session : PlayerSession) :
    Except ClientError ConnectionId := do
  let document ← net.discover server
  document.check session
  let url ← Discovery.listenUrl server
  (net.connect url).mapError .transport

end Network

namespace Client

variable {S W : Type}

/-- Connects a client that is disconnected. `lock` is what the attempt to lock the home led to. -/
def connect (g : Settings S W) (net : Network) (lock : Except ClientError HomeLock)
    (c : Client S W) : Except ClientError Unit × Client S W :=
  if c.handshake.state ≠ .disconnected then (.error (.alreadyConnected c.handshake.state), c)
  else match lock with
    | .error e => (.error e, c.note [.error e.message])
    | .ok lock =>
      match net.openSocket g.config.serverUrl g.config.session with
      | .error e => (.error e, c)
      | .ok connection => opened g connection lock c

end Client

end SealedSession
