import SealedSession.Discovery
import SealedSession.Url.Reading

/-! # Addresses of a server

A server is configured as one URL. The discovery document and the socket are found at fixed paths
relative to it; the socket has the scheme that belongs to the scheme of the server.
-/

namespace SealedSession.Discovery

/-- A path of a server. -/
def endpoint (server path : String) : Except ClientError Url :=
  match (Url.parse server).bind fun base => base.join path with
  | .ok url => .ok url
  | .error e => .error (.connection ("invalid server url " ++ server) e.message)

/-- The scheme of a socket to a server. -/
def socketScheme (scheme : String) : String :=
  if scheme = "https" ∨ scheme = "wss" then "wss" else "ws"

/-- The address of the socket of a server. -/
def listenUrl (server : String) : Except ClientError Url := do
  let url ← endpoint server listenPath
  match url.withScheme? (socketScheme url.scheme) with
  | some url => return url
  | none => throw (.connection ("cannot open a socket to " ++ server) none)

end SealedSession.Discovery
