import SealedSession.Envelope
import SealedSession.Transport

/-! # Errors of the session directory -/

namespace SealedSession

/-- Why the directory refused. -/
inductive DirectoryError where
  /-- The connection has a player, and keeps it for as long as its session lasts. -/
  | alreadyBound (connection : ConnectionId)
  | noBoundPlayer (identity : Identity)
  | envelope (e : EnvelopeError)
  | transport (e : TransportError)
deriving DecidableEq, Repr, Inhabited

namespace DirectoryError

def message : DirectoryError → String
  | .alreadyBound connection =>
    "connection " ++ connection.text ++ " cannot be identified with a player more than once"
  | .noBoundPlayer identity => "cannot find player for " ++ identity.text
  | .envelope e => e.message
  | .transport e => "transport error: " ++ e.message

/-- A failed connection is reported as such, whatever it failed of. -/
def label : DirectoryError → String
  | .alreadyBound _ => "AlreadyBound"
  | .noBoundPlayer _ => "NoBoundPlayer"
  | .envelope e => Failure.under "Protocol" e
  | .transport _ => "Transport"

def causes : DirectoryError → List String
  | .transport e => e.message :: e.causes
  | _ => []

instance : Failure DirectoryError where
  label := label
  message := message
  causes := causes

end DirectoryError

end SealedSession
