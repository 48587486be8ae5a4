import SealedSession.Bytes
import SealedSession.Failure

/-! # Connections

A connection carries byte strings in both directions until one side closes it. It has a number,
and once its peer has closed it with a close frame, the code and the reason of that frame.
-/

namespace SealedSession

/-- The number of a connection. -/
structure ConnectionId where
  value : Nat
deriving DecidableEq, Repr, Inhabited

namespace ConnectionId

def text (c : ConnectionId) : String :=
  "conn-" ++ toString c.value

instance : ToString ConnectionId := ⟨text⟩

end ConnectionId

/-- The close code of a connection that ends without error. -/
def normalClose : UInt16 := 1000

/-- The code and the reason of a close frame. -/
structure CloseInfo where
  code : UInt16
  reason : String
deriving DecidableEq, Repr, Inhabited

/-- Whether a connection ended without error. -/
def CloseInfo.isNormal (c : CloseInfo) : Bool :=
  c.code = normalClose

/-- What one side of a connection puts on it. -/
inductive Frame where
  | envelope (bytes : Bytes)
  | close (info : CloseInfo)
deriving DecidableEq, Repr, Inhabited

/-- Why a connection failed. Failures of the system below are known by their text alone. -/
inductive TransportError where
  | connectionClosed (detail : String)
  | connectFailed (url system : String)
  | sendFailed (system : String)
  | receiveFailed (system : String)
  | acceptFailed (system : String)
  | shutdown
deriving DecidableEq, Repr, Inhabited

namespace TransportError

def message : TransportError → String
  | .connectionClosed detail => "connection closed: " ++ detail
  | .connectFailed url system => "connect to " ++ url ++ " failed: " ++ system
  | .sendFailed system => "send failed: " ++ system
  | .receiveFailed system => "receive failed: " ++ system
  | .acceptFailed system => "accept failed: " ++ system
  | .shutdown => "transport shut down"

def label : TransportError → String
  | .connectionClosed _ => "ConnectionClosed"
  | .connectFailed _ _ => "ConnectFailed"
  | .sendFailed _ => "SendFailed"
  | .receiveFailed _ => "ReceiveFailed"
  | .acceptFailed _ => "AcceptFailed"
  | .shutdown => "Shutdown"

def causes : TransportError → List String
  | .connectFailed _ system => [system]
  | .sendFailed system => [system]
  | .receiveFailed system => [system]
  | .acceptFailed system => [system]
  | _ => []

instance : Failure TransportError where
  label := label
  message := message
  causes := causes

end TransportError

/-- A connection as its owner sees it: open or closed, it takes envelopes and a close frame, and
may fail at either. -/
class Link (κ : Type) where
  isOpen : κ → Bool
  send : Bytes → κ → Except TransportError Unit × κ
  close : UInt16 → String → κ → Except TransportError Unit × κ

end SealedSession
