import SealedSession.Envelope
import SealedSession.Transport

/-! # Connection states and errors of the client

What goes wrong before the socket opens is returned by the attempt to connect and leaves the
client disconnected. What goes wrong later is reported to the listener.
-/

namespace SealedSession

/-- How far a client is from a usable session. -/
inductive ConnectionState where
  | disconnected
  | connecting
  | connected
deriving DecidableEq, Repr, Inhabited

namespace ConnectionState

def text : ConnectionState → String
  | .disconnected => "DISCONNECTED"
  | .connecting => "CONNECTING"
  | .connected => "CONNECTED"

instance : ToString ConnectionState := ⟨text⟩

end ConnectionState

/-- Why an identity store refused. -/
inductive StoreError where
  | system (detail : String)
  | corrupt (detail : String)
  | cipher (e : CipherError)
deriving DecidableEq, Repr, Inhabited

namespace StoreError

def message : StoreError → String
  | .system detail => "identity store io: " ++ detail
  | .corrupt detail => "identity store is corrupt: " ++ detail
  | .cipher e => e.message

def label : StoreError → String
  | .system _ => "Io"
  | .corrupt _ => "Corrupt"
  | .cipher e => Failure.under "Cipher" e

def causes : StoreError → List String
  | .system detail => [detail]
  | _ => []

instance : Failure StoreError where
  label := label
  message := message
  causes := causes

end StoreError

/-- Why a client refused or failed. -/
inductive ClientError where
  | connection (detail : String) (source : Option String)
  | unsupportedVersion (client server : String)
  | missingFeature (name : String)
  | verificationScheme (name : String)
  | directoryLocked (home : String)
  | alreadyConnected (state : ConnectionState)
  | notConnected
  | senderUnbound
  | senderAlreadyBound
  | identityNotEstablished
  | accountVerification (detail : String)
  | store (e : StoreError)
  | envelope (e : EnvelopeError)
  | transport (e : TransportError)
  | http (detail : String)
  | system (detail : String)
deriving DecidableEq, Repr, Inhabited

namespace ClientError

def message : ClientError → String
  | .connection detail _ => "failed to connect: " ++ detail
  | .unsupportedVersion client server =>
    client ++ " is not supported by server. Server supports versions " ++ server
  | .missingFeature name => "server does not support " ++ name
  | .verificationScheme name =>
    name ++ " verification scheme requested but was provided an invalid player session"
  | .directoryLocked home => "another client is using " ++ home
  | .alreadyConnected state => "client is already " ++ state.text
  | .notConnected => "client is not connected"
  | .senderUnbound => "no socket is bound for sending"
  | .senderAlreadyBound => "sender is already bound"
  | .identityNotEstablished => "identity has not been established"
  | .accountVerification detail => "account verification failed: " ++ detail
  | .store e => e.message
  | .envelope e => e.message
  | .transport e => e.message
  | .http detail => "http: " ++ detail
  | .system detail => "io: " ++ detail

def label : ClientError → String
  | .connection _ _ => "Connection"
  | .unsupportedVersion _ _ => "UnsupportedServerVersion"
  | .missingFeature _ => "MissingFeature"
  | .verificationScheme _ => "VerificationScheme"
  | .directoryLocked _ => "DirectoryLocked"
  | .alreadyConnected _ => "AlreadyConnected"
  | .notConnected => "NotConnected"
  | .senderUnbound => "SenderUnbound"
  | .senderAlreadyBound => "SenderAlreadyBound"
  | .identityNotEstablished => "IdentityNotEstablished"
  | .accountVerification _ => "AccountVerification"
  | .store e => Failure.under "Store" e
  | .envelope e => Failure.under "Protocol" e
  | .transport e => Failure.under "Transport" e
  | .http _ => "Http"
  | .system _ => "Io"

def causes : ClientError → List String
  | .connection _ source => source.toList
  | .store e => e.causes
  | .transport e => e.causes
  | .http detail => [detail]
  | .system detail => [detail]
  | _ => []

instance : Failure ClientError where
  label := label
  message := message
  causes := causes

end ClientError

end SealedSession
