import SealedSession.Player
import SealedSession.StopReason

/-! # Messages

A client sends requests and a server sends responses. Both are closed sets: the handshake in
order, a probe for liveness, and one message that carries whatever a feature defines.

A session that travels in a message travels without its token: `Request.erased` and
`Response.erased` say what of a message the other side can learn.
-/

namespace SealedSession

/-- A message of a feature, which alone understands its body. -/
structure FeatureMessage where
  kind : String
  body : Bytes
deriving DecidableEq, Repr, Inhabited

/-- Prekeys offered to establish an encrypted session. -/
structure PreKeyOffer where
  identity : Option Identity
  bundle : Bytes
deriving DecidableEq, Repr, Inhabited

/-- What a client sends. -/
inductive Request where
  /-- Who the client is; with neither field, that it is new. -/
  | identify (identity : Option Identity) (token : Option Bytes)
  | sendPreKeys (offer : PreKeyOffer)
  /-- Starts the session of a game account, with the proof of ownership if one is asked for. -/
  | startSession (identity : Identity) (session : PlayerSession) (serverId : Option String)
  | checkTrust (identity : Identity)
  | keepAlive (identity : Option Identity)
  | feature (message : FeatureMessage)
deriving DecidableEq, Repr, Inhabited

/-- Why a server refused or ended a session. -/
inductive SessionFailure where
  | accountVerificationFailed (session : PlayerSession)
  /-- The token does not belong to the profile; the address explains the way back. -/
  | privateIdentityMismatch (url : String)
  | sessionError (reason : StopReason) (message : String)
deriving DecidableEq, Repr, Inhabited

/-- What a server sends. -/
inductive Response where
  /-- The identity is known; the key and the secret serve to prove ownership of the account. -/
  | identify (profile : Profile) (serverPublicKey sharedSecret : Bytes)
  /-- The device is unknown and waits for approval at an address. -/
  | registerDevice (approvalUrl approvalToken : String)
  | deviceRegistered (profile : Profile) (device : UInt32)
  | sendPreKeys (identity : ServerIdentity) (bundle : Bytes)
  | resendPreKeys (identity : Option ServerIdentity)
  | startSession
  | sessionFailed (failure : SessionFailure)
  | isTrusted (identity : ServerIdentity)
  | isUntrusted
  | keepAlive
  | feature (message : FeatureMessage)
deriving DecidableEq, Repr, Inhabited

namespace Request

/-- The request of a client without an identity. -/
def identifyUnknown : Request := .identify none none

/-- The request of a client with an identity. -/
def identifyAs (identity : Identity) (token : Bytes) : Request :=
  .identify (some identity) (some token)

/-- The name that tags the request. -/
def name : Request → String
  | .identify .. => "Identify"
  | .sendPreKeys .. => "SendPreKeys"
  | .startSession .. => "StartSession"
  | .checkTrust .. => "CheckTrustRelationship"
  | .keepAlive .. => "KeepAlive"
  | .feature .. => "Feature"

/-- The request as its receiver learns it. -/
def erased : Request → Request
  | .startSession identity session serverId =>
    .startSession identity session.withoutToken serverId
  | r => r

end Request

namespace SessionFailure

/-- The name that tags the failure. -/
def name : SessionFailure → String
  | .accountVerificationFailed .. => "AccountVerificationFailed"
  | .privateIdentityMismatch .. => "PrivateIdentityMismatch"
  | .sessionError .. => "SessionError"

/-- The failure as its receiver learns it. -/
def erased : SessionFailure → SessionFailure
  | .accountVerificationFailed session => .accountVerificationFailed session.withoutToken
  | f => f

end SessionFailure

namespace Response

/-- The name that tags the response. -/
def name : Response → String
  | .identify .. => "Identify"
  | .registerDevice .. => "RegisterDevice"
  | .deviceRegistered .. => "DeviceRegistered"
  | .sendPreKeys .. => "SendPreKeys"
  | .resendPreKeys .. => "ResendPreKeys"
  | .startSession => "StartSession"
  | .sessionFailed .. => "SessionFailed"
  | .isTrusted .. => "IsTrustedRelationship"
  | .isUntrusted => "IsUntrustedRelationship"
  | .keepAlive => "KeepAlive"
  | .feature .. => "Feature"

/-- The response as its receiver learns it. -/
def erased : Response → Response
  | .sessionFailed failure => .sessionFailed failure.erased
  | r => r

/-- A session that ends for a stated reason. -/
def sessionError (reason : StopReason) (message : String) : Response :=
  .sessionFailed (.sessionError reason message)

end Response

end SealedSession
