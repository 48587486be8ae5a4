import SealedSession.Message

/-! # Reading messages

A message is read as a tagged record. Requests and responses are tagged by `type`, failures by
`kind`. A failure stands inside a response, which has been collected by then.
-/

namespace SealedSession

open Json

namespace FeatureMessage

def ofJson? (j : Raw) : Option FeatureMessage := do
  let r ← Record.read? ["kind", "body"] [] j
  let kind ← r.required? "kind" Raw.string?
  let body ← r.required? "body" Raw.bytes?
  return ⟨kind, body⟩

end FeatureMessage

namespace PreKeyOffer

def ofJson? (j : Raw) : Option PreKeyOffer := do
  let r ← Record.read? ["identity", "bundle"] [] j
  let identity ← r.optional? "identity" Identity.ofJson?
  let bundle ← r.required? "bundle" Raw.bytes?
  return ⟨identity, bundle⟩

end PreKeyOffer

namespace Request

/-- The variants of a request. -/
inductive Variant where
  | identify | sendPreKeys | startSession | checkTrust | keepAlive | feature
deriving DecidableEq, Repr

/-- The variants by the name that tags them. -/
def Variant.names : List (String × Variant) :=
  [("Identify", .identify), ("SendPreKeys", .sendPreKeys), ("StartSession", .startSession),
    ("CheckTrustRelationship", .checkTrust), ("KeepAlive", .keepAlive), ("Feature", .feature)]

/-- Reads the fields of a variant. -/
def body? (v : Variant) (j : Raw) : Option Request :=
  match v with
  | .identify => do
    let r ← Record.read? ["identity", "token"] [] j
    let identity ← r.optional? "identity" Identity.ofJson?
    let token ← r.optional? "token" Raw.bytes?
    return .identify identity token
  | .sendPreKeys => (PreKeyOffer.ofJson? j).map .sendPreKeys
  | .startSession => do
    let r ← Record.read? ["identity", "session", "server_id"] [] j
    let identity ← r.required? "identity" Identity.ofJson?
    let session ← r.required? "session" (PlayerSession.ofJson? .collected)
    let serverId ← r.optional? "server_id" Raw.string?
    return .startSession identity session serverId
  | .checkTrust => do
    let r ← Record.read? ["identity"] [] j
    let identity ← r.required? "identity" Identity.ofJson?
    return .checkTrust identity
  | .keepAlive => do
    let r ← Record.read? ["identity"] [] j
    let identity ← r.optional? "identity" Identity.ofJson?
    return .keepAlive identity
  | .feature => (FeatureMessage.ofJson? j).map .feature

def ofJson? (j : Raw) : Option Request :=
  readTagged? .direct "type" Variant.names body? j

end Request

namespace SessionFailure

/-- The variants of a failure. -/
inductive Variant where
  | accountVerificationFailed | privateIdentityMismatch | sessionError
deriving DecidableEq, Repr

/-- The variants by the name that tags them. -/
def Variant.names : List (String × Variant) :=
  [("AccountVerificationFailed", .accountVerificationFailed),
    ("PrivateIdentityMismatch", .privateIdentityMismatch), ("SessionError", .sessionError)]

/-- Reads the fields of a variant. -/
def body? (v : Variant) (j : Raw) : Option SessionFailure :=
  match v with
  | .accountVerificationFailed => do
    let r ← Record.read? ["session"] [] j
    let session ← r.required? "session" (PlayerSession.ofJson? .collected)
    return .accountVerificationFailed session
  | .privateIdentityMismatch => do
    let r ← Record.read? ["url"] [] j
    let url ← r.required? "url" Raw.string?
    return .privateIdentityMismatch url
  | .sessionError => do
    let r ← Record.read? ["reason", "message"] [] j
    let reason ← r.required? "reason" (StopReason.ofJson? .collected)
    let message ← r.required? "message" Raw.string?
    return .sessionError reason message

def ofJson? (source : Source) (j : Raw) : Option SessionFailure :=
  readTagged? source "kind" Variant.names body? j

end SessionFailure

namespace Response

/-- The variants of a response. -/
inductive Variant where
  | identify | registerDevice | deviceRegistered | sendPreKeys | resendPreKeys | startSession
  | sessionFailed | isTrusted | isUntrusted | keepAlive | feature
deriving DecidableEq, Repr

/-- The variants by the name that tags them. -/
def Variant.names : List (String × Variant) :=
  [("Identify", .identify), ("RegisterDevice", .registerDevice),
    ("DeviceRegistered", .deviceRegistered), ("SendPreKeys", .sendPreKeys),
    ("ResendPreKeys", .resendPreKeys), ("StartSession", .startSession),
    ("SessionFailed", .sessionFailed), ("IsTrustedRelationship", .isTrusted),
    ("IsUntrustedRelationship", .isUntrusted), ("KeepAlive", .keepAlive), ("Feature", .feature)]

/-- Reads the fields of a variant. -/
def body? (v : Variant) (j : Raw) : Option Response :=
  match v with
  | .identify => do
    let r ← Record.read? ["profile", "server_public_key", "shared_secret"] [] j
    let profile ← r.required? "profile" Profile.ofJson?
    let serverPublicKey ← r.required? "server_public_key" Raw.bytes?
    let sharedSecret ← r.required? "shared_secret" Raw.bytes?
    return .identify profile serverPublicKey sharedSecret
  | .registerDevice => do
    let r ← Record.read? ["approval_url", "approval_token"] [] j
    let approvalUrl ← r.required? "approval_url" Raw.string?
    let approvalToken ← r.required? "approval_token" Raw.string?
    return .registerDevice approvalUrl approvalToken
  | .deviceRegistered => do
    let r ← Record.read? ["profile", "device_id"] [] j
    let profile ← r.required? "profile" Profile.ofJson?
    let device ← r.required? "device_id" Raw.word?
    return .deviceRegistered profile device
  | .sendPreKeys => do
    let r ← Record.read? ["identity", "bundle"] [] j
    let identity ← r.required? "identity" ServerIdentity.ofJson?
    let bundle ← r.required? "bundle" Raw.bytes?
    return .sendPreKeys identity bundle
  | .resendPreKeys => do
    let r ← Record.read? ["identity"] [] j
    let identity ← r.optional? "identity" ServerIdentity.ofJson?
    return .resendPreKeys identity
  | .startSession => (unit? j).map fun _ => .startSession
  | .sessionFailed => do
    let r ← Record.read? ["failure"] [] j
    let failure ← r.required? "failure" (SessionFailure.ofJson? .collected)
    return .sessionFailed failure
  | .isTrusted => do
    let r ← Record.read? ["identity"] [] j
    let identity ← r.required? "identity" ServerIdentity.ofJson?
    return .isTrusted identity
  | .isUntrusted => (unit? j).map fun _ => .isUntrusted
  | .keepAlive => (unit? j).map fun _ => .keepAlive
  | .feature => (FeatureMessage.ofJson? j).map .feature

def ofJson? (j : Raw) : Option Response :=
  readTagged? .direct "type" Variant.names body? j

end Response

end SealedSession
