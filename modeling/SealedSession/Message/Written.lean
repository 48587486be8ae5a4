import SealedSession.Message

/-! # The written form of messages

A message is written as one object. Its tag stands first, then its fields in the order of their
declaration, each of them present, `null` where there is none.
-/

namespace SealedSession

/-- An object that begins with a tag. -/
def tagged (tag name : String) (fields : List (String × Json.Value)) : Json.Value :=
  .object ((tag, .text name) :: fields)

namespace FeatureMessage

def fields (m : FeatureMessage) : List (String × Json.Value) :=
  [("kind", .text m.kind), ("body", Json.ofBytes m.body)]

def toJson (m : FeatureMessage) : Json.Value := .object m.fields

end FeatureMessage

namespace PreKeyOffer

def fields (o : PreKeyOffer) : List (String × Json.Value) :=
  [("identity", Json.orNull Identity.toJson o.identity), ("bundle", Json.ofBytes o.bundle)]

def toJson (o : PreKeyOffer) : Json.Value := .object o.fields

end PreKeyOffer

namespace Request

def fields : Request → List (String × Json.Value)
  | .identify identity token =>
    [("identity", Json.orNull Identity.toJson identity),
      ("token", Json.orNull Json.ofBytes token)]
  | .sendPreKeys offer => offer.fields
  | .startSession identity session serverId =>
    [("identity", identity.toJson), ("session", session.toJson),
      ("server_id", Json.orNull .text serverId)]
  | .checkTrust identity => [("identity", identity.toJson)]
  | .keepAlive identity => [("identity", Json.orNull Identity.toJson identity)]
  | .feature message => message.fields

def toJson (r : Request) : Json.Value :=
  tagged "type" r.name r.fields

end Request

namespace SessionFailure

def fields : SessionFailure → List (String × Json.Value)
  | .accountVerificationFailed session => [("session", session.toJson)]
  | .privateIdentityMismatch url => [("url", .text url)]
  | .sessionError reason message => [("reason", reason.toJson), ("message", .text message)]

def toJson (f : SessionFailure) : Json.Value :=
  tagged "kind" f.name f.fields

end SessionFailure

namespace Response

def fields : Response → List (String × Json.Value)
  | .identify profile serverPublicKey sharedSecret =>
    [("profile", profile.toJson), ("server_public_key", Json.ofBytes serverPublicKey),
      ("shared_secret", Json.ofBytes sharedSecret)]
  | .registerDevice approvalUrl approvalToken =>
    [("approval_url", .text approvalUrl), ("approval_token", .text approvalToken)]
  | .deviceRegistered profile device =>
    [("profile", profile.toJson), ("device_id", Json.ofWord device)]
  | .sendPreKeys identity bundle =>
    [("identity", identity.toJson), ("bundle", Json.ofBytes bundle)]
  | .resendPreKeys identity => [("identity", Json.orNull ServerIdentity.toJson identity)]
  | .startSession => []
  | .sessionFailed failure => [("failure", failure.toJson)]
  | .isTrusted identity => [("identity", identity.toJson)]
  | .isUntrusted => []
  | .keepAlive => []
  | .feature message => message.fields

def toJson (r : Response) : Json.Value :=
  tagged "type" r.name r.fields

end Response

@[simp] theorem Request.toJson_erased (r : Request) : r.erased.toJson = r.toJson := by
  cases r <;> rfl

@[simp] theorem Response.toJson_erased (r : Response) : r.erased.toJson = r.toJson := by
  cases r with
  | sessionFailed failure => cases failure <;> rfl
  | _ => rfl

end SealedSession
