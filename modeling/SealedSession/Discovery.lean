import SealedSession.Client.Error

/-! # Discovery

Before it opens a socket a client asks the server what it offers: the protocol versions it
speaks and a list of named features. The client goes on only when its own version is among them,
the scheme by which accounts are verified suits the session, and every feature that it relies on
is offered. Only the first feature of a name counts.

The conditions are checked in that order, and the first that fails is the one reported.
-/

namespace SealedSession

/-- A version of the protocol. -/
structure Version where
  major : UInt32
  minor : UInt32
deriving DecidableEq, Repr, Inhabited

namespace Version

def text (v : Version) : String :=
  toString v.major.toNat ++ "." ++ toString v.minor.toNat

instance : ToString Version := ⟨text⟩

def toJson (v : Version) : Json.Value :=
  .object [("major", Json.ofWord v.major), ("minor", Json.ofWord v.minor)]

def ofJson? (j : Json.Raw) : Option Version := do
  let r ← Json.Record.read? ["major", "minor"] [] j
  let major ← r.required? "major" Json.Raw.word?
  let minor ← r.required? "minor" Json.Raw.word?
  return ⟨major, minor⟩

end Version

/-- A capability that a server offers. -/
structure Feature where
  name : String
  value : Json.Value := .null

namespace Feature

def toJson (f : Feature) : Json.Value :=
  .object [("name", .text f.name), ("value", f.value)]

/-- Reads a feature that stands `depth` containers deep. -/
def ofJson? (depth : Nat) (j : Json.Raw) : Option Feature := do
  let r ← Json.Record.read? ["name"] ["value"] j
  let name ← r.required? "name" Json.Raw.string?
  let value ← match r.field? "value" with
    | some v => v.value? (Json.nestingLimit - (depth + 1))
    | none => some .null
  return ⟨name, value⟩

/-- The value, when it is a text. -/
def text? (f : Feature) : Option String :=
  match f.value with
  | .text s => some s
  | _ => none

end Feature

/-- What a server says about itself. -/
structure Discovery where
  versions : List Version
  features : List Feature

namespace Discovery

/-- Where the discovery document is found. -/
def path : String := "/api/discover"

/-- Where the socket is opened. -/
def listenPath : String := "/api/1/listen"

/-- The version that this client speaks. -/
def clientVersion : Version := ⟨0, 1⟩

/-- The feature that names the verification scheme. -/
def schemeFeature : String := "auth:verification_scheme"

/-- The features that a client does not run without. -/
def requiredFeatures : List String :=
  ["groups:locations", "groups:waypoints", "profile:friends"]

/-- The scheme that checks accounts. -/
def checkingScheme : String := "mojang"

/-- The scheme that takes accounts on trust. -/
def trustingScheme : String := "nojang"

def toJson (d : Discovery) : Json.Value :=
  .object [("versions", .array (d.versions.map Version.toJson)),
    ("features", .array (d.features.map Feature.toJson))]

def ofJson? (j : Json.Raw) : Option Discovery := do
  let r ← Json.Record.read? ["versions", "features"] [] j
  let versions ← r.required? "versions" (Json.Raw.list? Version.ofJson?)
  let features ← r.required? "features" (Json.Raw.list? (Feature.ofJson? 2))
  return ⟨versions, features⟩

/-- The document that a buffer holds. -/
def decode? (bytes : Bytes) : Option Discovery :=
  (Json.read? bytes).bind ofJson?

/-- The first feature of a name. -/
def feature? (d : Discovery) (name : String) : Option Feature :=
  d.features.find? fun f => f.name = name

/-- Whether a scheme refuses a session: the checking one an unverified session that brings no
token, the trusting one a verified session that brings one. -/
def refuses (scheme : String) (s : PlayerSession) : Bool :=
  (scheme = checkingScheme && s.mode ≠ .verified && s.accessToken.isNone) ||
    (scheme = trustingScheme && s.mode ≠ .unverified && s.accessToken.isSome)

/-- The versions of the document, joined by commas. -/
def versionList (d : Discovery) : String :=
  ",".intercalate (d.versions.map Version.text)

/-- Refuses a document without one of the given features. -/
def checkFeatures (d : Discovery) : List String → Except ClientError Unit
  | [] => .ok ()
  | name :: names =>
    if (d.feature? name).isNone then .error (.missingFeature name) else checkFeatures d names

/-- Checks that the server can serve a session. -/
def check (d : Discovery) (s : PlayerSession) : Except ClientError Unit :=
  if clientVersion ∉ d.versions then
    .error (.unsupportedVersion clientVersion.text d.versionList)
  else match d.feature? schemeFeature with
    | none => .error (.missingFeature schemeFeature)
    | some scheme =>
      match scheme.text? with
      | some name =>
        if refuses name s then .error (.verificationScheme name)
        else d.checkFeatures requiredFeatures
      | none => d.checkFeatures requiredFeatures

end Discovery

end SealedSession
