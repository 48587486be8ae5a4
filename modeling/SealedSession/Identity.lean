import SealedSession.Json.Record
import SealedSession.Uuid

/-! # Identities

An identity names one party by the profile that owns it, its public key and, once a device has
been registered, the number of the device. Keys, prekeys and tokens are opaque bytes.

Each type comes with the JSON value that it is written as and the reader that accepts it.
-/

namespace SealedSession

/-- An array of numbers. -/
def Json.ofBytes (bytes : Bytes) : Json.Value :=
  .array (bytes.map fun b => .number (.int b.toNat))

/-- A number. -/
def Json.ofWord (n : UInt32) : Json.Value :=
  .number (.int n.toNat)

/-- The value of an option, `null` when there is none. -/
def Json.orNull {α : Type} (f : α → Json.Value) : Option α → Json.Value
  | none => .null
  | some a => f a

/-- The UUID of a text. -/
def Uuid.ofJson? (j : Json.Raw) : Option Uuid :=
  j.string?.bind ofString?

/-- The hyphenated text. -/
def Uuid.toJson (u : Uuid) : Json.Value :=
  .text u.text

/-- The cryptographic and ownership identifier of one party. -/
structure Identity where
  owner : Uuid
  publicKey : Bytes
  /-- Present once the device has been registered. -/
  device : Option UInt32 := none
deriving DecidableEq, Repr, Inhabited

namespace Identity

/-- The owner, and the device behind a hash sign. -/
def text (i : Identity) : String :=
  match i.device with
  | some n => i.owner.text ++ "#" ++ toString n.toNat
  | none => i.owner.text

instance : ToString Identity := ⟨text⟩

def toJson (i : Identity) : Json.Value :=
  .object [("owner", i.owner.toJson), ("public_key", Json.ofBytes i.publicKey),
    ("device_id", Json.orNull Json.ofWord i.device)]

def ofJson? (j : Json.Raw) : Option Identity := do
  let r ← Json.Record.read? ["owner", "public_key", "device_id"] [] j
  let owner ← r.required? "owner" Uuid.ofJson?
  let publicKey ← r.required? "public_key" Json.Raw.bytes?
  let device ← r.optional? "device_id" Json.Raw.word?
  return ⟨owner, publicKey, device⟩

end Identity

/-- The identity of a server. -/
structure ServerIdentity where
  identity : Identity
deriving DecidableEq, Repr, Inhabited

namespace ServerIdentity

/-- The identity, marked as a server's. -/
def text (s : ServerIdentity) : String :=
  "server:" ++ s.identity.text

instance : ToString ServerIdentity := ⟨text⟩

def toJson (s : ServerIdentity) : Json.Value := s.identity.toJson

def ofJson? (j : Json.Raw) : Option ServerIdentity :=
  (Identity.ofJson? j).map ServerIdentity.mk

end ServerIdentity

/-- A user profile. -/
structure Profile where
  id : Uuid
deriving DecidableEq, Repr, Inhabited

namespace Profile

def toJson (p : Profile) : Json.Value :=
  .object [("id", p.id.toJson)]

def ofJson? (j : Json.Raw) : Option Profile := do
  let r ← Json.Record.read? ["id"] [] j
  let id ← r.required? "id" Uuid.ofJson?
  return ⟨id⟩

end Profile

/-- The diagnostic text of a token tells its length and hides its bytes. -/
def tokenDiagnostic (token : Bytes) : String :=
  "PrivateIdentityToken(<" ++ toString token.length ++ " bytes>)"

end SealedSession
