import SealedSession.Url.Host

/-! # URLs

A URL is a scheme, perhaps a host with a name, a password and a `portNumber`, a path, and perhaps
a query and a fragment. The six special schemes are those whose URLs all have the same shape; five
of them have a usual `portNumber` that is never written.

A path is either a list of segments, or a text that is kept as it stands and that nothing can be
relative to.

## Main definitions

* `Url.text`: the written form.
* `Url.withScheme?`: the same URL under another scheme.
-/

namespace SealedSession

/-- The path of a URL. -/
inductive UrlPath where
  | segments (names : List String)
  | verbatim (text : String)
deriving DecidableEq, Repr, Inhabited

/-- A URL. Names, passwords, segments, queries and fragments are kept encoded. -/
structure Url where
  scheme : String
  username : String := ""
  password : String := ""
  host : Option Host := none
  portNumber : Option UInt16 := none
  path : UrlPath := .segments []
  query : Option String := none
  fragment : Option String := none
deriving DecidableEq, Repr, Inhabited

namespace Scheme

/-- The special schemes, each with its usual `portNumber`. -/
def special : List (String × Option UInt16) :=
  [("http", some 80), ("https", some 443), ("ws", some 80), ("wss", some 443), ("ftp", some 21),
    ("file", none)]

def isSpecial (scheme : String) : Bool := special.any fun s => s.1 = scheme

/-- The `portNumber` that a URL of this scheme does not write. -/
def usual? (scheme : String) : Option UInt16 :=
  (special.find? fun s => s.1 = scheme).bind (·.2)

/-- A `portNumber`, unless it is the usual one. -/
def unusual? (scheme : String) (number : Option UInt16) : Option UInt16 :=
  if number = usual? scheme then none else number

end Scheme

namespace Url

/-- The name and the password before a host. -/
def credentials (u : Url) : String :=
  if u.username = "" ∧ u.password = "" then ""
  else u.username ++ (if u.password = "" then "" else ":" ++ u.password) ++ "@"

/-- The path as it is written. Without a host, a path that began with two slashes would be taken
for one, so a dot is put between. -/
def pathText (u : Url) : String :=
  match u.path with
  | .verbatim text => text
  | .segments names =>
    let written := String.join (names.map ("/" ++ ·))
    if u.host.isNone && 1 < names.length && names.head? = some "" then "/." ++ written else written

/-- What stands between the scheme and the path. -/
def authority (u : Url) : String :=
  match u.host with
  | none => ""
  | some host =>
    let number := u.portNumber.elim "" fun n => ":" ++ toString n.toNat
    "//" ++ u.credentials ++ host.text ++ number

/-- The written form. -/
def text (u : Url) : String :=
  u.scheme ++ ":" ++ u.authority ++ u.pathText ++ (u.query.elim "" ("?" ++ ·)) ++
    (u.fragment.elim "" ("#" ++ ·))

instance : ToString Url := ⟨text⟩

/-- Whether nothing can be relative to the URL. -/
def isVerbatim (u : Url) : Bool :=
  match u.path with
  | .verbatim _ => true
  | .segments _ => false

/-- The segments of the path. -/
def segments (u : Url) : List String :=
  match u.path with
  | .verbatim _ => []
  | .segments names => names

/-- Whether the URL has a host that is not empty. -/
def hasHost (u : Url) : Bool := u.host.any fun h => h ≠ .empty

/-- The same URL under another scheme. A special scheme and one that is not cannot take each
other's place, a special scheme needs a host, and a host has no place in a file. -/
def withScheme? (u : Url) (scheme : String) : Option Url :=
  if Scheme.isSpecial scheme ≠ Scheme.isSpecial u.scheme then none
  else if scheme = "file" ∧ u.host.isSome then none
  else if Scheme.isSpecial scheme ∧ !u.hasHost then none
  else some { u with scheme := scheme, portNumber := Scheme.unusual? scheme u.portNumber }

end Url

end SealedSession
