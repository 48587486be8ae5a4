import SealedSession.Text.Utf8

/-! # Percent-encoding

A character that a part of a URL cannot hold is written as the bytes of its UTF-8 form, each as a
percent sign and two upper-case digits. Which characters those are depends on the part. Reading
turns every percent sign that is followed by two digits into a byte and leaves all else alone.
-/

namespace SealedSession.Percent

/-- The controls and everything outside ASCII; encoded everywhere. -/
def control (c : Char) : Bool := c.toNat < 0x20 || 0x7E < c.toNat

/-- What a fragment encodes. -/
def fragment (c : Char) : Bool := control c || c ∈ [' ', '"', '<', '>', '`']

/-- What a query encodes. -/
def query (c : Char) : Bool := control c || c ∈ [' ', '"', '#', '<', '>']

/-- What a query of a special scheme encodes. -/
def specialQuery (c : Char) : Bool := query c || c = '\''

/-- What a path encodes. -/
def path (c : Char) : Bool := query c || c ∈ ['?', '`', '{', '}']

/-- What a name or a password encodes. -/
def userinfo (c : Char) : Bool :=
  path c || c ∈ ['/', ':', ';', '=', '@', '[', '\\', ']', '^', '|']

/-- A byte behind a percent sign. -/
def ofByte (b : UInt8) : List Char :=
  ['%', (Hex.digit (b.toNat / 16)).toUpper, (Hex.digit (b.toNat % 16)).toUpper]

/-- Encodes the characters that satisfy a condition. -/
def encode (encoded : Char → Bool) (text : List Char) : List Char :=
  text.flatMap fun c => if encoded c then (String.utf8EncodeChar c).flatMap ofByte else [c]

/-- The bytes that a text stands for. -/
def decode : List Char → Bytes
  | '%' :: a :: b :: rest =>
    match Hex.value? a, Hex.value? b with
    | some high, some low => UInt8.ofNat (16 * high + low) :: decode rest
    | _, _ => 37 :: decode (a :: b :: rest)
  | c :: rest => String.utf8EncodeChar c ++ decode rest
  | [] => []

end SealedSession.Percent
