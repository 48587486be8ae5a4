import SealedSession.Bytes

/-! # UUIDs

A UUID is sixteen bytes. It is written as lower-case hexadecimal digits in groups of 8, 4, 4, 4
and 12, joined by hyphens.

Four spellings are read: the hyphenated one, the same in braces, the same after `urn:uuid:`, and
the digits alone. Digits and the `urn:uuid:` mark may be in either case.
-/

namespace SealedSession

/-- A 128-bit identifier. -/
structure Uuid where
  bytes : Bytes
  length_bytes : bytes.length = 16
deriving DecidableEq, Repr

namespace Uuid

attribute [simp] length_bytes

/-- The UUID whose bytes are all zero. -/
def nil : Uuid := ⟨List.replicate 16 0, rfl⟩

instance : Inhabited Uuid := ⟨nil⟩

/-- The UUID of sixteen bytes. -/
def ofBytes? (bytes : Bytes) : Option Uuid :=
  if h : bytes.length = 16 then some ⟨bytes, h⟩ else none

/-- The hyphenated text. -/
def chars (u : Uuid) : List Char :=
  let ds := Hex.ofBytes u.bytes
  ds.take 8 ++ '-' :: (ds.drop 8).take 4 ++ '-' :: (ds.drop 12).take 4 ++
    '-' :: (ds.drop 16).take 4 ++ '-' :: ds.drop 20

/-- The hyphenated text as a string. -/
def text (u : Uuid) : String :=
  String.ofList u.chars

instance : ToString Uuid := ⟨text⟩

/-- Reads digits alone. -/
def ofDigits? (text : List Char) : Option Uuid :=
  (Hex.toBytes? text).bind ofBytes?

/-- Reads the hyphenated form. -/
def ofHyphenated? (text : List Char) : Option Uuid :=
  if text.length = 36 ∧ text[8]? = some '-' ∧ text[13]? = some '-' ∧ text[18]? = some '-' ∧
      text[23]? = some '-' then
    ofDigits? (text.take 8 ++ (text.drop 9).take 4 ++ (text.drop 14).take 4 ++
      (text.drop 19).take 4 ++ text.drop 24)
  else none

/-- The mark in front of a UUID that is written as a uniform resource name. -/
def urn : List Char := ['u', 'r', 'n', ':', 'u', 'u', 'i', 'd', ':']

/-- Reads any of the four spellings. -/
def ofText? (text : List Char) : Option Uuid :=
  match text.length with
  | 32 => ofDigits? text
  | 36 => ofHyphenated? text
  | 38 =>
    if text.head? = some '\x7b' ∧ text.getLast? = some '\x7d' then
      ofHyphenated? (text.drop 1).dropLast
    else none
  | 45 =>
    if (text.take 9).map Char.toLower = urn then ofHyphenated? (text.drop 9) else none
  | _ => none

/-- Reads any of the four spellings from a string. -/
def ofString? (s : String) : Option Uuid :=
  ofText? s.toList

end Uuid

end SealedSession
