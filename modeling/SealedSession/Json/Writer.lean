import SealedSession.Json.Tree

/-! # Writing JSON

A value is written without blanks, its fields in the order in which they stand. A text escapes
the quote, the backslash and the characters below the space; everything else stands for itself.

The writer puts characters in front of a reversed text, which keeps long arrays cheap;
`Value.written` is the text in reading order.
-/

namespace SealedSession.Json

/-- A number to be written: an integer, or the text of a float. -/
inductive Number where
  | int (n : Int)
  | float (digits : String)
deriving DecidableEq, Repr, Inhabited

/-- A document whose texts are strings. -/
abbrev Value := Json Number String

/-- What stands for one character between the quotes. -/
def escaped (c : Char) : List Char :=
  if c = '\"' then ['\\', '\"']
  else if c = '\\' then ['\\', '\\']
  else if c = '\x08' then ['\\', 'b']
  else if c = '\x0c' then ['\\', 'f']
  else if c = '\n' then ['\\', 'n']
  else if c = '\r' then ['\\', 'r']
  else if c = '\t' then ['\\', 't']
  else if c.toNat < 0x20 then
    ['\\', 'u', '0', '0', Hex.digit (c.toNat / 16), Hex.digit (c.toNat % 16)]
  else [c]

/-- A string between quotes. -/
def quoted (s : String) : List Char :=
  '\"' :: s.toList.flatMap escaped ++ ['\"']

/-- The text of a number. -/
def Number.written : Number → List Char
  | .int n => (toString n).toList
  | .float digits => digits.toList

namespace Value

mutual

/-- Writes a value behind a text given in reverse. -/
def writeOnto (done : List Char) : Value → List Char
  | .null => 'l' :: 'l' :: 'u' :: 'n' :: done
  | .bool true => 'e' :: 'u' :: 'r' :: 't' :: done
  | .bool false => 'e' :: 's' :: 'l' :: 'a' :: 'f' :: done
  | .number n => n.written.reverse ++ done
  | .text s => (quoted s).reverse ++ done
  | .array [] => ']' :: '[' :: done
  | .array (v :: items) => ']' :: writeItems (writeOnto ('[' :: done) v) items
  | .object [] => '\x7d' :: '\x7b' :: done
  | .object ((key, v) :: fields) =>
    '\x7d' :: writeFields (writeOnto (':' :: ((quoted key).reverse ++ '\x7b' :: done)) v) fields

/-- Writes further items, each behind a comma. -/
def writeItems (done : List Char) : List Value → List Char
  | [] => done
  | v :: items => writeItems (writeOnto (',' :: done) v) items

/-- Writes further fields, each behind a comma. -/
def writeFields (done : List Char) : List (String × Value) → List Char
  | [] => done
  | (key, v) :: fields =>
    writeFields (writeOnto (':' :: ((quoted key).reverse ++ ',' :: done)) v) fields

end

/-- The text of a value. -/
def written (v : Value) : List Char :=
  (writeOnto [] v).reverse

/-- The text of a value as a string. -/
def render (v : Value) : String :=
  String.ofList v.written

/-- The bytes of a value's text. -/
def encode (v : Value) : Bytes :=
  Utf8.encode v.written

end Value

end SealedSession.Json
