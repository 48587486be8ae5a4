import SealedSession.Text.Utf8

/-! # JSON trees

A JSON document is one tree type with two kinds of leaves left open. With literals as leaves it
is what a reader saw: numbers digit by digit, texts escape by escape, every field of an object in
its place, repeated or not. With numbers and strings as leaves it is a value.

A document is read in the first form, because a receiver that skips a field accepts more in it
than one that keeps it: a skipped text may hold a lone surrogate or a stray byte, and a skipped
number may exceed every finite float.
-/

namespace SealedSession

/-- A JSON document over number leaves `N` and texts `S`. -/
inductive Json (N S : Type) where
  | null
  | bool (b : Bool)
  | number (n : N)
  | text (s : S)
  | array (items : List (Json N S))
  | object (fields : List (S × Json N S))
deriving Repr, Inhabited

namespace Json

/-- A number as it is written, digit by digit. -/
structure Literal where
  negative : Bool := false
  whole : List Nat := []
  fraction : List Nat := []
  /-- The sign and the digits after the exponent mark. -/
  exponent : Option (Bool × List Nat) := none
deriving DecidableEq, Repr

/-- One element of a written text. -/
inductive Piece where
  | char (c : Char)
  /-- A UTF-16 unit given by a numeric escape. -/
  | escaped (unit : Nat)
  | stray (b : UInt8)
deriving DecidableEq, Repr

/-- A document as it was read. -/
abbrev Raw := Json Literal (List Piece)

/-- Joins the pieces of a text. A high surrogate must be followed at once by a low one, and no
stray byte may occur. -/
def Piece.joinOnto (done : List Char) : List Piece → Option (List Char)
  | [] => some done.reverse
  | .char c :: rest => joinOnto (c :: done) rest
  | .stray _ :: _ => none
  | .escaped u :: rest =>
    if u < 0xD800 ∨ 0xE000 ≤ u then joinOnto (Char.ofNat u :: done) rest
    else if 0xDC00 ≤ u then none
    else match rest with
      | .escaped v :: rest =>
        if 0xDC00 ≤ v ∧ v < 0xE000 then
          joinOnto (Char.ofNat (0x10000 + (u - 0xD800) * 0x400 + (v - 0xDC00)) :: done) rest
        else none
      | _ => none

/-- The string that a written text denotes, if it denotes one. -/
def Piece.toString? (pieces : List Piece) : Option String :=
  (joinOnto [] pieces).map String.ofList

end Json

end SealedSession
