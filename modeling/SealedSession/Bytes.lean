/-! # Byte strings

A byte string is a list of bytes, so that every statement about a buffer is a statement about
a list. Two views of it are fixed here.

## Hexadecimal text

Each byte is written as two lower-case digits, the high one first.

## Words

A header word is a signed 32-bit number, written with its most significant byte first.
-/

namespace SealedSession

/-- A finite string of bytes. -/
abbrev Bytes := List UInt8

namespace Hex

/-- The lower-case digit of a number below sixteen. -/
def digit (n : Nat) : Char :=
  if n < 10 then Char.ofNat (48 + n) else Char.ofNat (87 + n)

/-- The value of a digit in either case. -/
def value? (c : Char) : Option Nat :=
  if '0' ≤ c ∧ c ≤ '9' then some (c.toNat - 48)
  else if 'a' ≤ c ∧ c ≤ 'f' then some (c.toNat - 87)
  else if 'A' ≤ c ∧ c ≤ 'F' then some (c.toNat - 55)
  else none

/-- Two digits per byte. -/
def ofBytes (bytes : Bytes) : List Char :=
  bytes.flatMap fun b => [digit (b.toNat / 16), digit (b.toNat % 16)]

/-- Reads pairs of digits; an odd digit or a foreign character refuses the whole text. -/
def toBytes? : List Char → Option Bytes
  | [] => some []
  | [_] => none
  | high :: low :: rest => do
    let h ← value? high
    let l ← value? low
    let bytes ← toBytes? rest
    return UInt8.ofNat (16 * h + l) :: bytes

/-- The digits of a number without leading zeros, `0` for zero. -/
def ofNat (n : Nat) : String :=
  String.ofList (Nat.toDigits 16 n)

@[simp] theorem ofBytes_nil : ofBytes [] = [] := rfl

@[simp] theorem ofBytes_cons (b : UInt8) (bytes : Bytes) :
    ofBytes (b :: bytes) = digit (b.toNat / 16) :: digit (b.toNat % 16) :: ofBytes bytes := rfl

@[simp] theorem length_ofBytes (bytes : Bytes) : (ofBytes bytes).length = 2 * bytes.length := by
  induction bytes with
  | nil => rfl
  | cons b rest ih => simp [ih]; omega

end Hex

namespace Word

/-- The four bytes of a word, most significant first. -/
def toBytes (w : Int32) : Bytes :=
  let n := w.toUInt32.toNat
  [UInt8.ofNat (n / 0x1000000), UInt8.ofNat (n / 0x10000), UInt8.ofNat (n / 0x100), UInt8.ofNat n]

/-- The word that four bytes spell. -/
def ofBytes (a b c d : UInt8) : Int32 :=
  (UInt32.ofNat (a.toNat * 0x1000000 + b.toNat * 0x10000 + c.toNat * 0x100 + d.toNat)).toInt32

@[simp] theorem length_toBytes (w : Int32) : (toBytes w).length = 4 := rfl

end Word

end SealedSession
