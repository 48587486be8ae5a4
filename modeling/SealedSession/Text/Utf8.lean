import SealedSession.Bytes

/-! # UTF-8

Text is written in UTF-8. Reading never fails: a byte that belongs to no well-formed sequence is
kept as a *stray* byte, and the reader of a format decides whether it minds. A sequence is well
formed when it is the shortest one for its scalar value, and surrogates have none.

A stray byte is consumed alone, so the bytes after it are looked at afresh; in particular no
ASCII byte is ever part of anything but itself.
-/

namespace SealedSession.Utf8

/-- One step of reading: a character, or a byte that belongs to none. -/
inductive Unit where
  | char (c : Char)
  | stray (b : UInt8)
deriving DecidableEq, Repr

/-- The bytes of a text. -/
def encode (text : List Char) : Bytes :=
  text.flatMap String.utf8EncodeChar

/-- The bytes of a string. -/
def ofString (s : String) : Bytes :=
  s.toUTF8.data.toList

/-- The number of bytes that a text takes. -/
def size (text : List Char) : Nat :=
  text.foldl (fun n c => n + c.utf8Size) 0

/-- The six payload bits of a continuation byte. -/
def continuation? (b : UInt8) : Option Nat :=
  if 0x80 ≤ b ∧ b < 0xC0 then some (b.toNat - 0x80) else none

/-- The scalar value `n`, provided that it needs a sequence as long as the one that spelled it. -/
def scalar? (least n : Nat) : Option Char :=
  if least ≤ n ∧ n.isValidChar then some (Char.ofNat n) else none

/-- The character at the head of a buffer, with the number of bytes it takes. -/
def head? : Bytes → Option (Char × Nat)
  | [] => none
  | a :: rest =>
    if a < 0x80 then some (Char.ofNat a.toNat, 1)
    else if a < 0xC0 then none
    else if a < 0xE0 then
      match rest with
      | b :: _ => do
        let y ← continuation? b
        let c ← scalar? 0x80 ((a.toNat - 0xC0) * 0x40 + y)
        return (c, 2)
      | _ => none
    else if a < 0xF0 then
      match rest with
      | b :: c :: _ => do
        let y ← continuation? b
        let z ← continuation? c
        let c ← scalar? 0x800 ((a.toNat - 0xE0) * 0x1000 + y * 0x40 + z)
        return (c, 3)
      | _ => none
    else if a < 0xF8 then
      match rest with
      | b :: c :: d :: _ => do
        let y ← continuation? b
        let z ← continuation? c
        let w ← continuation? d
        let c ← scalar? 0x10000 ((a.toNat - 0xF0) * 0x40000 + y * 0x1000 + z * 0x40 + w)
        return (c, 4)
      | _ => none
    else none

/-- Reads on while `skip` bytes still belong to a character already read. -/
def scanOnto (done : List Unit) : Nat → Bytes → List Unit
  | _, [] => done.reverse
  | skip + 1, _ :: rest => scanOnto done skip rest
  | 0, b :: rest =>
    match head? (b :: rest) with
    | some (c, n) => scanOnto (.char c :: done) (n - 1) rest
    | none => scanOnto (.stray b :: done) 0 rest

/-- All characters and stray bytes of a buffer, in order. -/
def scan (bytes : Bytes) : List Unit :=
  scanOnto [] 0 bytes

/-- The text of a buffer without stray bytes. -/
def decode? (bytes : Bytes) : Option (List Char) :=
  (scan bytes).mapM fun
    | .char c => some c
    | .stray _ => none

/-- The text of a buffer, with the replacement character for each stray byte. -/
def lossy (bytes : Bytes) : List Char :=
  (scan bytes).map fun
    | .char c => c
    | .stray _ => Char.ofNat 0xFFFD

@[simp] theorem encode_nil : encode [] = [] := rfl

@[simp] theorem encode_cons (c : Char) (text : List Char) :
    encode (c :: text) = String.utf8EncodeChar c ++ encode text := rfl

end SealedSession.Utf8
