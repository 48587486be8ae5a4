import SealedSession.Url.Ipv4

/-! # IPv6 addresses

An address is eight groups of sixteen bits. Groups are written as up to four hexadecimal digits
with colons between them; two colons stand, once, for at least one group of zeros, and the last
two groups may be written as four decimal bytes. The written form uses small digits and puts two
colons in the place of the first longest run of at least two zeros.
-/

namespace SealedSession.Ipv6

/-- One to four hexadecimal digits. -/
def group? (text : List Char) : Option Nat :=
  if text = [] ∨ 4 < text.length then none else Ipv4.digits? 16 text

/-- A decimal byte without leading zeros. -/
def byte? (text : List Char) : Option Nat :=
  match text with
  | [] | '0' :: _ :: _ => none
  | _ =>
    match Ipv4.digits? 10 text with
    | some n => if n < 256 then some n else none
    | none => none

/-- Two groups written as four decimal bytes. -/
def embedded? (text : List Char) : Option (List Nat) :=
  match (Text.pieces (· = '.') text).mapM byte? with
  | some [a, b, c, d] => some [256 * a + b, 256 * c + d]
  | _ => none

/-- Groups with colons between them. -/
def groups? (pieces : List (List Char)) : Option (List Nat) :=
  pieces.mapM group?

/-- Groups that end the address. -/
def lastGroups? (pieces : List (List Char)) : Option (List Nat) :=
  match pieces.getLast? with
  | none => some []
  | some last =>
    if '.' ∈ last then do
      let before ← groups? pieces.dropLast
      let tail ← embedded? last
      return before ++ tail
    else groups? pieces

/-- The pieces between colons; none of the empty text. -/
def colonPieces (text : List Char) : List (List Char) :=
  if text = [] then [] else Text.pieces (· = ':') text

/-- What stands before and after the first two adjacent colons. -/
def cutDouble? : List Char → Option (List Char × List Char)
  | ':' :: ':' :: rest => some ([], rest)
  | c :: rest => (cutDouble? rest).map fun (before, after) => (c :: before, after)
  | [] => none

/-- Reads an address as its eight groups. -/
def parse? (text : List Char) : Option (List Nat) :=
  match cutDouble? text with
  | some (before, after) => do
    let left ← groups? (colonPieces before)
    let right ← lastGroups? (colonPieces after)
    let explicit := left.length + right.length
    if explicit ≤ 7 then some (left ++ List.replicate (8 - explicit) 0 ++ right) else none
  | none => do
    let all ← lastGroups? (colonPieces text)
    if all.length = 8 then some all else none

/-- How many zeros a list begins with. -/
def leadingZeros (groups : List Nat) : Nat :=
  (groups.takeWhile (· = 0)).length

/-- Where the first longest run of zeros begins, and how long it is. -/
def longestRun (groups : List Nat) : Nat × Nat :=
  (List.range groups.length).foldl (fun (start, length) i =>
    let n := leadingZeros (groups.drop i)
    if length < n then (i, n) else (start, length)) (0, 0)

/-- Groups with colons between them, written. -/
def written (groups : List Nat) : String :=
  ":".intercalate (groups.map Hex.ofNat)

/-- The text of eight groups. -/
def text (groups : List Nat) : String :=
  let (start, length) := longestRun groups
  if length < 2 then written groups
  else written (groups.take start) ++ "::" ++ written (groups.drop (start + length))

end SealedSession.Ipv6
