import SealedSession.Bytes
import SealedSession.Text.Split

/-! # Tables of characters

A property of characters is a list of spans in ascending order. A span may have an image, which is
what belongs to its first code point; it moves along with the others.

In the text of a table spans stand between blanks or line ends, their numbers in hexadecimal: a
code point, or two with a hyphen between, or with a plus sign if only every second code point
counts. The image follows a colon, its numbers with commas between.

## Main definitions

* `Span.readAll`: the spans of a text.
* `Span.find?`: the span that a code point is in.
-/

namespace SealedSession.Unicode

/-- Code points in equal steps, and what belongs to the first of them. -/
structure Span where
  first : Nat
  last : Nat
  step : Nat := 1
  image : List Nat := []
deriving DecidableEq, Repr, Inhabited

namespace Span

/-- Whether a code point is in a span. -/
def contains (s : Span) (n : Nat) : Bool :=
  s.first ≤ n && n ≤ s.last && (n - s.first) % s.step = 0

/-- What belongs to a code point of a span. -/
def imageOf (s : Span) (n : Nat) : List Char :=
  s.image.map fun t => Char.ofNat (t + (n - s.first))

/-- The span that a code point is in, among spans in ascending order. -/
def find? : List Span → Nat → Option Span
  | [], _ => none
  | s :: rest, n =>
    if n < s.first then none
    else if s.contains n then some s
    else find? rest n

/-- Whether a code point is in one of several spans in ascending order. -/
def covers (spans : List Span) (n : Nat) : Bool := (find? spans n).isSome

/-- The number of hexadecimal digits. -/
def number (digits : List Char) : Nat :=
  digits.foldl (fun n c => 16 * n + (Hex.value? c).getD 0) 0

/-- One span of a table. -/
def read (text : List Char) : Span :=
  let (range, image) := Text.cut (· = ':') text
  let (first, last) := Text.cut (fun c => c = '-' || c = '+') range
  { first := number first
    last := number (last.getD first)
    step := if '+' ∈ range then 2 else 1
    image := (image.elim [] (Text.pieces (· = ','))).map number }

/-- The spans of a table. -/
def readAll (text : String) : List Span :=
  (text.splitOn "\n").flatMap fun line =>
    ((Text.pieces (· = ' ') line.toList).filter (· ≠ [])).map read

example : read "41-5A:61".toList = ⟨0x41, 0x5A, 1, [0x61]⟩ := by decide

example : read "100+12E:101".toList = ⟨0x100, 0x12E, 2, [0x101]⟩ := by decide

example : ((read "100+12E:101".toList).imageOf 0x104, (read "BD:31,2044,32".toList).imageOf 0xBD) =
    (['\u0105'], ['1', '\u2044', '2']) := by decide

end Span

end SealedSession.Unicode
