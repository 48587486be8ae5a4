import SealedSession.Text.Split

/-! # Punycode

A label with characters outside ASCII is written by its ASCII characters, a hyphen if there are
any, and one number for each other character in ascending order: how many steps of counting lead
from the previous character and place to this one. The numbers have digits of a varying base, in
which a digit below its threshold is the last.

## Main definitions

* `Punycode.encode`: the written form of a label.
* `Punycode.decode?`: the label of a written form.
-/

namespace SealedSession.Punycode

/-- The sign of a digit below 36. -/
def digit (d : Nat) : Char :=
  if d < 26 then Char.ofNat (97 + d) else Char.ofNat (22 + d)

/-- The threshold of the digit in place `k`, between 1 and 26. -/
def threshold (k bias : Nat) : Nat := min 26 (max 1 (k - bias))

/-- Reduces a step count to what the bias is computed from, counting the divisions. -/
def reduce (delta k : Nat) : Nat × Nat :=
  if 455 < delta then reduce (delta / 35) (k + 36) else (delta, k)
termination_by delta
decreasing_by omega

/-- The bias after a step count was written. -/
def adapt (delta points : Nat) (first : Bool) : Nat :=
  let scaled := if first then delta / 700 else delta / 2
  let (rest, k) := reduce (scaled + scaled / points) 0
  k + 36 * rest / (rest + 38)

/-- The digits of a step count, from place `k` on. -/
def number (bias k n : Nat) : List Char :=
  let t := threshold k bias
  if n < t then [digit n]
  else digit (t + (n - t) % (36 - t)) :: number bias (k + 36) ((n - t) / (36 - t))
termination_by n
decreasing_by
  have h : 1 ≤ threshold k bias := by unfold threshold; omega
  have := Nat.div_le_self (n - threshold k bias) (36 - threshold k bias)
  omega

/-- The state of writing: what was written, the step count, the bias and the characters done. -/
structure State where
  output : List Char := []
  delta : Nat := 0
  bias : Nat := 72
  done : Nat

/-- Passes one character of the label while looking for `next`. -/
def pass (basic next : Nat) (s : State) (c : Char) : State :=
  if c.toNat < next then { s with delta := s.delta + 1 }
  else if c.toNat = next then
    { output := s.output ++ number s.bias 36 s.delta
      delta := 0
      bias := adapt s.delta (s.done + 1) (s.done = basic)
      done := s.done + 1 }
  else s

/-- Writes the characters with the given code points, which ascend from `from_` on. -/
def writeAll (label : List Char) (basic : Nat) : List Nat → Nat → State → State
  | [], _, s => s
  | next :: rest, from_, s =>
    let s := { s with delta := s.delta + (next - from_) * (s.done + 1) }
    let s := label.foldl (pass basic next) s
    writeAll label basic rest (next + 1) { s with delta := s.delta + 1 }

/-- Whether a character is outside ASCII. -/
def isExtended (c : Char) : Bool := 0x7F < c.toNat

/-- The code points outside ASCII that occur in a label, ascending. -/
def extendedPoints (label : List Char) : List Nat :=
  (((label.filter isExtended).map Char.toNat).mergeSort (· ≤ ·)).eraseReps

/-- The written form of a label. -/
def encode (label : List Char) : List Char :=
  let basic := label.filter fun c => !isExtended c
  let s := writeAll label basic.length (extendedPoints label) 128 { done := basic.length }
  basic ++ (if basic = [] then [] else ['-']) ++ s.output

/-! ## Reading -/

/-- The value of a small letter or a decimal digit. -/
def value? (c : Char) : Option Nat :=
  if 'a' ≤ c ∧ c ≤ 'z' then some (c.toNat - 97)
  else if '0' ≤ c ∧ c ≤ '9' then some (c.toNat - 22)
  else none

/-- The state of reading: the label so far, the code point and the place reached, and what is known
of the number being read. -/
structure Partial where
  label : List Char
  point : Nat := 128
  place : Nat := 0
  /-- The place at which the number began. -/
  start : Nat := 0
  weight : Nat := 1
  k : Nat := 36
  bias : Nat := 72

/-- Puts the character that a complete number leads to into the label. -/
def insert? (s : Partial) : Option Partial :=
  let size := s.label.length + 1
  let point := s.point + s.place / size
  let place := s.place % size
  if point.isValidChar then
    some { label := s.label.take place ++ Char.ofNat point :: s.label.drop place
           point := point
           place := place + 1
           start := place + 1
           bias := adapt (s.place - s.start) size (s.start = 0) }
  else none

/-- Reads one digit. -/
def step? (s : Partial) (c : Char) : Option Partial := do
  let d ← value? c
  let t := threshold s.k s.bias
  let s := { s with place := s.place + d * s.weight }
  if d < t then insert? s
  else return { s with weight := s.weight * (36 - t), k := s.k + 36 }

/-- The label of a written form, unless it ends within a number. -/
def decode? (text : List Char) : Option (List Char) := do
  let (basic, digits) := Text.cutLast (· = '-') text
  let s ← digits.foldlM step? { label := basic.getD [] }
  if s.k = 36 then some s.label else none

end SealedSession.Punycode
