import SealedSession.Decimal.Shortest
import SealedSession.Json.Writer

/-! # JSON numbers

A number that is kept as a value is an integer when it is written as one and fits 64 bits, signed
or unsigned, and a double otherwise. `-0` is a double, because no integer has a signed zero.

The double is found in two roundings: the leading digits that fit 64 bits are rounded to a
double, and that is multiplied or divided by the double nearest to the remaining power of ten. A
number beyond every finite double is refused.
-/

namespace SealedSession.Json

/-- Floats are positional up to sixteen places before the point and five after it; every other
exponent is written with its sign. -/
def floatLayout : Decimal.Layout := ⟨16, -5, 'e', true⟩

namespace Literal

/-- The largest number of 64 bits. -/
def limit : Nat := UInt64.size - 1

/-- The leading digits of the whole part that fit, and how many more there are. -/
def wholePart : Nat × Nat → List Nat → Nat × Nat
  | r, [] => r
  | (s, dropped), d :: rest =>
    if dropped = 0 ∧ s * 10 + d ≤ limit then wholePart (s * 10 + d, 0) rest
    else wholePart (s, dropped + 1) rest

/-- Appends fraction digits while they fit, counting them. -/
def fractionPart : Nat × Nat → List Nat → Nat × Nat
  | r, [] => r
  | (s, taken), d :: rest =>
    if s * 10 + d ≤ limit then fractionPart (s * 10 + d, taken + 1) rest else (s, taken)

/-- The digits of an exponent as a number. -/
def digitsValue (ds : List Nat) : Nat :=
  ds.foldl (fun n d => 10 * n + d) 0

/-- The significand and the power of ten that a literal spells. -/
def parts (l : Literal) : Nat × Int :=
  let (s, dropped) := wholePart (0, 0) l.whole
  let (s, taken) := fractionPart (s, 0) l.fraction
  let e : Int := match l.exponent with
    | some (true, ds) => digitsValue ds
    | some (false, ds) => -digitsValue ds
    | none => 0
  (s, (dropped : Int) - taken + e)

/-- The largest power of ten below every infinite double. -/
def greatestPower : Nat := 308

/-- Divides a given number of times by the greatest power of ten, stopping at zero. -/
def divideRepeatedly (x : Binary64) : Nat → Option Binary64
  | 0 => some x
  | steps + 1 =>
    if x.mantissa = 0 then some x
    else (x.div? (.tenTo greatestPower)).bind fun y => divideRepeatedly y steps

/-- Divides by `10 ^ k`, in steps that have a double of their own. -/
def divideBy (x : Binary64) (k : Nat) : Option Binary64 :=
  let steps := (k - 1) / greatestPower
  (divideRepeatedly x steps).bind fun y => y.div? (.tenTo (k - steps * greatestPower))

/-- The double that a literal denotes. -/
def float? (l : Literal) : Option Binary64 := do
  let (s, e) := l.parts
  let x ← Binary64.ofRatio? l.negative s 1
  if e < 0 then divideBy x (-e).toNat
  else if e ≤ greatestPower then x.mul? (.tenTo e.toNat)
  else if x.mantissa = 0 then some x
  else none

/-- Whether a literal has neither fraction nor exponent. -/
def isWhole (l : Literal) : Bool :=
  l.fraction.isEmpty && l.exponent.isNone

/-- The natural number of an unsigned integer literal. -/
def toNat? (l : Literal) : Option Nat :=
  if l.isWhole && !l.negative then some (digitsValue l.whole) else none

/-- The integer of a literal, when it is kept as one. -/
def toInt? (l : Literal) : Option Int :=
  let n := digitsValue l.whole
  if !l.isWhole then none
  else if l.negative then
    if 0 < n ∧ n ≤ UInt64.size / 2 then some (-(n : Int)) else none
  else if n ≤ limit then some (n : Int)
  else none

/-- The number of a literal, none when it exceeds every finite double. -/
def number? (l : Literal) : Option Number :=
  match l.toInt? with
  | some n => some (.int n)
  | none => l.float?.map fun x => .float (floatLayout.text x)

end Literal

end SealedSession.Json
