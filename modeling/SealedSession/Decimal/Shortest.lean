import SealedSession.Decimal.Binary64

/-! # The shortest decimal of a double

`digits` finds the fewest significant digits that read back as a given double, and among those
the ones nearest to it. A decimal reads back when it lies between the midpoints to the two
neighbouring doubles, the midpoints included when the mantissa is even. On the grid of decimals
with a fixed number of digits only the two neighbours of the double have to be looked at.

`Layout` says how such digits are set: positional notation for moderate exponents, with at least
one digit on either side of the point, and an exponent mark otherwise.
-/

namespace SealedSession.Decimal

/-- The positive quotient `num / den` compared with `a · 10 ^ k`. -/
def compareGrid (num den a : Nat) (k : Int) : Ordering :=
  if 0 ≤ k then compare num (a * Nat.pow 10 k.toNat * den)
  else compare (num * Nat.pow 10 (-k).toNat) (a * den)

/-- The quotient `num / (den · 10 ^ k)`, rounded down. -/
def gridBelow (num den : Nat) (k : Int) : Nat :=
  if 0 ≤ k then num / (den * Nat.pow 10 k.toNat) else num * Nat.pow 10 (-k).toNat / den

/-- The midpoints to the neighbours of `m · 2 ^ e`, over the common denominator `4`, and `e`. -/
def interval (x : Binary64) : Nat × Nat :=
  let below := if x.mantissa = Nat.pow 2 52 ∧ Binary64.leastExponent < x.exponent then 1 else 2
  (4 * x.mantissa - below, 4 * x.mantissa + 2)

/-- Whether `a · 10 ^ k` reads back as `x`. -/
def readsBack (x : Binary64) (a : Nat) (k : Int) : Bool :=
  let (low, high) := interval x
  let unit : Binary64 := ⟨false, 1, x.exponent - 2⟩
  let (n, d) := unit.ratio
  let closed := x.mantissa % 2 = 0
  let above := compareGrid (low * n) d a k
  let under := compareGrid (high * n) d a k
  (above = .lt ∨ (closed ∧ above = .eq)) ∧ (under = .gt ∨ (closed ∧ under = .eq))

/-- The exponent `k` of the decimal grid on which the quotient has `count` digits. -/
def gridExponent (num den count : Nat) : Int :=
  let estimate : Int :=
    (((Nat.log2 num : Int) - (Nat.log2 den : Int) - 1) * 30103).fdiv 100000 - count
  let rec settle : Nat → Int → Int
    | 0, k => k
    | fuel + 1, k => if gridBelow num den k < 10 ^ count then k else settle fuel (k + 1)
  settle 4 estimate

/-- The nearer of the two grid neighbours that read back, an exact tie going to the even one. -/
def nearest? (x : Binary64) (num den count : Nat) : Option (Nat × Int) :=
  let k := gridExponent num den count
  let a := gridBelow num den k
  match readsBack x a k, readsBack x (a + 1) k with
  | false, false => none
  | true, false => some (a, k)
  | false, true => some (a + 1, k)
  | true, true =>
    match compareGrid (2 * num) den (2 * a + 1) k with
    | .lt => some (a, k)
    | .gt => some (a + 1, k)
    | .eq => some (a + a % 2, k)

/-- The significant digits of a nonzero double as a natural, with their decimal exponent. -/
def significant (x : Binary64) : Nat × Int :=
  let (num, den) := x.ratio
  ((List.range 17).findSome? fun i => nearest? x num den (i + 1)).getD (x.mantissa, 0)

/-- Drops trailing zeros, counting them into the exponent. -/
def trimZeros : Nat → Nat × Int → Nat × Int
  | 0, x => x
  | fuel + 1, (a, k) => if a ≠ 0 ∧ a % 10 = 0 then trimZeros fuel (a / 10, k + 1) else (a, k)

/-- How the digits of a float are set. -/
structure Layout where
  /-- Positional notation is used while the point falls at most this far to the right. -/
  rightmost : Int
  /-- Positional notation is used while the point falls more than this far to the left. -/
  leftmost : Int
  mark : Char
  /-- Whether a sign stands before an exponent that is not negative. -/
  signed : Bool

/-- An exponent with its sign. -/
def Layout.exponentText (layout : Layout) (e : Int) : List Char :=
  (if layout.signed && 0 ≤ e then ['+'] else []) ++ (toString e).toList

/-- Sets digits and exponent. -/
def Layout.set (layout : Layout) (a : Nat) (k : Int) : List Char :=
  let ds := Nat.toDigits 10 a
  let point : Int := ds.length + k
  if 0 ≤ k ∧ point ≤ layout.rightmost then
    ds ++ List.replicate k.toNat '0' ++ ['.', '0']
  else if 0 < point ∧ point ≤ layout.rightmost then
    ds.take point.toNat ++ '.' :: ds.drop point.toNat
  else if layout.leftmost < point ∧ point ≤ 0 then
    '0' :: '.' :: List.replicate (-point).toNat '0' ++ ds
  else
    let tail := match ds with
      | [d] => [d]
      | d :: rest => d :: '.' :: rest
      | [] => []
    tail ++ layout.mark :: layout.exponentText (point - 1)

/-- The text of a double. -/
def Layout.text (layout : Layout) (x : Binary64) : String :=
  let body := if x.mantissa = 0 then ['0', '.', '0']
    else
      let (a, k) := trimZeros 17 (significant x)
      layout.set a k
  String.ofList (if x.negative then '-' :: body else body)

end SealedSession.Decimal
