import SealedSession.Unicode.CombiningClass
import SealedSession.Unicode.Composite

/-! # The composed normal form

Texts that read the same may be spelled differently. The composed normal form takes every
character apart, puts the marks behind each base in the order of their classes, and puts together
whatever makes a composite, where a mark can reach its base unless one of the same or a higher
class stands between.

## Main definitions

* `decomposed`: the parts of a text, the marks in order.
* `normalForm`: the composed normal form.
-/

namespace SealedSession.Unicode

/-- Puts a character in front of a text whose marks are in order; a mark passes those of lower
classes. -/
def insertMark (c : Char) : List Char → List Char
  | [] => [c]
  | d :: rest =>
    if 0 < combiningClass d && combiningClass d < combiningClass c then d :: insertMark c rest
    else c :: d :: rest

/-- The parts of a text, the marks behind each base in the order of their classes. -/
def decomposed (text : List Char) : List Char :=
  (text.flatMap parts).foldr insertMark []

/-- Puts a text together behind a base and the marks that were passed, the last one first. -/
def composeFrom (base : Char) (passed : List Char) : List Char → List Char
  | [] => base :: passed.reverse
  | c :: rest =>
    let free := passed.head?.all fun m => combiningClass m < combiningClass c
    match if free then compose? base c else none with
    | some composite => composeFrom composite passed rest
    | none =>
      if combiningClass c = 0 then base :: passed.reverse ++ composeFrom c [] rest
      else composeFrom base (c :: passed) rest

/-- The composed normal form of a text. -/
def normalForm (text : List Char) : List Char :=
  match decomposed text with
  | [] => []
  | base :: rest => composeFrom base [] rest

end SealedSession.Unicode
