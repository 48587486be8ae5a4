import SealedSession.Unicode.BidiClass
import SealedSession.Unicode.CombiningClass
import SealedSession.Unicode.JoiningType
import SealedSession.Unicode.Mark

/-! # Labels of domain names

A label does not begin with a mark. It holds a joiner only where that changes how its neighbours
are written: behind a virama, or, for the one that keeps characters apart, between two that would
join. When a name has a label that is written from right to left, every label keeps to one
direction, so that it is read in the order in which it is stored.
-/

namespace SealedSession.Domain

open Unicode

/-- How the next character that counts joins. -/
def nextJoining (text : List Char) : JoiningType :=
  ((text.find? fun c => joiningType c ≠ .transparent).map joiningType).getD .none

/-- Whether characters join across what stands between them. -/
def joinAcross (passed rest : List Char) : Bool :=
  nextJoining passed ∈ [.left, .dual] && nextJoining rest ∈ [.right, .dual]

/-- Whether a character is no joiner, or has a place between a text that was passed, the last
character first, and the rest. -/
def joinerFits (passed : List Char) (c : Char) (rest : List Char) : Bool :=
  if c = '\u200d' then passed.head?.any isVirama
  else if c = '\u200c' then passed.head?.any isVirama || joinAcross passed rest
  else true

/-- Whether the joiners of a text have a place behind what was passed. -/
def joinersFit (passed : List Char) : List Char → Bool
  | [] => true
  | c :: rest => joinerFits passed c rest && joinersFit (c :: passed) rest

/-- Whether a label is well formed by itself. -/
def isLabel (label : List Char) : Bool :=
  !label.head?.any isMark && joinersFit [] label

/-- Whether a character brings the direction from right to left into a name. -/
def isRightward (c : Char) : Bool :=
  bidiClass c ∈ [.rightToLeft, .arabicLetter, .arabicNumber]

/-- What a label may hold in either direction. -/
def neutral : List BidiClass :=
  [.europeanNumber, .europeanSeparator, .commonSeparator, .europeanTerminator, .otherNeutral,
    .boundaryNeutral, .nonspacingMark]

/-- Whether classes are those of a label that is written from left to right. -/
def isLeftward (classes : List BidiClass) (last : BidiClass) : Bool :=
  classes.all (fun k => k = .leftToRight || k ∈ neutral) &&
    last ∈ [.leftToRight, .europeanNumber]

/-- Whether classes are those of a label that is written from right to left; such a label has
numbers of one kind. -/
def isBackward (classes : List BidiClass) (last : BidiClass) : Bool :=
  classes.all (fun k => k ∈ [.rightToLeft, .arabicLetter, .arabicNumber] || k ∈ neutral) &&
    last ∈ [.rightToLeft, .arabicLetter, .europeanNumber, .arabicNumber] &&
    !(.europeanNumber ∈ classes && .arabicNumber ∈ classes)

/-- Whether a label keeps to one direction, which its first character sets. Marks at its end do not
count. -/
def keepsDirection (label : List Char) : Bool :=
  let classes := label.map bidiClass
  let last := (classes.reverse.find? (· ≠ .nonspacingMark)).getD .nonspacingMark
  match classes.head? with
  | none => true
  | some .leftToRight => isLeftward classes last
  | some .rightToLeft | some .arabicLetter => isBackward classes last
  | some _ => false

/-- Whether the labels of a name may stand side by side. -/
def directionsFit (labels : List (List Char)) : Bool :=
  !labels.any (·.any isRightward) || labels.all keepsDirection

end SealedSession.Domain
