import SealedSession.Unicode.NormalForm
import SealedSession.Url.Domain.Label
import SealedSession.Url.Domain.Mapping
import SealedSession.Url.Punycode

/-! # Domain names

A domain name is written in ASCII: in small letters, with each label that has other characters in
Punycode behind `xn--`. Before that its characters are mapped and the whole is put into the
composed normal form.

A label that is in Punycode already has to be the written form of a label that mapping and
normalising leave as it is. Labels that are too long to be written in reasonable time are refused.

## Main definitions

* `Domain.labels?`: the labels of a name.
* `Domain.toAscii?`: the ASCII form of a name.
-/

namespace SealedSession.Domain

/-- The mark of a label in Punycode. -/
def mark : List Char := "xn--".toList

/-- The greatest number of characters in a label that is put into Punycode. -/
def longest : Nat := 1000

/-- The greatest number of characters behind the mark of a label in Punycode. -/
def longestWritten : Nat := 2000

/-- Whether a label is outside ASCII. -/
def isExtended (label : List Char) : Bool := label.any Punycode.isExtended

/-- The label that a text behind the mark is the written form of. -/
def ofWritten? (text : List Char) : Option (List Char) :=
  if text.length ≤ longestWritten then
    (Punycode.decode? text).filter fun label =>
      isExtended label && Punycode.encode label = text && label.all isValid &&
        Unicode.normalForm label = label
  else none

/-- The label that a mapped text stands for. -/
def label? (text : List Char) : Option (List Char) := do
  let label ← if mark.isPrefixOf text then ofWritten? (text.drop mark.length) else some text
  if isLabel label && (label.length ≤ longest || !isExtended label) then some label else none

/-- The labels of a name. -/
def labels? (name : List Char) : Option (List (List Char)) := do
  let folded ← name.mapM mapped?
  let labels ← (Text.pieces (· = '.') (Unicode.normalForm folded.flatten)).mapM label?
  if directionsFit labels then some labels else none

/-- The ASCII form of a label. -/
def labelToAscii (label : List Char) : List Char :=
  if isExtended label then mark ++ Punycode.encode label else label

/-- The ASCII form of a domain name. -/
def toAscii? (name : List Char) : Option (List Char) :=
  (labels? name).map fun labels => ['.'].intercalate (labels.map labelToAscii)

end SealedSession.Domain
