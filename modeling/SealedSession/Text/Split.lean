/-! # Cutting text

Text is cut before and after its separators, which are characters that satisfy a condition. What
a cut removes is the separator alone.
-/

namespace SealedSession.Text

/-- What stands before the first separator, and what stands after it if there is one. -/
def cut (separates : Char → Bool) : List Char → List Char × Option (List Char)
  | [] => ([], none)
  | c :: rest =>
    if separates c then ([], some rest)
    else
      let (before, after) := cut separates rest
      (c :: before, after)

/-- All pieces between separators, one more than there are separators. -/
def pieces (separates : Char → Bool) : List Char → List (List Char)
  | [] => [[]]
  | c :: rest =>
    if separates c then [] :: pieces separates rest
    else match pieces separates rest with
      | [] => [[c]]
      | p :: ps => (c :: p) :: ps

/-- What stands before the last separator if there is one, and what stands after it. -/
def cutLast (separates : Char → Bool) (text : List Char) : Option (List Char) × List Char :=
  match cut separates text.reverse with
  | (after, before) => (before.map List.reverse, after.reverse)

end SealedSession.Text
