/-! # Errors in common

Every error type of this library describes an error in three ways: by a label, which is the path
of names from the outermost error to the innermost one that it only passes on; by a text for
people; and by the texts of the errors below it, outermost first. An error that only passes
another one on has that one's text and that one's causes.
-/

namespace SealedSession

/-- A type of errors. -/
class Failure (ε : Type) where
  label : ε → String
  message : ε → String
  causes : ε → List String := fun _ => []

/-- The label of an error that passes another one on. -/
def Failure.under {ε : Type} [Failure ε] (name : String) (e : ε) : String :=
  name ++ "." ++ label e

end SealedSession
