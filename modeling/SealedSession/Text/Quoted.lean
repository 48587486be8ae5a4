import SealedSession.Unicode.Hidden

/-! # Quoted text for diagnostics

A text shown in a diagnostic stands between double quotes. The quote and the backslash are
escaped by a backslash; tab, line feed, carriage return and NUL have short escapes; every other
character that would not show by itself is written as its scalar value in braces.
-/

namespace SealedSession.Text

/-- What stands for one character between the quotes. -/
def escaped (c : Char) : List Char :=
  if c = '\"' then ['\\', '\"']
  else if c = '\\' then ['\\', '\\']
  else if c = '\t' then ['\\', 't']
  else if c = '\n' then ['\\', 'n']
  else if c = '\r' then ['\\', 'r']
  else if c.toNat = 0 then ['\\', '0']
  else if Unicode.isShown c then [c]
  else ['\\', 'u', '\x7b'] ++ Nat.toDigits 16 c.toNat ++ ['\x7d']

/-- A text between double quotes. -/
def quoted (s : String) : String :=
  String.ofList ('\"' :: s.toList.flatMap escaped ++ ['\"'])

end SealedSession.Text
