import SealedSession.Url

/-! # Following paths

A path is followed segment by segment. A single dot stays where it is and two dots go one
directory up, but never out of a drive: a segment that names one, a letter with a colon or a bar
behind it, cannot be left again, and neither can one in which a backslash follows the drive. The
first segment of a file's path takes the colon if it names a drive, and a file's path never begins
with an empty segment that another follows.

Tabs and line ends within a text do not count, but for one case: behind the drive that begins a
file's path they end the segment as a slash would, and what follows them is a segment even if it
is made of dots.

## Main definitions

* `Url.follow`: where segments lead from a directory.
* `Url.walk`: where a text leads from a directory.
* `Url.shorten`: the directory of a path.
-/

namespace SealedSession.Url

/-- Whether a character does not count within a text. -/
def isBreak (c : Char) : Bool := c ∈ ['\t', '\n', '\r']

/-- The characters of a text that count. -/
def unbroken (text : List Char) : List Char := text.filter fun c => !isBreak c

/-- Whether a character ends a segment. -/
def isSlash (special : Bool) (c : Char) : Bool := c = '/' || (special && c = '\\')

/-- Whether a segment stands for the directory reached so far. -/
def isDot (segment : List Char) : Bool :=
  segment.map Char.toLower ∈ [".".toList, "%2e".toList]

/-- Whether a segment stands for the directory above. -/
def isDoubleDot (segment : List Char) : Bool :=
  segment.map Char.toLower ∈ ["..".toList, ".%2e".toList, "%2e.".toList, "%2e%2e".toList]

/-- Whether two characters are a letter and a colon or a bar. -/
def isDriveMark (letter mark : Char) : Bool := letter.isAlpha && (mark = ':' || mark = '|')

/-- A letter followed by a colon or a bar. -/
def isDrive : List Char → Bool
  | [letter, mark] => isDriveMark letter mark
  | _ => false

/-- Whether two dots do not lead out of a segment. -/
def isKept : List Char → Bool
  | letter :: mark :: rest => isDriveMark letter mark && rest.head?.all (· = '\\')
  | _ => false

/-- A letter followed by a colon. -/
def isNormalDrive (segment : String) : Bool :=
  isDrive segment.toList && segment.toList.getLast? = some ':'

/-- The drive at the beginning of a segment, and what breaks separate from it. -/
def splitDrive? (segment : List Char) : Option (List Char × List Char) :=
  match segment.dropWhile isBreak with
  | letter :: rest =>
    match rest.dropWhile isBreak with
    | ':' :: rest =>
      if letter.isAlpha && rest.head?.any isBreak && unbroken rest ≠ [] then
        some ([letter, ':'], unbroken rest)
      else none
    | _ => none
  | [] => none

/-- How far a path has been followed. -/
structure Course where
  /-- The names passed. -/
  names : List String := []
  /-- Whether the first of them is a drive that was a segment of its own. -/
  onDrive : Bool := false

/-- The directory above, unless this one is kept. -/
def Course.climb (course : Course) : Course :=
  if course.names.getLast?.any fun d => isKept d.toList then course
  else { course with names := course.names.dropLast }

/-- Enters a segment. The drive of a file is put into its normal form. -/
def Course.enter (scheme : String) (course : Course) (segment : List Char) : Course :=
  match course.names, segment with
  | [], letter :: _ =>
    if scheme = "file" && isDrive segment then ⟨[String.ofList [letter, ':']], true⟩
    else { course with names := [String.ofList segment] }
  | names, _ => { course with names := names ++ [String.ofList segment] }

/-- Where segments lead from a directory. A path that ends in dots ends in a directory. -/
def follow (scheme : String) (course : Course) : List (List Char) → Course
  | [] => course
  | piece :: rest =>
    match if scheme = "file" && course.names = [] then splitDrive? piece else none with
    | some (drive, segment) =>
      let encoded := Percent.encode Percent.path segment
      follow scheme { course with names := [String.ofList drive, String.ofList encoded] } rest
    | none =>
      let segment := Percent.encode Percent.path (unbroken piece)
      let directory := fun course : Course =>
        if rest = [] then { course with names := course.names ++ [""] }
        else follow scheme course rest
      if isDoubleDot segment then directory course.climb
      else if isDot segment then directory course
      else follow scheme (course.enter scheme segment) rest

/-- Where a text leads from a directory. -/
def walk (scheme : String) (above : List String) (text : List Char) : Course :=
  follow scheme ⟨above, false⟩ (Text.pieces (isSlash (Scheme.isSpecial scheme)) text)

/-- A file's path without empty segments at its beginning. -/
def compact (path : List String) : List String :=
  match path.dropWhile (· = "") with
  | [] => [""]
  | rest => rest

/-- The directory of a path. -/
def shorten (path : List String) : List String := path.dropLast

/-- Where a text leads from the path of a file. A last segment that is a drive is not dropped: it
is a directory when it is all of the path or dots follow, and else the text continues it. -/
def walkFile (path : List String) (text : List Char) : List String :=
  let above := shorten path
  match path.getLast?.filter isNormalDrive with
  | none => (walk "file" above text).names
  | some drive =>
    let first := unbroken (text.takeWhile fun c => !isSlash true c)
    if above = [] then (walk "file" path text).names
    else if isDoubleDot (unbroken text) then path
    else if isDot first || isDoubleDot first then (walk "file" path text).names
    else (walk "file" above (drive.toList ++ text)).names

example : (walk "http" [] "a/./b/../../../c/..".toList).names = [""] := by decide +kernel

example : (walk "http" [] "a/C|/../b".toList).names = ["a", "C|", "b"] := by decide +kernel

example : (walk "file" [] "C|/../b".toList).names = ["C:", "b"] := by decide +kernel

example : (walk "file" [] "C:\t../b".toList).names = ["C:", "..", "b"] := by decide +kernel

example : walkFile ["a", "b"] "..//c".toList = ["", "c"] := by decide +kernel

end SealedSession.Url
