import SealedSession.Url.Path

/-! # Reading URLs

A text is a URL of its own when it begins with a scheme; otherwise it is read relative to a base,
if there is one. Controls and blanks around the text do not count, and neither do tabs and line
ends within it.

The fragment is what follows the first number sign, and the query what follows the first question
mark before that. What remains is the scheme, the authority and the path. In a special scheme a
backslash is as good as a slash.

## Main definitions

* `Url.parse`: a URL that stands on its own.
* `Url.join`: a URL relative to another.
-/

namespace SealedSession.Url

/-- The path behind an authority. -/
def pathAfterHost (scheme : String) : List Char → List String
  | [] => if Scheme.isSpecial scheme then [""] else []
  | c :: rest =>
    let text := if isSlash (Scheme.isSpecial scheme) c then rest else c :: rest
    (walk scheme [] text).names

/-! ## Authorities -/

/-- Splits the host from the `portNumber` at the first colon outside of brackets. -/
def cutNumber : Bool → List Char → List Char × Option (List Char)
  | _, [] => ([], none)
  | inside, c :: rest =>
    if c = ':' && !inside then ([], some rest)
    else
      let inside := if c = '[' then true else if c = ']' then false else inside
      let (host, number) := cutNumber inside rest
      (c :: host, number)

/-- The `portNumber` of a text; the empty text and the usual number give none. -/
def readNumber (scheme : String) (text : List Char) : Except UrlError (Option UInt16) :=
  if text = [] then .ok none
  else
    match (if text.all Char.isDigit then Ipv4.digits? 10 text else none) with
    | some n =>
      if n < 65536 then .ok (Scheme.unusual? scheme (some (UInt16.ofNat n)))
      else .error .invalidPort
    | none => .error .invalidPort

/-- Reads a host; only a scheme that is not special may do with an empty one. -/
def readHost (scheme : String) (text : List Char) (bound : Bool) : Except UrlError Host :=
  if text = [] then
    if bound || Scheme.isSpecial scheme then .error .emptyHost else .ok .empty
  else if Scheme.isSpecial scheme then Host.parse text
  else Host.parseVerbatim text

/-- A name and a password, encoded. -/
def readCredentials (text : List Char) : String × String :=
  let encoded := fun cs => String.ofList (Percent.encode Percent.userinfo cs)
  let (name, password) := Text.cut (· = ':') text
  (encoded name, encoded (password.getD []))

/-- Reads what follows two slashes: the authority and the path. A backslash ends the number under
every scheme. A host has to follow a name or a password, and precede a number; behind a sign
without a name it may be missing only if all else is missing too. -/
def readAuthority (scheme : String) (text : List Char) (isLast : Bool) : Except UrlError Url := do
  let ends := isSlash (Scheme.isSpecial scheme)
  let authority := text.takeWhile fun c => !ends c
  let path := text.dropWhile fun c => !ends c
  let (credentials, address) := Text.cutLast (· = '@') authority
  let (name, password) := readCredentials (credentials.getD [])
  let (hostText, numberText) := cutNumber false address
  let (number, rest) := (numberText.getD []).span (· ≠ '\\')
  let named := name ≠ "" ∨ password ≠ ""
  let bare := credentials = some [] ∧ !(isLast && path = [])
  let host ← readHost scheme hostText (named ∨ bare ∨ numberText.isSome)
  let number ← readNumber scheme number
  return { scheme := scheme, username := name, password := password, host := some host,
           portNumber := number, path := .segments (pathAfterHost scheme (rest ++ path)) }

/-! ## Files

The text of a file still has its tabs and line ends, because its path looks at them. -/

/-- The first segment of a text. -/
def firstSegment (text : List Char) : List Char :=
  unbroken (text.takeWhile fun c => !isSlash true c)

/-- A file without a host. -/
def localFile (path : List String) : Url :=
  { scheme := "file", host := some .empty, path := .segments (compact path) }

/-- Reads what follows the two slashes of a file: a host and the path. A drive takes the place of
the host, whether it stands there or begins the path. -/
def readFileHost (text : List Char) : Except UrlError Url := do
  let hostText := firstSegment text
  let rest := text.dropWhile fun c => !isSlash true c
  if isDrive hostText || hostText = [] then return localFile (walk "file" [] text).names
  let host ← Host.parse hostText
  if host = .named "localhost" then return localFile (walk "file" [] rest).names
  let course := walk "file" [] (rest.drop 1)
  if course.onDrive then return localFile course.names
  return { localFile course.names with host := some host }

/-- Reads the path of a file behind a single slash. The drive of the base stays, or else its host,
unless the path brings a drive. -/
def readFileRoot (base : Option Url) (text : List Char) : Url :=
  let whole := localFile (walk "file" [] text).names
  match base with
  | none => whole
  | some b =>
    if isDrive (firstSegment text) then whole
    else
      match b.segments.head?.filter isNormalDrive with
      | some drive => localFile (walk "file" [drive] text).names
      | none => { whole with host := b.host }

/-- Reads a file, relative to a base that is one. -/
def readFile (base : Option Url) (text : List Char) : Except UrlError Url :=
  match text.dropWhile isBreak with
  | c :: rest =>
    if isSlash true c then
      match rest.dropWhile isBreak with
      | d :: inner => if isSlash true d then readFileHost inner else .ok (readFileRoot base rest)
      | [] => .ok (readFileRoot base rest)
    else match base with
      | none => .ok (localFile (walk "file" [] text).names)
      | some b =>
        if isDrive (firstSegment text) then .ok (localFile (walk "file" [] text).names)
        else .ok { localFile (walkFile b.segments text) with host := b.host }
  | [] =>
    match base with
    | none => .ok (localFile [""])
    | some b => .ok { b with fragment := none }

/-! ## Whole texts -/

/-- Reads a text without a scheme, relative to a base of the same scheme. Slashes and backslashes
at the beginning are alike under every scheme, but two slashes are taken before any others. -/
def readRelative (base : Url) (text : List Char) (isLast : Bool) : Except UrlError Url :=
  let moved := fun above text =>
    { base with path := .segments (walk base.scheme above text).names
                query := none
                fragment := none }
  match text with
  | [] => .ok { base with fragment := none }
  | '/' :: '/' :: rest => readAuthority base.scheme rest isLast
  | c :: rest =>
    if !isSlash true c then .ok (moved (shorten base.segments) text)
    else if rest.head?.any (isSlash true) then
      readAuthority base.scheme (rest.dropWhile (isSlash true)) isLast
    else .ok (moved [] rest)

/-- The scheme at the beginning of a text, in small letters, and what follows its colon. -/
def scheme? (text : List Char) : Option (String × List Char) :=
  match Text.cut (· = ':') text with
  | (name, some rest) =>
    let name := unbroken name
    match name with
    | first :: _ =>
      if first.isAlpha && name.all fun c => c.isAlphanum || c ∈ ['+', '-', '.'] then
        some (String.ofList (name.map Char.toLower), rest)
      else none
    | [] => none
  | (_, none) => none

/-- Reads what follows a scheme. -/
def readAbsolute (base : Option Url) (scheme : String) (text : List Char) (isLast : Bool) :
    Except UrlError Url :=
  let same := base.filter fun b => b.scheme = scheme
  if scheme = "file" then readFile same text else
  let text := unbroken text
  if Scheme.isSpecial scheme then
    let rest := text.dropWhile (isSlash true)
    match same with
    | some b =>
      if text.length < rest.length + 2 then readRelative b text isLast
      else readAuthority scheme rest isLast
    | none => readAuthority scheme rest isLast
  else match text with
    | '/' :: '/' :: rest => readAuthority scheme rest isLast
    | '/' :: rest => .ok { scheme := scheme, path := .segments (walk scheme [] rest).names }
    | _ =>
      let kept := String.ofList (Percent.encode Percent.control text)
      .ok { scheme := scheme, path := .verbatim kept }

/-- Reads everything before the query and the fragment. -/
def readBody (base : Option Url) (text : List Char) (query fragment : Bool) :
    Except UrlError Url :=
  let isLast := !query && !fragment
  match scheme? text with
  | some (scheme, rest) => readAbsolute base scheme rest isLast
  | none =>
    match base with
    | none => .error .relativeWithoutBase
    | some b =>
      if b.isVerbatim then
        if unbroken text = [] && fragment && !query then .ok { b with fragment := none }
        else .error .relativeWithVerbatimBase
      else if b.scheme = "file" then readFile (some b) text
      else readRelative b (unbroken text) isLast

/-- Whether a character is removed at both ends of a text. -/
def isMargin (c : Char) : Bool := c.toNat ≤ 0x20

/-- A text without its margins. -/
def trimmed (text : List Char) : List Char :=
  ((text.dropWhile isMargin).reverse.dropWhile isMargin).reverse

/-- A query, encoded. -/
def encodeQuery (scheme : String) (text : List Char) : String :=
  let encoded := if Scheme.isSpecial scheme then Percent.specialQuery else Percent.query
  String.ofList (Percent.encode encoded (unbroken text))

/-- A fragment, encoded. -/
def encodeFragment (text : List Char) : String :=
  String.ofList (Percent.encode Percent.fragment (unbroken text))

/-- Reads a text, relative to a base if it needs one. -/
def read (base : Option Url) (text : String) : Except UrlError Url := do
  let (text, fragment) := Text.cut (· = '#') (trimmed text.toList)
  let (body, query) := Text.cut (· = '?') text
  let u ← readBody base body query.isSome fragment.isSome
  return { u with query := (query.map (encodeQuery u.scheme)).or u.query,
                  fragment := fragment.map encodeFragment }

/-- Reads a URL that stands on its own. -/
def parse (text : String) : Except UrlError Url := read none text

/-- Reads a URL relative to another. -/
def join (base : Url) (text : String) : Except UrlError Url := read (some base) text

end SealedSession.Url
