/-! # Files and directories

A path is a list of names below a common root. In a written path an empty name or a dot stands
for the directory reached so far, and two dots for the one above; each name but the last has to
be that of a directory. A name has at most 255 bytes and a written path at most 4095, none of
them zero.

## Main definitions

* `FileTree.get?`: what stands at a path.
* `FileTree.find?`: what a written path leads to.
* `FileTree.makeDirectories`: makes the directories that a written path leads through.
-/

namespace SealedSession

/-- A path below the common root. -/
abbrev Path := List String

namespace Path

/-- The names of a written path. -/
def parts (written : String) : List String :=
  written.splitOn "/"

/-- Whether a name stands for the directory reached so far. -/
def isHere (name : String) : Bool := name = "" || name = "."

/-- Follows one name. -/
def follow (at_ : Path) (name : String) : Path :=
  if isHere name then at_
  else if name = ".." then at_.dropLast
  else at_ ++ [name]

/-- The path that a written path leads to. -/
def ofWritten (written : String) : Path :=
  (parts written).foldl follow []

/-- Appends a name to a written path. -/
def append (written name : String) : String :=
  if written = "" ∨ written.toList.getLast? = some '/' then written ++ name
  else written ++ "/" ++ name

/-- Whether a name is short enough. -/
def fits (name : String) : Bool := name.utf8ByteSize ≤ 255

/-- Whether a written path is short enough and names something. -/
def isWritable (written : String) : Bool :=
  written.utf8ByteSize ≤ 4095 && '\x00' ∉ written.toList

end Path

/-- What stands at a path: a regular file, or a directory with what stands in it. -/
inductive FileNode where
  | file (content : String)
  | directory (entries : List (String × FileNode))
deriving Repr, Inhabited

/-- What stands in the directory at the common root. -/
abbrev FileTree := List (String × FileNode)

namespace FileNode

def isDirectory : FileNode → Bool
  | .directory _ => true
  | .file _ => false

/-- The content of a regular file. -/
def content? : FileNode → Option String
  | .directory _ => none
  | .file content => some content

end FileNode

namespace FileTree

/-- What stands under a name in a directory. -/
def child? (t : FileTree) (name : String) : Option FileNode :=
  (t.find? fun e => e.1 = name).map (·.2)

/-- Puts a node under a name, replacing what stood there. -/
def setChild (t : FileTree) (name : String) (node : FileNode) : FileTree :=
  (name, node) :: t.filter fun e => e.1 ≠ name

/-- What stands at a path. -/
def get? (t : FileTree) : Path → Option FileNode
  | [] => some (.directory t)
  | name :: rest =>
    match child? t name with
    | some (.directory inner) => get? inner rest
    | some (.file content) => if rest = [] then some (.file content) else none
    | none => none

/-- Puts a node at a path, if there is a directory for it. -/
def put (t : FileTree) (path : Path) (node : FileNode) : FileTree :=
  match path with
  | [] => t
  | [name] => setChild t name node
  | name :: rest =>
    match child? t name with
    | some (.directory inner) => setChild t name (.directory (put inner rest node))
    | _ => t

/-- Whether a directory stands at a path. -/
def isDirectory (t : FileTree) (path : Path) : Bool := (get? t path).any FileNode.isDirectory

/-- The path that names lead to from another. There is none when a name is too long, or follows
what is no directory. -/
def reach? (t : FileTree) (at_ : Path) : List String → Option Path
  | [] => some at_
  | name :: rest =>
    if isDirectory t at_ && Path.fits name then reach? t (Path.follow at_ name) rest else none

/-- What a written path leads to. -/
def find? (t : FileTree) (written : String) : Option FileNode :=
  if Path.isWritable written then (reach? t [] (Path.parts written)).bind (get? t) else none

/-- Writes a regular file, replacing what it held. Nothing is written when there is no directory
for it, or it is a directory itself. -/
def write (t : FileTree) (written content : String) : FileTree :=
  match reach? t [] (Path.parts written) with
  | some path => if isDirectory t path then t else put t path (.file content)
  | none => t

/-- Makes the directories that names lead through, and says whether all are there in the end. A
name before a closing dot is expected to be there already. -/
def makeAll (t : FileTree) (at_ : Path) : List String → Bool × FileTree
  | [] => (true, t)
  | name :: rest =>
    let next := Path.follow at_ name
    match get? t next with
    | some (.directory _) => makeAll t next rest
    | some (.file _) => (false, t)
    | none =>
      if Path.fits name && !(rest.all Path.isHere && "." ∈ rest) then
        makeAll (put t next (.directory [])) next rest
      else (false, t)

/-- Makes the directories that a written path leads through, and says whether all are there in the
end. -/
def makeDirectories (t : FileTree) (written : String) : Bool × FileTree :=
  if Path.isWritable written then makeAll t [] (Path.parts written) else (false, t)

end FileTree

end SealedSession
