import SealedSession.Client.Error
import SealedSession.FileTree

/-! # The lock on a home directory

Two clients that shared a home directory would spoil each other's identity store, so a client
holds a lock on a file in its home. The lock is what counts, not the file: a file that another
process left behind is reused, and releasing a lock leaves the file where it is.

A lock is held by whoever has its value, and released with the value. Whether a home is locked is
thus a question about the locks that are alive.
-/

namespace SealedSession

/-- A lock that is held on a home directory, which is named as it was written. -/
structure HomeLock where
  home : String
deriving DecidableEq, Repr, Inhabited

namespace HomeLock

/-- The name of the lock file. -/
def fileName : String := "tether.lock"

/-- The written path of the lock file. -/
def written (l : HomeLock) : String := Path.append l.home fileName

/-- The path of the lock file. -/
def path (l : HomeLock) : Path := Path.ofWritten l.written

/-- Whether one of the live locks is on the same file. -/
def isTaken (live : List HomeLock) (l : HomeLock) : Bool :=
  live.any fun m => m.path = l.path

/-- Takes the lock on a home, making the directory if there is none. Directories that were made
stay, even if the lock is refused. The number of the process is noted in the file for
information. -/
def acquire (live : List HomeLock) (t : FileTree) (process : Nat) (home : String) :
    Except ClientError HomeLock × FileTree :=
  let lock : HomeLock := ⟨home⟩
  match t.makeDirectories home with
  | (false, t) => (.error (.system "no directory"), t)
  | (true, t) =>
    if !Path.isWritable lock.written then (.error (.system "path too long"), t)
    else if t.isDirectory lock.path then (.error (.system "is a directory"), t)
    else if isTaken live lock then (.error (.directoryLocked home), t)
    else (.ok lock, t.put lock.path (.file (toString process ++ "\n")))

end HomeLock

end SealedSession
