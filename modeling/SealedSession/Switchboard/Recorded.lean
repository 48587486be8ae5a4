import SealedSession.Switchboard

/-! # Recorded connections

A connection for trials. It notes what it is given to send, and may be made to fail. A close
frame marks it closed unless closing fails; a closed connection goes on taking envelopes all the
same.
-/

namespace SealedSession

/-- A connection that notes what it is given. -/
structure RecordedLink where
  isOpen : Bool := true
  /-- The error that sending fails with. -/
  sendFault : Option TransportError := none
  /-- The error that closing fails with. -/
  closeFault : Option TransportError := none
  /-- What was given so far, oldest first. -/
  frames : List Frame := []
deriving DecidableEq, Repr, Inhabited

namespace RecordedLink

def send (bytes : Bytes) (l : RecordedLink) : Except TransportError Unit × RecordedLink :=
  match l.sendFault with
  | some e => (.error e, l)
  | none => (.ok (), { l with frames := l.frames ++ [.envelope bytes] })

def close (code : UInt16) (reason : String) (l : RecordedLink) :
    Except TransportError Unit × RecordedLink :=
  match l.closeFault with
  | some e => (.error e, l)
  | none => (.ok (), { l with isOpen := false, frames := l.frames ++ [.close ⟨code, reason⟩] })

instance : Link RecordedLink := ⟨RecordedLink.isOpen, send, close⟩

end RecordedLink

end SealedSession
