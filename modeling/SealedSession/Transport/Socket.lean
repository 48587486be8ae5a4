import SealedSession.Transport

/-! # Sockets

A socket is open until either side closes it. What is written on it after that is refused; to
close it again changes nothing. Of the close frames that its peer sends the first is remembered.

Writing may fail while the socket is open, if the system says so; a socket that could not be
closed properly is closed all the same.
-/

namespace SealedSession

/-- What the peer of a socket does. -/
inductive Arrival where
  | envelope (bytes : Bytes)
  /-- A close frame, or the end of the stream without one. -/
  | closed (info : Option CloseInfo)
  /-- A failure of the system below. -/
  | broken (system : String)
deriving DecidableEq, Repr, Inhabited

/-- One end of a socket. -/
structure Socket where
  id : ConnectionId
  isOpen : Bool := true
  /-- The first close frame of the peer. -/
  closeInfo : Option CloseInfo := none
  /-- Why the system refuses to write, if it does. -/
  fault : Option String := none
  /-- What was written, oldest first. -/
  written : List Frame := []
deriving DecidableEq, Repr, Inhabited

namespace Socket

/-- Puts a frame on the socket. -/
def write (f : Frame) (s : Socket) : Except TransportError Unit × Socket :=
  match s.fault with
  | some system => (.error (.sendFailed system), s)
  | none => (.ok (), { s with written := s.written ++ [f] })

/-- Sends an envelope. -/
def send (bytes : Bytes) (s : Socket) : Except TransportError Unit × Socket :=
  if s.isOpen then s.write (.envelope bytes)
  else (.error (.connectionClosed (s.id.text ++ " is closed")), s)

/-- Closes the socket with a close frame, unless it is closed. -/
def close (code : UInt16) (reason : String) (s : Socket) : Except TransportError Unit × Socket :=
  if s.isOpen then { s with isOpen := false }.write (.close ⟨code, reason⟩) else (.ok (), s)

/-- Closes the socket without an error. -/
def closeNormally (s : Socket) : Except TransportError Unit × Socket :=
  s.close normalClose "closed"

/-- Takes what the peer did: an envelope, the end of the stream, or an error. -/
def receive (a : Arrival) (s : Socket) : Except TransportError (Option Bytes) × Socket :=
  match a with
  | .envelope bytes => (.ok (some bytes), s)
  | .closed info => (.ok none, { s with isOpen := false, closeInfo := s.closeInfo.or info })
  | .broken system => (.error (.receiveFailed system), { s with isOpen := false })

instance : Link Socket := ⟨Socket.isOpen, send, close⟩

end Socket

end SealedSession
