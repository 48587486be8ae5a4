import SealedSession.Duration
import SealedSession.Service.Program

/-! # The service

A service has an identity, a cipher, a directory of the connections that have been identified, and
an application. Each connection is served by a task of its own, which takes what arrives in order:

* an envelope that cannot be decrypted is answered by a request for fresh prekeys;
* an envelope that names no known mode, or that nobody is known to have sent, is passed over;
* a keepalive is answered by a keepalive;
* every other request goes to the application.

The task ends when the connection does, when nothing has arrived for too long, or when something
fails. It then ends the session, and the application is told if there was one.

What arrives is answered before anything else arrives on any connection. Tasks meet between two
requests only, never within one, and an application that is slow to answer is not told from one
that is quick.

## Main definitions

* `Service.accept`: a connection begins.
* `Service.arrive`: a connection brings something.
* `Service.pass`: time passes, and silent connections end.
-/

namespace SealedSession

/-- Why a connection is no longer served. -/
structure Exit where
  reason : StopReason
  message : String
deriving DecidableEq, Repr

namespace Exit

/-- The connection was closed, or broke. -/
def closed : Exit := ⟨.normalClose, "connection closed"⟩

/-- Nothing has arrived for too long. -/
def idle : Exit := ⟨.normalClose, "idle timeout"⟩

/-- An error ended the connection. -/
def failed (reason : StopReason) (e : ServiceError) : Exit := ⟨reason, e.message⟩

end Exit

/-- What happens in a service beside what is sent. -/
inductive Occurrence where
  /-- The application handled a request, and the connection was open or closed after that. -/
  | handled (request : String) (result : Except ServiceError Unit) (isOpen : Bool)
  /-- The application was told that an identified session has ended. -/
  | stopped (identity : Identity) (player : Player)

/-- A connection that is being served, and when its silence has lasted too long. -/
structure Served where
  connection : ConnectionId
  deadline : Nat
deriving DecidableEq, Repr

/-- The state of a service. Time is counted in nanoseconds. -/
structure Service (A : Type) where
  exchange : Exchange
  app : A
  now : Nat := 0
  served : List Served := []
  /-- What has happened, oldest first. -/
  occurrences : List Occurrence := []

namespace Service

/-- What a service is set up with. -/
structure Settings (A : Type) where
  identity : ServerIdentity
  /-- The cipher: how it answers, after what it was used for. -/
  ciphers : List CipherUse → Cipher
  application : Application A
  /-- What is said of a payload that holds no request. -/
  complaint : Bytes → String
  idleTimeout : Duration := .ofParts 30 0

variable {A : Type} (g : Settings A)

/-- A service that nobody has connected to. -/
def start (app : A) : Service A :=
  { exchange := { ciphers := g.ciphers, links := fun c => { id := c } }, app := app }

/-- Notes what happened. -/
def note (o : Occurrence) (s : Service A) : Service A :=
  { s with occurrences := s.occurrences ++ [o] }

/-- Replies on a connection. -/
def reply (c : ConnectionId) (m : Response) (s : Service A) :
    Except ServiceError Unit × Service A :=
  let (r, b) := s.exchange.reply c m
  (r, { s with exchange := b })

/-- Hands a request to the application. -/
def hand (c : ConnectionId) (r : Request) (s : Service A) :
    Except ServiceError Unit × Service A :=
  let ((result, app), b) := (g.application s.app c r).run c s.exchange
  let s := { s with app := app, exchange := b }
  (result, s.note (.handled r.name result (b.links c).isOpen))

/-- Answers a request. -/
def answer (c : ConnectionId) (r : Request) (s : Service A) :
    Except ServiceError Unit × Service A :=
  match r with
  | .keepAlive _ => reply c .keepAlive s
  | r => hand g c r s

/-- Ends the task with a failed attempt. -/
def exitOn (reason : StopReason) (x : Except ServiceError Unit × Service A) :
    Option Exit × Service A :=
  match x with
  | (.ok _, s) => (none, s)
  | (.error e, s) => (some (.failed reason e), s)

/-- Reads an envelope that arrived on a connection. -/
def read (c : ConnectionId) (bytes : Bytes) (s : Service A) :
    Except EnvelopeError (Option Request) × Service A :=
  let (r, b) := s.exchange.read g.complaint c bytes
  (r, { s with exchange := b })

/-- Takes one envelope. -/
def take (c : ConnectionId) (bytes : Bytes) (s : Service A) : Option Exit × Service A :=
  match read g c bytes s with
  | (.ok (some r), s) => exitOn .serverError (answer g c r s)
  | (.ok none, s) => (none, s)
  | (.error (.cipher _), s) => exitOn .serverError (reply c (.resendPreKeys (some g.identity)) s)
  | (.error e, s) => (some (.failed .protocolError (.envelope e)), s)

/-- Takes what the peer of a connection did. -/
def receive (c : ConnectionId) (a : Arrival) (s : Service A) : Option Exit × Service A :=
  let (r, link) := (s.exchange.links c).receive a
  let s := { s with exchange := s.exchange.setLink c link }
  match r with
  | .ok (some bytes) => take g c bytes s
  | .ok none => (some .closed, s)
  | .error _ => (some .closed, s)

/-- Ends the session of a connection. The application is told if it was identified. -/
def conclude (c : ConnectionId) (exit : Exit) (s : Service A) :
    Except DirectoryError Unit × Service A :=
  let removed := s.exchange.directory.record? c
  let (r, b) := s.exchange.stop c exit.reason exit.message fun _ _ b => b
  let s := { s with exchange := b, served := s.served.filter fun t => t.connection ≠ c }
  match removed with
  | some record => (r, s.note (.stopped record.identity record.toPlayer))
  | none => (r, s)

/-! ## The connections together -/

/-- When a connection has been silent for too long from now on. -/
def deadline (s : Service A) : Nat := s.now + g.idleTimeout.nanos

/-- Begins to serve a connection. -/
def accept (c : ConnectionId) (s : Service A) : Service A :=
  { s with exchange := s.exchange.setLink c { id := c },
           served := s.served ++ [⟨c, s.deadline g⟩] }

/-- Whether a connection is being served. -/
def isServed (c : ConnectionId) (s : Service A) : Bool :=
  s.served.any fun t => t.connection = c

/-- A connection whose task has ended is no longer served. -/
@[simp] theorem isServed_conclude (c : ConnectionId) (exit : Exit) (s : Service A) :
    (s.conclude c exit).2.isServed c = false := by
  cases h : s.exchange.directory.record? c <;> simp [conclude, isServed, note, h]

/-- Waits for more from a connection. -/
def await (c : ConnectionId) (s : Service A) : Service A :=
  { s with served := s.served.map fun t =>
      if t.connection = c then { t with deadline := s.deadline g } else t }

/-- A connection that is being served brings something. -/
def arrive (c : ConnectionId) (a : Arrival) (s : Service A) : Service A :=
  if s.isServed c then
    match receive g c a s with
    | (none, s) => s.await g c
    | (some exit, s) => (s.conclude c exit).2
  else s

/-- Time passes. The connections whose silence has lasted too long end, in the order of their
deadlines. -/
def pass (span : Nat) (s : Service A) : Service A :=
  let s := { s with now := s.now + span }
  let late := (s.served.filter fun t => t.deadline ≤ s.now).mergeSort fun t u =>
    t.deadline ≤ u.deadline
  late.foldl (fun s t => (s.conclude t.connection .idle).2) s

end Service

end SealedSession
