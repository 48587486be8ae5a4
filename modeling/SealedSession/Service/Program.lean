import SealedSession.Service.Error
import SealedSession.Switchboard
import SealedSession.Transport.Socket

/-! # Applications of a service

The application answers the requests of a connection. What it does with one request is a program:
it looks at the directory, replies, sends to other connections, identifies its connection and
stops its session, in any order and any number of times, and then finishes with success or an
error and with its own state as it is to be from then on. Every act but looking may fail, and the
program goes on as it sees fit.

A program is carried out at one go. It takes no time, and nothing arrives on any connection while it
runs. It does not have the connection itself in its hands, so that all it writes goes through the
directory and it cannot close the connection; and it stops no session but that of the connection
that asked. What is stated of services is stated of applications that keep to this.

## Main definitions

* `Program`: what an application does with one request.
* `Program.run`: a program carried out for a connection.
-/

namespace SealedSession

/-- The switchboard of a service. -/
abbrev Exchange := Switchboard Socket

/-- What an application with state `A` does with a request. -/
inductive Program (A : Type) where
  | finish (app : A) (result : Except ServiceError Unit)
  | look (next : Directory → Program A)
  /-- Sends to the connection that asked, encrypted once that is identified. -/
  | reply (m : Response) (next : Except ServiceError Unit → Program A)
  | sendTo (connection : ConnectionId) (recipient : Option Identity) (m : Response)
      (next : Except ServiceError Unit → Program A)
  | identify (identity : Identity) (player : Option BoundPlayer)
      (next : Except ServiceError Unit → Program A)
  | stop (reason : StopReason) (message : String)
      (next : Except ServiceError Unit → Program A)

/-- An application: what it does with a request of a connection. -/
abbrev Application (A : Type) := A → ConnectionId → Request → Program A

namespace Exchange

/-- Sends a response to a connection, for the identity it has. -/
def reply (b : Exchange) (c : ConnectionId) (m : Response) :
    Except ServiceError Unit × Exchange :=
  let (r, b) := b.send c (b.directory.identity? c) m
  (r.mapError .directory, b)

end Exchange

namespace Program

variable {A : Type}

/-- Replies, and then finishes. -/
def answer (app : A) (m : Response) : Program A :=
  .reply m fun r => .finish app r

/-- Carries a program out for a connection. -/
def run (c : ConnectionId) : Program A → Exchange → (Except ServiceError Unit × A) × Exchange
  | .finish app result, b => ((result, app), b)
  | .look next, b => run c (next b.directory) b
  | .reply m next, b =>
    let (r, b) := b.reply c m
    run c (next r) b
  | .sendTo d recipient m next, b =>
    let (r, b) := b.send d recipient m
    run c (next (r.mapError .directory)) b
  | .identify identity player next, b =>
    let (r, b) := b.identify c identity player
    run c (next ((r.map fun _ => ()).mapError .directory)) b
  | .stop reason message next, b =>
    let (r, b) := b.stop c reason message fun _ _ b => b
    run c (next (r.mapError .directory)) b

end Program

end SealedSession
