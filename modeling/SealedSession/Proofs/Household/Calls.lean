import Mathlib.Logic.Function.Iterate
import SealedSession.Proofs.Client.Holding

/-!
# Calls to connect, step by step

Connecting takes long, and while it goes on everything else goes on as well: other clients of the
home do what they want, and so does the same client, which may even be asked to connect again. A
call to connect is therefore taken apart into the steps between which others may come, and it
carries the lock until the handshake takes it over.

* `Client.Stage`: how far a call has come, and what it holds.
* `Client.begin`, `Client.lockHome`, `Client.advance`: the steps of a call.
* `Client.connect_eq_advance`: a call whose steps are not interrupted is `Client.connect`.
-/

namespace SealedSession

/-- Where a server that suffices is to be found. -/
def Discovery.address (document : Discovery) (server : String) (session : PlayerSession) :
    Except ClientError Url := do
  document.check session
  Discovery.listenUrl server

/-- What stands between a locked home and an opened socket. -/
theorem Network.openSocket_eq (net : Network) (server : String) (session : PlayerSession) :
    net.openSocket server session = match net.discover server with
      | .error e => .error e
      | .ok document => match document.address server session with
        | .error e => .error e
        | .ok url => (net.connect url).mapError .transport := by
  unfold Network.openSocket Discovery.address
  cases net.discover server with
  | error e => rfl
  | ok document =>
    refine (bind_assoc (document.check session) _ _).symm.trans ?_
    dsimp only
    cases (do document.check session; Discovery.listenUrl server) with
    | error e => rfl
    | ok url => rfl

namespace Client

/-- How far a call to connect has come. -/
inductive Stage where
  /-- The client was found to be disconnected. -/
  | locking
  | discovering (lock : HomeLock)
  | checking (lock : HomeLock) (document : Discovery)
  | opening (lock : HomeLock) (url : Url)
  /-- The socket is open. -/
  | starting (lock : HomeLock) (connection : ConnectionId)
  /-- The handshake has taken over the lock. -/
  | settling (connection : ConnectionId) (channel : Nat) (result : Except ClientError Unit)
  | answered (result : Except ClientError Unit)
  | abandoned

namespace Stage

/-- The lock that a call holds. -/
def lock? : Stage → Option HomeLock
  | .discovering lock | .checking lock _ | .opening lock _ | .starting lock _ => some lock
  | .locking | .settling _ _ _ | .answered _ | .abandoned => none

/-- Whether a call is no longer in progress. -/
def isOver : Stage → Bool
  | .answered _ | .abandoned => true
  | _ => false

end Stage

variable {S W : Type} (g : Settings S W)

/-- A call begins: a client that is not disconnected refuses it. -/
def begin (c : Client S W) : Stage :=
  if c.handshake.state ≠ .disconnected then .answered (.error (.alreadyConnected c.handshake.state))
  else .locking

/-- A call that is about to lock the home has tried to. -/
def lockHome (attempt : Except ClientError HomeLock) (stage : Stage) (c : Client S W) :
    Stage × Client S W :=
  match stage, attempt with
  | .locking, .ok lock => (.discovering lock, c)
  | .locking, .error e => (.answered (.error e), c.note [.error e.message])
  | stage, _ => (stage, c)

/-- Any other step of a call. -/
def advance (net : Network) (stage : Stage) (c : Client S W) : Stage × Client S W :=
  match stage with
  | .discovering lock =>
    match net.discover g.config.serverUrl with
    | .ok document => (.checking lock document, c)
    | .error e => (.answered (.error e), c)
  | .checking lock document =>
    match document.address g.config.serverUrl g.config.session with
    | .ok url => (.opening lock url, c)
    | .error e => (.answered (.error e), c)
  | .opening lock url =>
    match net.connect url with
    | .ok connection => (.starting lock connection, { c with current := some connection })
    | .error e => (.answered (.error (.transport e)), c)
  | .starting lock connection =>
    let (o, channel) := c.handshake.outbound.create
    let (r, h) := Handshake.onOpen g.handshake channel (some lock) { c.handshake with outbound := o }
    (.settling connection channel r, { c with handshake := h })
  | .settling connection channel (.ok _) =>
    let c := restartKeepalive g none c
    let socket : ClientSocket := { socket := { id := connection }, channel := channel }
    (.answered (.ok ()), drain g { c with sockets := c.sockets ++ [socket] })
  | .settling _ channel (.error e) =>
    let c := disconnect g c
    let outbound := c.handshake.outbound.dropReceiving channel
    (.answered (.error e), { c with handshake := { c.handshake with outbound := outbound } })
  | stage => (stage, c)

/-- Several steps of a call that nothing interrupts. -/
def proceed (net : Network) (n : Nat) (x : Stage × Client S W) : Stage × Client S W :=
  (fun x ↦ advance g net x.1 x.2)^[n] x

theorem proceed_succ (net : Network) (n : Nat) (x : Stage × Client S W) :
    proceed g net (n + 1) x = proceed g net n (advance g net x.1 x.2) := rfl

/-- A call that is over stays so. -/
theorem proceed_answered (net : Network) (n : Nat) (r : Except ClientError Unit)
    (c : Client S W) : proceed g net n (.answered r, c) = (.answered r, c) := by
  induction n with
  | zero => rfl
  | succ n ih => exact ih

/-- Once the socket is open, a call that is not interrupted does what opening the socket does. -/
theorem proceed_starting (net : Network) (lock : HomeLock) (connection : ConnectionId)
    (c : Client S W) :
    proceed g net 2 (.starting lock connection, { c with current := some connection }) =
      (.answered (opened g connection lock c).1, (opened g connection lock c).2) := by
  rw [proceed_succ, proceed_succ]
  simp only [advance, opened]
  rcases Handshake.onOpen g.handshake c.handshake.outbound.create.2 (some lock)
    { c.handshake with outbound := c.handshake.outbound.create.1 } with ⟨_ | _, h⟩
  · rfl
  · rfl

/-- A call whose steps are not interrupted connects. -/
theorem connect_eq_advance (net : Network) (attempt : Except ClientError HomeLock)
    (c : Client S W) :
    proceed g net 5 (lockHome attempt (begin c) c) =
      (.answered (connect g net attempt c).1, (connect g net attempt c).2) := by
  unfold connect begin
  split
  · exact proceed_answered g net 5 _ c
  · cases attempt with
    | error e => exact proceed_answered g net 5 _ _
    | ok lock =>
      simp only [lockHome, Network.openSocket_eq]
      rw [proceed_succ]
      simp only [advance]
      cases net.discover g.config.serverUrl with
      | error e => exact proceed_answered g net 4 _ c
      | ok document =>
        rw [proceed_succ]
        simp only [advance]
        cases document.address g.config.serverUrl g.config.session with
        | error e => exact proceed_answered g net 3 _ c
        | ok url =>
          rw [proceed_succ]
          simp only [advance]
          cases net.connect url with
          | error e => exact proceed_answered g net 2 _ c
          | ok connection => exact proceed_starting g net lock connection c

end Client

end SealedSession
