import SealedSession.Proofs.Connection.Agreement
import SealedSession.Proofs.Handshake.Invariant
import SealedSession.Proofs.Handshake.Sending

/-!
# A client and a service, joined

A client that has opened a socket and the service that has accepted it are joined by two queues:
the channel that the client is bound to, and what the service writes on the connection. `Joint` is
both ends together, `Move` lists what may happen next, and `run` lets it happen, in any order.

Either end may leave at any time, with or without the other end hearing of it. What it had sent
before is delivered all the same.

* `Ends`: what the two ends are set up with.
* `opened`: a client in any disconnected state opens a socket to a service in any state.
* `view`: what the agreement between the ends is about.
-/

namespace SealedSession

/-- Whether a client may do something of its own accord while it has a socket. -/
def Operation.isOwn {W : Type} : Operation W → Bool
  | .send (.feature _) => true
  | .send _ | .onOpen _ _ | .receive _ => false
  | .createChannel | .takeEnvelope _ | .dropReceiving _ => false
  | _ => true

/-- What a client does with a frame. -/
def Frame.operation {W : Type} : Frame → Operation W
  | .envelope bytes => .receive bytes
  | .close info => .onClose (some info)

namespace Connection

variable {S W A : Type}

/-- What a client and a service are set up with, both encrypting by the pair cipher of the identity
that they have. The identity of a store may change with the world, as when its device is
registered, but not its owner. -/
structure Ends (S W A : Type) where
  client : Handshake.Settings S W
  service : Service.Settings A
  /-- Whose a store is. -/
  owner : S → Uuid
  owner_identity : ∀ s w, (client.stores.identity s w).1.owner = owner s
  cipher_client : ∀ s w, (client.stores.cipher s w).1 = .pair (client.stores.identity s w).1
  ciphers_service : service.ciphers = fun _ ↦ .pair service.identity.identity
  reliable : service.application.Reliable service.identity

/-- A client and a service that are joined by a connection. -/
structure Joint (S W A : Type) where
  client : Handshake S W
  service : Service A
  /-- How many frames the client has taken. -/
  taken : Nat := 0

/-- What may happen next. -/
inductive Move (W : Type) where
  /-- The service is brought the oldest envelope of the client. -/
  | serve
  /-- The client is brought the oldest frame of the service. -/
  | hear
  | act (op : Operation W) (own : op.isOwn = true)
  /-- The service finds the connection closed. -/
  | closed (info : Option CloseInfo)
  /-- The service finds the connection broken. -/
  | broken (system : String)
  /-- The service ends the session of this connection or another. -/
  | conclude (d : ConnectionId) (exit : Exit)
  /-- Time passes for the service. -/
  | pass (span : Nat)

variable (e : Ends S W A) (c : ConnectionId) (n : Nat)

/-- The frames that the client has not taken yet. -/
def coming (j : Joint S W A) : List Frame := (j.service.written c).drop j.taken

/-- One thing happens on a connection whose client sends through channel `n`. -/
def move (j : Joint S W A) : Move W → Joint S W A
  | .serve =>
    match j.client.outbound.take? n with
    | some (bytes, o) =>
      { j with client := j.client.withOutbound o
               service := Service.arrive e.service c (.envelope bytes) j.service }
    | none => j
  | .hear =>
    match coming c j with
    | f :: _ =>
      { j with client := (Handshake.perform e.client j.client f.operation).2
               taken := j.taken + 1 }
    | [] => j
  | .act op _ => { j with client := (Handshake.perform e.client j.client op).2 }
  | .closed info => { j with service := Service.arrive e.service c (.closed info) j.service }
  | .broken system => { j with service := Service.arrive e.service c (.broken system) j.service }
  | .conclude d exit => { j with service := (j.service.conclude d exit).2 }
  | .pass span => { j with service := j.service.pass span }

/-- One thing happens after another. -/
def run (j : Joint S W A) (ms : List (Move W)) : Joint S W A :=
  ms.foldl (move e c n) j

theorem run_induction {P : Joint S W A → Prop} {j : Joint S W A} (base : P j)
    (step : ∀ j m, P j → P (move e c n j m)) (ms : List (Move W)) : P (run e c n j ms) := by
  induction ms generalizing j with
  | nil => exact base
  | cons m ms ih => exact ih (step j m base)

/-- A client opens a socket, with a channel of its own, and a service accepts it. -/
def opened (lock : Option HomeLock) (h : Handshake S W) (s : Service A) : Joint S W A where
  client := (Handshake.onOpen e.client h.outbound.create.2 lock
    (h.withOutbound h.outbound.create.1)).2
  service := s.accept e.service c

/-! ## What the ends see of each other -/

/-- The view of a client, with what is on its way to it and what the server knows of it. -/
def viewOf (h : Handshake S W) (down : List Frame) (record : Option SessionRecord)
    (served : Bool) : View where
  state := h.state
  phase := h.phase
  server := h.serverIdentity
  owner := h.store.map e.owner
  up := h.queued n
  down := down
  record := record
  served := served

/-- The view of both ends. -/
def view (j : Joint S W A) : View :=
  viewOf e n j.client (coming c j) (j.service.record? c) (j.service.isServed c)

section

variable {h h' : Handshake S W} (down : List Frame) (record : Option SessionRecord)
  (served : Bool)

/-- A client that stands where it stood and has its store has only sent something. -/
theorem viewOf_of_sent {bs : List Bytes} (hq : Handshake.Sent n h bs h')
    (hs : h'.standing = h.standing) (ht : h'.store = h.store) :
    viewOf e n h' down record served = { viewOf e n h down record served with
      up := (viewOf e n h down record served).up ++ bs } := by
  have hc : h'.state = h.state := congrArg Standing.state hs
  have hp : h'.phase = h.phase := congrArg Standing.phase hs
  have hv : h'.serverIdentity = h.serverIdentity := congrArg Standing.server hs
  simp only [viewOf, hc, hp, hv, ht, hq.queued]

end

end Connection

end SealedSession
