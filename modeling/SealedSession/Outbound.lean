import SealedSession.Client.Error

/-! # The outbound channel

Everything that a client sends leaves through one channel, in the order in which it was queued.
A channel has a sending and a receiving end. The client holds the sending end from the opening of
a socket until it disconnects; the writer of the socket holds the receiving end. A writer that
finds the sending end gone writes what is still queued and then closes the socket.

At most one channel is bound at a time. Sending without one is refused, and so is sending to a
writer that has gone away.
-/

namespace SealedSession

/-- A queue of envelopes between the client and the writer of a socket. -/
structure Channel where
  queue : List Bytes := []
  /-- Whether the sending end is still held. -/
  sending : Bool := true
  /-- Whether the receiving end is still held. -/
  receiving : Bool := true
deriving DecidableEq, Repr, Inhabited

/-- All channels that were opened, and which of them is bound. -/
structure Outbound where
  channels : List Channel := []
  bound : Option Nat := none
deriving DecidableEq, Repr, Inhabited

namespace Outbound

/-- Changes one channel. -/
def adjust (o : Outbound) (c : Nat) (f : Channel → Channel) : Outbound :=
  { o with channels := o.channels.modify c f }

/-- Opens a channel that is not bound yet; its number is the number of channels before it. -/
def create (o : Outbound) : Outbound × Nat :=
  ({ o with channels := o.channels ++ [{}] }, o.channels.length)

/-- Whether a channel is bound. -/
def isBound (o : Outbound) : Bool := o.bound.isSome

/-- Drops the sending end of a channel. -/
def dropSending (o : Outbound) (c : Nat) : Outbound :=
  o.adjust c fun ch => { ch with sending := false }

/-- Drops the receiving end of a channel, with everything that is still queued. -/
def dropReceiving (o : Outbound) (c : Nat) : Outbound :=
  o.adjust c fun ch => { ch with receiving := false, queue := [] }

/-- Binds a channel, unless one is bound; a refused channel loses its sending end. -/
def bind (o : Outbound) (c : Nat) : Outbound × Except ClientError Unit :=
  match o.bound with
  | some _ => (o.dropSending c, .error .senderAlreadyBound)
  | none => ({ o with bound := some c }, .ok ())

/-- Lets go of the bound channel. -/
def unbind (o : Outbound) : Outbound :=
  match o.bound with
  | some c => { o.dropSending c with bound := none }
  | none => o

/-- Queues an envelope. -/
def send (o : Outbound) (bytes : Bytes) : Outbound × Except ClientError Unit :=
  match o.bound with
  | none => (o, .error .senderUnbound)
  | some c =>
    match o.channels[c]? with
    | some ch =>
      if ch.receiving then
        (o.adjust c fun ch => { ch with queue := ch.queue ++ [bytes] }, .ok ())
      else (o, .error .notConnected)
    | none => (o, .error .notConnected)

/-- Takes everything that is queued on a channel. -/
def drain (o : Outbound) (c : Nat) : Outbound × List Bytes :=
  (o.adjust c fun ch => { ch with queue := [] }, ((o.channels[c]?).map Channel.queue).getD [])

/-- Takes the oldest envelope of a channel. -/
def take? (o : Outbound) (c : Nat) : Option (Bytes × Outbound) :=
  match (o.channels[c]?).map Channel.queue with
  | some (bytes :: rest) => some (bytes, o.adjust c fun ch => { ch with queue := rest })
  | _ => none

@[simp] theorem isBound_unbind (o : Outbound) : o.unbind.isBound = false := by
  cases h : o.bound <;> simp [unbind, isBound, h]

@[simp] theorem bound_send (o : Outbound) (bytes : Bytes) : (o.send bytes).1.bound = o.bound := by
  unfold send
  split
  · rfl
  · split
    · split <;> rfl
    · rfl

/-- What cannot be queued changes nothing. -/
theorem send_of_error {o : Outbound} {bytes : Bytes} {e : ClientError}
    (h : (o.send bytes).2 = .error e) : (o.send bytes).1 = o := by
  unfold send at h ⊢
  split
  · rfl
  · split
    · split <;> simp_all
    · rfl

end Outbound

end SealedSession
