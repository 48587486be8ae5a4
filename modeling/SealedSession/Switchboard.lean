import SealedSession.Directory

/-! # The switchboard

The switchboard is the directory together with the connections themselves and the cipher of the
server. It sends responses, encrypted for a recipient once the connection has been identified,
and it ends sessions.

A connection is any `Link`. The cipher may keep state of its own: how it answers may depend on all
that it was used for before.
-/

namespace SealedSession

/-- What the cipher of a server is used for. -/
inductive CipherUse where
  /-- A response is encrypted. -/
  | seal (recipient : Option Identity) (m : Response)
  /-- What arrived from a sender is decrypted, if it is encrypted. -/
  | unseal (sender : Option Identity) (buffer : Bytes)

/-- The directory, the connections and the cipher of a server. -/
structure Switchboard (κ : Type) where
  /-- How the cipher answers, after what it was used for. -/
  ciphers : List CipherUse → Cipher
  /-- What the cipher was used for, oldest first. -/
  uses : List CipherUse := []
  directory : Directory := {}
  links : ConnectionId → κ

namespace Switchboard

variable {κ : Type}

/-- The cipher as it answers now. -/
def cipher (b : Switchboard κ) : Cipher := b.ciphers b.uses

/-- Notes what the cipher was used for. -/
def noteUse (b : Switchboard κ) (use : CipherUse) : Switchboard κ :=
  { b with uses := b.uses ++ [use] }

/-- Replaces one connection. -/
def setLink (b : Switchboard κ) (c : ConnectionId) (link : κ) : Switchboard κ :=
  { b with links := fun x => if x = c then link else b.links x }

/-- Identifies a connection. A player that becomes bound is reported with the answer; a refusal
changes nothing. -/
def identify (b : Switchboard κ) (c : ConnectionId) (identity : Identity)
    (player : Option BoundPlayer) : Except DirectoryError (Option Player) × Switchboard κ :=
  match b.directory.identify c identity player with
  | .ok (d, bound) => (.ok bound, { b with directory := d })
  | .error e => (.error e, b)

variable [Link κ]

/-- Puts an envelope on a connection. -/
def transmit (b : Switchboard κ) (c : ConnectionId) (bytes : Bytes) :
    Except DirectoryError Unit × Switchboard κ :=
  let (r, link) := Link.send bytes (b.links c)
  (r.mapError .transport, b.setLink c link)

/-- Closes a connection. -/
def close (b : Switchboard κ) (c : ConnectionId) (code : UInt16) (reason : String) :
    Except DirectoryError Unit × Switchboard κ :=
  let (r, link) := Link.close code reason (b.links c)
  (r.mapError .transport, b.setLink c link)

/-- The envelope of a response on a connection. -/
def encode (b : Switchboard κ) (c : ConnectionId) (recipient : Option Identity) (m : Response) :
    Except EnvelopeError Bytes × Switchboard κ :=
  if b.directory.isIdentified c then
    (Envelope.encodeFor (some b.cipher) recipient m, b.noteUse (.seal recipient m))
  else (Envelope.encodePlain m, b)

/-- Sends a response on a connection. -/
def send (b : Switchboard κ) (c : ConnectionId) (recipient : Option Identity) (m : Response) :
    Except DirectoryError Unit × Switchboard κ :=
  match b.encode c recipient m with
  | (.ok bytes, b) => b.transmit c bytes
  | (.error e, b) => (.error (.envelope e), b)

/-- What a closed connection that was never identified is told. -/
def closeReason : String := "Session stopped"

/-- Tells a connection that its session, which had `removed` for a record, has ended. A peer that
had been identified is told why, in the clear since its record is gone, and left to close; any
other connection is closed at once. -/
def notify (b : Switchboard κ) (c : ConnectionId) (removed : Option SessionRecord)
    (reason : StopReason) (message : String) : Except DirectoryError Unit × Switchboard κ :=
  match removed with
  | none => b.close c reason.code closeReason
  | some _ =>
    if Link.isOpen (b.links c) then
      match Envelope.encodePlain (Response.sessionError reason message) with
      | .ok bytes => b.transmit c bytes
      | .error e => (.error (.envelope e), b)
    else (.ok (), b)

/-- Takes the record of a connection out of the directory. -/
def release (b : Switchboard κ) (c : ConnectionId) : Option SessionRecord × Switchboard κ :=
  let (d, removed) := b.directory.remove c
  (removed, { b with directory := d })

/-- Ends the session of a connection. The record is gone by the time `onStopped` is told of the
identity and the player it held, so `onStopped` may identify the connection afresh. -/
def stop (b : Switchboard κ) (c : ConnectionId) (reason : StopReason) (message : String)
    (onStopped : Identity → Player → Switchboard κ → Switchboard κ) :
    Except DirectoryError Unit × Switchboard κ :=
  let (removed, b) := b.release c
  let b := match removed with
    | some r => onStopped r.identity r.toPlayer b
    | none => b
  b.notify c removed reason message

/-- Reads a request that arrived on a connection. -/
def read (complaint : Bytes → String) (b : Switchboard κ) (c : ConnectionId) (buffer : Bytes) :
    Except EnvelopeError (Option Request) × Switchboard κ :=
  let sender := b.directory.identity? c
  (Envelope.decode Request complaint (some b.cipher) sender buffer,
    b.noteUse (.unseal sender buffer))

end Switchboard

end SealedSession
