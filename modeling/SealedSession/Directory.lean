import SealedSession.Directory.Error
import SealedSession.Player

/-! # The session directory

The directory knows, for every connection that has been identified, as whom and with which
player. It is a list of records with at most one record for a connection; the order of the list
is the order in which a search looks at the records, and means nothing else.

A connection that has only an identity may be identified again. Once a player is bound, the
record stays as it is until it is removed.

## Main definitions

* `Directory.identify`, `Directory.remove`: the two changes.
* `Directory.identity?`, `Directory.findPlayer?` and the other look-ups.
* `Directory.findPlayers`: who of some candidates is on the same game server.
-/

namespace SealedSession

/-- What is known of an identified connection. -/
structure SessionRecord where
  connection : ConnectionId
  identity : Identity
  player : Option BoundPlayer
deriving DecidableEq, Repr

namespace SessionRecord

def toPlayer (r : SessionRecord) : Player := ⟨r.identity, r.player⟩

/-- Whether the record is bound to a game account. -/
def boundTo (r : SessionRecord) (account : Uuid) : Bool :=
  r.player.any fun p => p.id = account

end SessionRecord

/-- The records of all identified connections. -/
structure Directory where
  records : List SessionRecord := []
deriving DecidableEq, Repr, Inhabited

namespace Directory

/-- The record of a connection. -/
def record? (d : Directory) (c : ConnectionId) : Option SessionRecord :=
  d.records.find? fun r => r.connection = c

/-- Puts a record in the place of the one for the same connection, or at the end. -/
def insert (r : SessionRecord) : List SessionRecord → List SessionRecord
  | [] => [r]
  | s :: rest => if s.connection = r.connection then r :: rest else s :: insert r rest

/-- Identifies a connection. A player that becomes bound is reported with the answer. -/
def identify (d : Directory) (c : ConnectionId) (identity : Identity)
    (player : Option BoundPlayer) : Except DirectoryError (Directory × Option Player) :=
  if (d.record? c).any fun r => r.player.isSome then .error (.alreadyBound c)
  else
    let r : SessionRecord := ⟨c, identity, player⟩
    .ok (⟨insert r d.records⟩, if player.isSome then some r.toPlayer else none)

/-- Removes the record of a connection, if there is one. -/
def remove (d : Directory) (c : ConnectionId) : Directory × Option SessionRecord :=
  (⟨d.records.filter fun r => r.connection ≠ c⟩, d.record? c)

/-! ## Looking up -/

/-- Whether a connection has been identified. -/
def isIdentified (d : Directory) (c : ConnectionId) : Bool := (d.record? c).isSome

/-- The identity of a connection. -/
def identity? (d : Directory) (c : ConnectionId) : Option Identity :=
  (d.record? c).map SessionRecord.identity

/-- The first answer that a record gives. -/
def search {α : Type} (d : Directory) (f : SessionRecord → Option α) : Option α :=
  d.records.findSome? f

/-- What a record answers when it satisfies a condition. -/
def answering {α : Type} (p : SessionRecord → Bool) (f : SessionRecord → α)
    (r : SessionRecord) : Option α :=
  if p r then some (f r) else none

/-- The connection that an identity uses. -/
def connectionFor? (d : Directory) (i : Identity) : Option ConnectionId :=
  d.search (answering (fun r => r.identity = i) SessionRecord.connection)

/-- The identity that is bound to a player. -/
def identityForPlayer? (d : Directory) (p : BoundPlayer) : Option Identity :=
  d.search (answering (fun r => r.player = some p) SessionRecord.identity)

/-- The player that an identity is bound to. -/
def boundPlayer? (d : Directory) (i : Identity) : Option BoundPlayer :=
  d.search fun r => if r.identity = i then r.player else none

/-- The identity with its player, if it has one. -/
def findPlayer? (d : Directory) (i : Identity) : Option Player :=
  d.search (answering (fun r => r.identity = i && r.player.isSome) SessionRecord.toPlayer)

/-- A record of a profile. -/
def recordByOwner? (d : Directory) (owner : Uuid) : Option SessionRecord :=
  d.search (answering (fun r => r.identity.owner = owner) id)

/-- The record that is bound to a game account. -/
def recordByPlayer? (d : Directory) (account : Uuid) : Option SessionRecord :=
  d.search (answering (SessionRecord.boundTo · account) id)

/-- The identity that is bound to a game account. -/
def identityByPlayerId? (d : Directory) (account : Uuid) : Option Identity :=
  d.search (answering (SessionRecord.boundTo · account) SessionRecord.identity)

/-- The player of a profile, bound or not. -/
def findPlayerByProfile? (d : Directory) (profile : Uuid) : Option Player :=
  d.search (answering (fun r => r.identity.owner = profile) SessionRecord.toPlayer)

/-- Whether a record's player is on a player's server and among the candidates. -/
def SessionRecord.joins (p : BoundPlayer) (candidates : List Uuid) (r : SessionRecord) : Bool :=
  r.player.any fun q => q.inServerWith p && q.id ∈ candidates

/-- The players among `candidates` on the game server of an identity. -/
def findPlayers (d : Directory) (i : Identity) (candidates : List Uuid) :
    Except DirectoryError (List Player) :=
  match d.boundPlayer? i with
  | none => .error (.noBoundPlayer i)
  | some p =>
    .ok ((d.records.filter (SessionRecord.joins p candidates)).map SessionRecord.toPlayer)

/-- How many connections have been identified. -/
def count (d : Directory) : Nat := d.records.length

end Directory

end SealedSession
