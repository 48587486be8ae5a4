import SealedSession.Identity
import SealedSession.Text.Quoted

/-! # Players and game sessions

A bound player is a game account on a game server. A player session is what a client presents to
start a session: the account, its name, the server, how ownership is proved, and a token of the
account service. The token is never written and its text never shown.
-/

namespace SealedSession

/-- The game account bound to a connection. -/
structure BoundPlayer where
  id : Uuid
  /-- The game server that the player is on. -/
  server : String
deriving DecidableEq, Repr, Inhabited

namespace BoundPlayer

/-- Whether two players are on the same game server. -/
def inServerWith (p q : BoundPlayer) : Bool :=
  p.server = q.server

def toJson (p : BoundPlayer) : Json.Value :=
  .object [("id", p.id.toJson), ("server", .text p.server)]

def ofJson? (j : Json.Raw) : Option BoundPlayer := do
  let r ← Json.Record.read? ["id", "server"] [] j
  let id ← r.required? "id" Uuid.ofJson?
  let server ← r.required? "server" Json.Raw.string?
  return ⟨id, server⟩

end BoundPlayer

/-- An identity with the game account it is bound to, if any. -/
structure Player where
  identity : Identity
  bound : Option BoundPlayer
deriving DecidableEq, Repr, Inhabited

namespace Player

def toJson (p : Player) : Json.Value :=
  .object [("identity", p.identity.toJson), ("bound", Json.orNull BoundPlayer.toJson p.bound)]

def ofJson? (j : Json.Raw) : Option Player := do
  let r ← Json.Record.read? ["identity", "bound"] [] j
  let identity ← r.required? "identity" Identity.ofJson?
  let bound ← r.optional? "bound" BoundPlayer.ofJson?
  return ⟨identity, bound⟩

end Player

/-- How a game session proves that it owns its account. -/
inductive SessionMode where
  /-- Checked with the account service. -/
  | verified
  /-- Taken on trust. -/
  | unverified
deriving DecidableEq, Repr, Inhabited

namespace SessionMode

/-- The modes by the name they are written as. -/
def names : List (String × SessionMode) :=
  [("verified", .verified), ("unverified", .unverified)]

def text : SessionMode → String
  | .verified => "verified"
  | .unverified => "unverified"

def toJson (m : SessionMode) : Json.Value := .text m.text

def ofJson? (source : Json.Source) (j : Json.Raw) : Option SessionMode :=
  Json.plain? source names j

/-- The name of a mode in a diagnostic. -/
def diagnostic : SessionMode → String
  | .verified => "Verified"
  | .unverified => "Unverified"

end SessionMode

/-- The game session that a client presents. -/
structure PlayerSession where
  playerId : Uuid
  username : String
  server : String
  mode : SessionMode
  /-- A secret of the account service, known to this side alone. -/
  accessToken : Option String := none
deriving DecidableEq, Repr, Inhabited

namespace PlayerSession

/-- The player that the session binds to. -/
def toBoundPlayer (s : PlayerSession) : BoundPlayer :=
  ⟨s.playerId, s.server⟩

/-- The session as a receiver learns it. -/
def withoutToken (s : PlayerSession) : PlayerSession :=
  { s with accessToken := none }

def toJson (s : PlayerSession) : Json.Value :=
  .object [("player_id", s.playerId.toJson), ("username", .text s.username),
    ("server", .text s.server), ("mode", s.mode.toJson)]

def ofJson? (source : Json.Source) (j : Json.Raw) : Option PlayerSession := do
  let r ← Json.Record.read? ["player_id", "username", "server", "mode"] [] j
  let playerId ← r.required? "player_id" Uuid.ofJson?
  let username ← r.required? "username" Json.Raw.string?
  let server ← r.required? "server" Json.Raw.string?
  let mode ← r.required? "mode" (SessionMode.ofJson? source)
  return ⟨playerId, username, server, mode, none⟩

/-- The diagnostic text of a session tells whether there is a token, not which. -/
def diagnostic (s : PlayerSession) : String :=
  let token := match s.accessToken with
    | some _ => "Some(" ++ Text.quoted "<redacted>" ++ ")"
    | none => "None"
  "PlayerSession \x7b player_id: " ++ s.playerId.text ++ ", username: " ++
    Text.quoted s.username ++ ", server: " ++ Text.quoted s.server ++ ", mode: " ++
    s.mode.diagnostic ++ ", access_token: " ++ token ++ " \x7d"

end PlayerSession

end SealedSession
