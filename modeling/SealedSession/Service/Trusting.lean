import SealedSession.Service

/-! # A trusting application

An application for trials, which trusts everybody. It has strangers approved at a given address,
welcomes every identity as the profile that owns it, and binds each connection to the player whose
session it started last. Its features reflect what they are sent, save for a few that exercise a
service: refusals, silence, large replies, and word to another player.
-/

namespace SealedSession.Trusting

/-- The player of each connection whose session has started. -/
abbrev Players := List (ConnectionId × BoundPlayer)

/-- The player that a connection started its session with. -/
def player? (ps : Players) (c : ConnectionId) : Option BoundPlayer :=
  (ps.find? fun p => p.1 = c).map (·.2)

/-- Binds the connection once it has been told that it is trusted. -/
def trust (server : ServerIdentity) (ps : Players) (c : ConnectionId) (identity : Identity) :
    Program Players :=
  let player := player? ps c
  let ps := ps.filter fun p => p.1 ≠ c
  .reply (.isTrusted server) fun
    | .error e => .finish ps (.error e)
    | .ok _ => .identify identity player fun r => .finish ps r

/-- Sends a feature message to whoever is bound to a game account. -/
def tell (ps : Players) (m : FeatureMessage) (account : Option Uuid) : Program Players :=
  .look fun d =>
    match account.bind d.recordByPlayer? with
    | some r => .sendTo r.connection (some r.identity) (.feature m) fun r => .finish ps r
    | none => .finish ps (.error (.rejected "nobody to tell"))

/-- Tells a connection who it is. -/
def identityOf (ps : Players) (c : ConnectionId) : Program Players :=
  .look fun d =>
    let name := ((d.identity? c).map Identity.text).getD "nobody"
    .answer ps (.feature ⟨"you", Utf8.ofString name⟩)

/-- Answers a feature message by its kind. -/
def feature (ps : Players) (c : ConnectionId) (m : FeatureMessage) : Program Players :=
  let text := String.ofList (Utf8.lossy m.body)
  match m.kind with
  | "fail" => .finish ps (.error (.rejected text))
  | "fail_client" => .finish ps (.error (.client (.missingFeature text)))
  | "stop" => .stop .unauthorised text fun r => .finish ps r
  | "silent" => .finish ps (.ok ())
  | "big" => .answer ps (.feature ⟨"big", List.replicate (text.toNat?.getD 0) 0⟩)
  | "whoami" => identityOf ps c
  | "tell" => tell ps m (Uuid.ofString? text)
  | _ => .answer ps (.feature m)

/-- What the application does. -/
def application (server : ServerIdentity) (approvalUrl : String) : Application Players
  | ps, _, .identify none _ => .answer ps (.registerDevice approvalUrl "pending")
  | ps, _, .identify (some identity) _ => .answer ps (.identify ⟨identity.owner⟩ [] [])
  | ps, c, .startSession _ session _ =>
    .answer ((c, session.toBoundPlayer) :: ps.filter fun p => p.1 ≠ c) .startSession
  | ps, c, .checkTrust identity => trust server ps c identity
  | ps, _, .sendPreKeys offer => .answer ps (.sendPreKeys server offer.bundle)
  | ps, c, .feature m => feature ps c m
  | ps, _, .keepAlive _ => .answer ps .keepAlive

end SealedSession.Trusting
