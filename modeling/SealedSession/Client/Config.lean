import SealedSession.Keepalive
import SealedSession.Player

/-! # The configuration of a client -/

namespace SealedSession

/-- Everything that a client needs to connect. -/
structure ClientConfig where
  serverUrl : String
  /-- Where the identity store and the lock file live. -/
  home : String := ".tether"
  session : PlayerSession
  keepalive : KeepaliveConfig := {}
  /-- How many failures to decrypt in a row are mended; without a limit, all of them. -/
  refreshLimit : Option Nat := none
  /-- How long to wait for the approval of the device; without a limit, forever. -/
  approvalTimeout : Option Duration := none
  /-- How long the discovery request may take. -/
  httpTimeout : Duration := .ofParts 10 0
deriving DecidableEq, Repr

namespace ClientConfig

/-- The diagnostic text of an option. -/
def optionDiagnostic {α : Type} (f : α → String) : Option α → String
  | none => "None"
  | some a => "Some(" ++ f a ++ ")"

/-- The diagnostic text of a configuration hides the token of its session. -/
def diagnostic (c : ClientConfig) : String :=
  "ClientConfig \x7b server_url: " ++ Text.quoted c.serverUrl ++ ", home_dir: " ++
    Text.quoted c.home ++ ", session: " ++ c.session.diagnostic ++
    ", keepalive: KeepAliveConfig \x7b interval: " ++ c.keepalive.interval.diagnostic ++
    ", initial_jitter: " ++ c.keepalive.jitter.diagnostic ++ " \x7d, prekey_refresh_limit: " ++
    optionDiagnostic toString c.refreshLimit ++ ", device_approval_timeout: " ++
    optionDiagnostic Duration.diagnostic c.approvalTimeout ++ ", http_timeout: " ++
    c.httpTimeout.diagnostic ++ " \x7d"

end ClientConfig

end SealedSession
