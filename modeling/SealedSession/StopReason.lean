import SealedSession.Json.Record

/-! # Why a session stops

A stop reason is a code that a socket is closed with and a text for people.
-/

namespace SealedSession

/-- Why a session ended. -/
inductive StopReason where
  | normalClose
  | protocolError
  | unauthorised
  | serverError
deriving DecidableEq, Repr, Inhabited

namespace StopReason

/-- The close code. -/
def code : StopReason → UInt16
  | .normalClose => 1000
  | .protocolError => 1002
  | .unauthorised => 1008
  | .serverError => 1011

/-- What is said without any detail. -/
def summary : StopReason → String
  | .normalClose => "Session closed normally"
  | .protocolError => "Protocol error"
  | .unauthorised => "Unauthorised"
  | .serverError => "Server error"

/-- The summary, with the detail behind a colon if there is one. -/
def message (r : StopReason) (detail : String) : String :=
  if detail = "" then r.summary else r.summary ++ ": " ++ detail

def text : StopReason → String
  | .normalClose => "NORMAL_CLOSE"
  | .protocolError => "PROTOCOL_ERROR"
  | .unauthorised => "UNAUTHORISED"
  | .serverError => "SERVER_ERROR"

/-- The reasons by the name they are written as. -/
def names : List (String × StopReason) :=
  [("NORMAL_CLOSE", .normalClose), ("PROTOCOL_ERROR", .protocolError),
    ("UNAUTHORISED", .unauthorised), ("SERVER_ERROR", .serverError)]

def toJson (r : StopReason) : Json.Value := .text r.text

def ofJson? (source : Json.Source) (j : Json.Raw) : Option StopReason :=
  Json.plain? source names j

end StopReason

end SealedSession
