import SealedSession.Client.Error
import SealedSession.Directory.Error

/-! # Errors of the service

The service passes on whatever failed below it and adds one error of its own, the refusal of a
request by the application.
-/

namespace SealedSession

/-- Why the work on a request failed. -/
inductive ServiceError where
  | transport (e : TransportError)
  | envelope (e : EnvelopeError)
  | directory (e : DirectoryError)
  | client (e : ClientError)
  /-- The application refused the request. -/
  | rejected (detail : String)
deriving DecidableEq, Repr, Inhabited

namespace ServiceError

def message : ServiceError → String
  | .transport e => e.message
  | .envelope e => e.message
  | .directory e => e.message
  | .client e => e.message
  | .rejected detail => "request rejected: " ++ detail

def label : ServiceError → String
  | .transport e => Failure.under "Transport" e
  | .envelope e => Failure.under "Protocol" e
  | .directory e => Failure.under "Session" e
  | .client e => Failure.under "Client" e
  | .rejected _ => "Rejected"

def causes : ServiceError → List String
  | .transport e => e.causes
  | .directory e => e.causes
  | .client e => e.causes
  | _ => []

instance : Failure ServiceError where
  label := label
  message := message
  causes := causes

end ServiceError

end SealedSession
