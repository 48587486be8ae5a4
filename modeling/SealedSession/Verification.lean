import SealedSession.Client.Error

/-! # Account verification

A verified session proves to the server that it owns its game account. The client hands the
server's key and the shared secret to the account service, which answers with an identifier for
the server to look up.
-/

namespace SealedSession

/-- Proves ownership of an account: the session, the server's key and the shared secret lead to
the identifier that the server looks up. -/
abbrev AccountVerifier := PlayerSession → Bytes → Bytes → Except ClientError String

/-- The verifier of a client that runs unverified sessions alone. -/
def refuseVerification : AccountVerifier := fun session _ _ =>
  .error (.accountVerification ("no account verifier configured for " ++ session.username))

end SealedSession
