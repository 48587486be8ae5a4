import SealedSession.Failure
import SealedSession.Identity

/-! # Ciphers

A cipher knows how to reach every peer it has a session with. It encrypts for a recipient and
decrypts from a sender; how keys were agreed on is its own affair.

A failure to decrypt what arrives is mended by fresh prekeys, an invalid session on the way out
means that the peer is no longer trusted.
-/

namespace SealedSession

/-- Why a cipher refused. -/
inductive CipherError where
  /-- There is no usable session with the peer. -/
  | invalidSession (detail : String)
  | encrypt (detail : String)
  | decrypt (detail : String)
deriving DecidableEq, Repr, Inhabited

namespace CipherError

def message : CipherError → String
  | .invalidSession detail => "invalid cipher session: " ++ detail
  | .encrypt detail => "encrypt failed: " ++ detail
  | .decrypt detail => "decrypt failed: " ++ detail

def label : CipherError → String
  | .invalidSession _ => "InvalidSession"
  | .encrypt _ => "Encrypt"
  | .decrypt _ => "Decrypt"

instance : Failure CipherError where
  label := label
  message := message

/-- Whether the peer has no usable session. -/
def isInvalidSession : CipherError → Bool
  | .invalidSession _ => true
  | _ => false

end CipherError

/-- Encryption for a recipient and decryption from a sender. -/
structure Cipher where
  encrypt : Bytes → Identity → Except CipherError Bytes
  decrypt : Bytes → Identity → Except CipherError Bytes

namespace Cipher

/-- What `c` encrypts for `recipient`, `d` decrypts from `sender`. -/
def Inverts (d : Cipher) (sender : Identity) (c : Cipher) (recipient : Identity) : Prop :=
  ∀ plain sealed, c.encrypt plain recipient = .ok sealed → d.decrypt sealed sender = .ok plain

/-- Refuses everything with one error. -/
def rejecting (e : CipherError) : Cipher where
  encrypt _ _ := .error e
  decrypt _ _ := .error e

/-- Hides nothing. -/
def clear : Cipher where
  encrypt plain _ := .ok plain
  decrypt sealed _ := .ok sealed

/-- Encrypts to the plaintext itself and decrypts everything to one given plaintext. -/
def constant (plain : Bytes) : Cipher where
  encrypt plain _ := .ok plain
  decrypt _ _ := .ok plain

end Cipher

end SealedSession
