import SealedSession.Cipher
import SealedSession.Json.Reader
import SealedSession.Message.Reading
import SealedSession.Message.Written

/-! # Envelopes

Every message travels in an envelope: twelve bytes of header and a payload.

| bytes  | content                                  |
|--------|------------------------------------------|
| 0..3   | the marker                               |
| 4..7   | the version                              |
| 8..11  | the mode, plain or encrypted             |
| 12..   | the written message, or its ciphertext   |

Header words are big-endian. An envelope has at most `maxSize` bytes; the ceiling is checked on
the way out, and on the way in both for the buffer and for the decrypted payload.

## Main definitions

* `Envelope.readHeader`, `Envelope.write`: framing alone.
* `Envelope.encodePlain`, `Envelope.encodeFor`: the two ways to send a message.
* `Envelope.decode`: the message of a buffer, none when it is to be dropped.
-/

namespace SealedSession

/-- Why an envelope could not be made or understood. -/
inductive EnvelopeError where
  | unwritable (detail : String)
  | unreadable (detail : String)
  | badMarker (marker : Int32)
  | unsupportedVersion (version : Int32)
  | truncated (size : Nat)
  | tooLarge (size max : Nat)
  | noCipher
  | missingRecipient
  | cipher (e : CipherError)
deriving DecidableEq, Repr, Inhabited

namespace EnvelopeError

def message : EnvelopeError → String
  | .unwritable detail => "encode failed: " ++ detail
  | .unreadable detail => "decode failed: " ++ detail
  | .badMarker marker =>
    "not a tether packet (marker 0x" ++ Hex.ofNat marker.toUInt32.toNat ++ ")"
  | .unsupportedVersion version => "unknown packet version " ++ toString version.toInt
  | .truncated size =>
    "packet truncated: " ++ toString size ++ " bytes is shorter than the header"
  | .tooLarge size max =>
    "packet is too large: " ++ toString size ++ " bytes when maximum is " ++ toString max
  | .noCipher => "cipher was not set when mode is expecting encrypted"
  | .missingRecipient => "recipient is required when sending encrypted packets"
  | .cipher e => e.message

def label : EnvelopeError → String
  | .unwritable _ => "Encode"
  | .unreadable _ => "Decode"
  | .badMarker _ => "BadMarker"
  | .unsupportedVersion _ => "UnsupportedVersion"
  | .truncated _ => "Truncated"
  | .tooLarge _ _ => "TooLarge"
  | .noCipher => "NoCipher"
  | .missingRecipient => "MissingRecipient"
  | .cipher e => Failure.under "Cipher" e

instance : Failure EnvelopeError where
  label := label
  message := message

/-- The error of the cipher, when it is one. -/
def asCipher : EnvelopeError → Option CipherError
  | .cipher e => some e
  | _ => none

end EnvelopeError

/-- What can be the payload of an envelope. -/
class Payload (α : Type) where
  encode : α → Bytes
  decode? : Bytes → Option α

instance : Payload Request where
  encode r := r.toJson.encode
  decode? bytes := (Json.read? bytes).bind Request.ofJson?

instance : Payload Response where
  encode r := r.toJson.encode
  decode? bytes := (Json.read? bytes).bind Response.ofJson?

instance : Payload String where
  encode s := Json.Value.encode (.text s)
  decode? bytes := (Json.read? bytes).bind Json.Raw.string?

namespace Envelope

/-- The first word of every envelope. -/
def marker : Int32 := 0x22

/-- The version of the format. -/
def version : Int32 := 2

/-- The length of the header. -/
def headerLength : Nat := 12

/-- The size of the largest envelope. -/
def maxSize : Nat := 32767

/-- How the payload is written. -/
inductive Mode where
  | plain
  | encrypted
deriving DecidableEq, Repr, Inhabited

namespace Mode

def name : Mode → String
  | .plain => "plain"
  | .encrypted => "encrypted"

/-- The header word of a mode. -/
def toWire : Mode → Int32
  | .plain => 0xC001
  | .encrypted => 0xBA5ED

/-- The mode of a header word. -/
def ofWire? (w : Int32) : Option Mode :=
  if w = toWire .plain then some .plain
  else if w = toWire .encrypted then some .encrypted
  else none

@[simp] theorem ofWire?_toWire (m : Mode) : ofWire? m.toWire = some m := by
  cases m <;> decide

end Mode

/-- The mode word and the payload of a buffer with a valid header. -/
def readHeader (buffer : Bytes) : Except EnvelopeError (Int32 × Bytes) :=
  if buffer.length < headerLength then .error (.truncated buffer.length)
  else match buffer with
    | a₀ :: a₁ :: a₂ :: a₃ :: b₀ :: b₁ :: b₂ :: b₃ :: c₀ :: c₁ :: c₂ :: c₃ :: payload =>
      let m := Word.ofBytes a₀ a₁ a₂ a₃
      let v := Word.ofBytes b₀ b₁ b₂ b₃
      if m ≠ marker then .error (.badMarker m)
      else if v ≠ version then .error (.unsupportedVersion v)
      else .ok (Word.ofBytes c₀ c₁ c₂ c₃, payload)
    | _ => .error (.truncated buffer.length)

/-- The mode of a buffer, none when the word names no mode. -/
def peekMode (buffer : Bytes) : Except EnvelopeError (Option Mode) :=
  (readHeader buffer).map fun r => Mode.ofWire? r.1

/-- Refuses what is larger than an envelope may be. -/
def checkSize (size : Nat) : Except EnvelopeError Unit :=
  if maxSize < size then .error (.tooLarge size maxSize) else .ok ()

/-- Puts the header before a payload. -/
def write (mode : Mode) (payload : Bytes) : Except EnvelopeError Bytes := do
  let header := Word.toBytes marker ++ Word.toBytes version ++ Word.toBytes mode.toWire
  let bytes := header ++ payload
  checkSize bytes.length
  return bytes

variable {α : Type} [Payload α]

/-- A plain envelope. -/
def encodePlain (m : α) : Except EnvelopeError Bytes :=
  write .plain (Payload.encode m)

/-- An envelope encrypted for a recipient. -/
def encodeFor (cipher : Option Cipher) (recipient : Option Identity) (m : α) :
    Except EnvelopeError Bytes :=
  match cipher, recipient with
  | none, _ => .error .noCipher
  | some _, none => .error .missingRecipient
  | some cipher, some recipient => do
    let sealed ← (cipher.encrypt (Payload.encode m) recipient).mapError .cipher
    write .encrypted sealed

/-- The message of a payload. What is wrong with one that cannot be read is for `complaint` to
say. -/
def readPayload (α : Type) [Payload α] (complaint : Bytes → String) (payload : Bytes) :
    Except EnvelopeError (Option α) :=
  match Payload.decode? payload with
  | some m => .ok (some m)
  | none => .error (.unreadable (complaint payload))

/-- The message of a buffer that `sender` sent.

There is none when the message cannot be attributed, being encrypted by a sender who is not known
yet, or when its mode is unknown. -/
def decode (α : Type) [Payload α] (complaint : Bytes → String) (cipher : Option Cipher)
    (sender : Option Identity) (buffer : Bytes) : Except EnvelopeError (Option α) := do
  checkSize buffer.length
  let (word, payload) ← readHeader buffer
  match Mode.ofWire? word with
  | some .plain => do
    checkSize payload.length
    readPayload α complaint payload
  | some .encrypted =>
    match cipher, sender with
    | none, _ => .error .noCipher
    | some _, none => return none
    | some cipher, some sender => do
      let plain ← (cipher.decrypt payload sender).mapError .cipher
      checkSize plain.length
      readPayload α complaint plain
  | none => return none

end Envelope

end SealedSession
