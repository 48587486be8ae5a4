import Mathlib.Tactic.ByContra
import SealedSession.Envelope

/-!
# Decoding, taken apart

A buffer is checked for its size and its header; what follows depends on the mode. The lemmas
below say what each case leads to.

* `decode_of_header`: a valid buffer is `opened` according to its mode.
* `decode_of_plain`: a plain envelope says the same to everybody; `clear?` is what it says.
* `read_of_decode`: a message that is decoded was read from a payload.
* `decode_error`: a buffer that is not understood is malformed, or it was encrypted and its reader
  has no cipher, or it fails in the cipher of a reader who knows its sender.
-/

namespace SealedSession

/-- Whether it is a buffer that is at fault, whoever reads it. -/
def EnvelopeError.isMalformed : EnvelopeError → Bool
  | .noCipher | .missingRecipient | .cipher _ => false
  | _ => true

namespace Envelope

theorem checkSize_of_le {size : Nat} (h : size ≤ maxSize) : checkSize size = .ok () := by
  rw [checkSize, if_neg (by omega)]

theorem checkSize_of_lt {size : Nat} (h : maxSize < size) :
    checkSize size = .error (.tooLarge size maxSize) := by
  rw [checkSize, if_pos h]

theorem isMalformed_of_checkSize {size : Nat} {e : EnvelopeError}
    (h : checkSize size = .error e) : e.isMalformed = true := by
  unfold checkSize at h
  split at h
  · cases h
    rfl
  · cases h

theorem isMalformed_of_readHeader {buffer : Bytes} {e : EnvelopeError}
    (h : readHeader buffer = .error e) : e.isMalformed = true := by
  unfold readHeader at h
  split at h
  · cases h
    rfl
  · split at h
    · dsimp only at h
      split at h
      · cases h
        rfl
      · split at h
        · cases h
          rfl
        · cases h
    · cases h
      rfl

variable {α : Type} [Payload α] {complaint : Bytes → String}

theorem isMalformed_of_readPayload {payload : Bytes} {e : EnvelopeError}
    (h : readPayload α complaint payload = .error e) : e.isMalformed = true := by
  unfold readPayload at h
  split at h
  · cases h
  · cases h
    rfl

/-- A payload that cannot be read is too large or malformed. -/
theorem isMalformed_of_checked {payload : Bytes} {e : EnvelopeError}
    (h : (checkSize payload.length >>= fun _ ↦ readPayload α complaint payload) = .error e) :
    e.isMalformed = true := by
  cases hs : checkSize payload.length with
  | error f =>
    rw [hs] at h
    cases h
    exact isMalformed_of_checkSize hs
  | ok _ =>
    rw [hs] at h
    exact isMalformed_of_readPayload h

/-- What follows the checks of size and header. -/
def opened (α : Type) [Payload α] (complaint : Bytes → String) (cipher : Option Cipher)
    (sender : Option Identity) (word : Int32) (payload : Bytes) : Except EnvelopeError (Option α) :=
  match Mode.ofWire? word with
  | some .plain => do
    checkSize payload.length
    readPayload α complaint payload
  | some .encrypted =>
    match cipher, sender with
    | none, _ => .error .noCipher
    | some _, none => .ok none
    | some cipher, some sender => do
      let plain ← (cipher.decrypt payload sender).mapError .cipher
      checkSize plain.length
      readPayload α complaint plain
  | none => .ok none

theorem decode_eq_opened (cipher : Option Cipher) (sender : Option Identity) (buffer : Bytes) :
    decode α complaint cipher sender buffer = (do
      checkSize buffer.length
      let (word, payload) ← readHeader buffer
      opened α complaint cipher sender word payload) := rfl

theorem decode_of_header {cipher : Option Cipher} {sender : Option Identity} {buffer : Bytes}
    {word : Int32} {payload : Bytes} (hs : buffer.length ≤ maxSize)
    (hh : readHeader buffer = .ok (word, payload)) :
    decode α complaint cipher sender buffer = opened α complaint cipher sender word payload := by
  rw [decode_eq_opened, checkSize_of_le hs, hh]
  rfl

/-- A plain envelope says the same to everybody, whoever sent it. -/
theorem decode_of_plain {buffer : Bytes} (h : peekMode buffer = .ok (some .plain))
    (cipher : Option Cipher) (sender : Option Identity) :
    decode α complaint cipher sender buffer = decode α complaint none none buffer := by
  rw [decode_eq_opened, decode_eq_opened]
  cases checkSize buffer.length with
  | error e => rfl
  | ok _ =>
    unfold peekMode at h
    cases hh : readHeader buffer with
    | error e => rfl
    | ok wp =>
      rw [hh] at h
      have hm : Mode.ofWire? wp.1 = some .plain := Except.ok.inj h
      change opened α complaint cipher sender wp.1 wp.2 = opened α complaint none none wp.1 wp.2
      unfold opened
      rw [hm]

/-- What an envelope says to somebody who knows nobody and has no cipher. -/
def clear? (α : Type) [Payload α] (complaint : Bytes → String) (buffer : Bytes) : Option α :=
  match decode α complaint none none buffer with
  | .ok o => o
  | .error _ => none

theorem read_of_readPayload {payload : Bytes} {m : α}
    (h : readPayload α complaint payload = .ok (some m)) :
    Payload.decode? payload = some m := by
  unfold readPayload at h
  split at h
  · next hr =>
    cases h
    exact hr
  · cases h

/-- A payload that is small enough is read. -/
theorem read_of_checked {payload : Bytes} {m : α}
    (h : (checkSize payload.length >>= fun _ ↦ readPayload α complaint payload) = .ok (some m)) :
    Payload.decode? payload = some m := by
  cases hs : checkSize payload.length with
  | error f =>
    rw [hs] at h
    cases h
  | ok _ =>
    rw [hs] at h
    exact read_of_readPayload h

theorem read_of_opened {cipher : Option Cipher} {sender : Option Identity} {word : Int32}
    {payload : Bytes} {m : α} (h : opened α complaint cipher sender word payload = .ok (some m)) :
    ∃ plain, Payload.decode? plain = some m := by
  unfold opened at h
  split at h
  · exact ⟨payload, read_of_checked h⟩
  · split at h
    · cases h
    · cases h
    · next cipher sender =>
      cases hd : (cipher.decrypt payload sender).mapError EnvelopeError.cipher with
      | error f =>
        rw [hd] at h
        cases h
      | ok plain =>
        rw [hd] at h
        exact ⟨plain, read_of_checked h⟩
  · cases h

/-- Whatever an envelope says was read, by itself or after it was decrypted. -/
theorem read_of_decode {cipher : Option Cipher} {sender : Option Identity} {buffer : Bytes} {m : α}
    (h : decode α complaint cipher sender buffer = .ok (some m)) :
    ∃ payload, Payload.decode? payload = some m := by
  rw [decode_eq_opened] at h
  cases hs : checkSize buffer.length with
  | error f =>
    rw [hs] at h
    cases h
  | ok _ =>
    rw [hs] at h
    cases hh : readHeader buffer with
    | error f =>
      rw [hh] at h
      cases h
    | ok wp =>
      rw [hh] at h
      exact read_of_opened h

/-- Why a reader, whose cipher and whose sender may be missing, does not read what was encrypted. -/
inductive Unread (cipher : Option Cipher) (sender : Option Identity) : EnvelopeError → Prop where
  | noCipher (missing : cipher = none) : Unread cipher sender .noCipher
  | cipher (present : cipher.isSome) (known : sender.isSome) (e : CipherError) :
      Unread cipher sender (.cipher e)

theorem opened_error {cipher : Option Cipher} {sender : Option Identity} {word : Int32}
    {payload : Bytes} {e : EnvelopeError}
    (h : opened α complaint cipher sender word payload = .error e) :
    e.isMalformed = true ∨ Mode.ofWire? word = some .encrypted ∧ Unread cipher sender e := by
  unfold opened at h
  split at h
  · exact .inl (isMalformed_of_checked h)
  · next hw =>
    split at h
    · cases h
      exact .inr ⟨hw, .noCipher rfl⟩
    · cases h
    · next cipher sender =>
      cases hd : cipher.decrypt payload sender with
      | error c =>
        rw [hd] at h
        cases h
        exact .inr ⟨hw, .cipher rfl rfl c⟩
      | ok plain =>
        rw [hd] at h
        exact .inl (isMalformed_of_checked h)
  · cases h

/-- A buffer that is not understood is malformed, or it was encrypted. -/
theorem decode_error {cipher : Option Cipher} {sender : Option Identity} {buffer : Bytes}
    {e : EnvelopeError} (h : decode α complaint cipher sender buffer = .error e) :
    e.isMalformed = true ∨
      peekMode buffer = .ok (some .encrypted) ∧ Unread cipher sender e := by
  rw [decode_eq_opened] at h
  cases hs : checkSize buffer.length with
  | error f =>
    rw [hs] at h
    cases h
    exact .inl (isMalformed_of_checkSize hs)
  | ok _ =>
    rw [hs] at h
    cases hh : readHeader buffer with
    | error f =>
      rw [hh] at h
      cases h
      exact .inl (isMalformed_of_readHeader hh)
    | ok wp =>
      rw [hh] at h
      refine (opened_error h).imp_right fun ⟨hw, hu⟩ ↦ ⟨?_, hu⟩
      rw [peekMode, hh]
      exact congrArg Except.ok hw

theorem decode_error_cipher {cipher : Option Cipher} {sender : Option Identity} {buffer : Bytes}
    {e : CipherError} (h : decode α complaint cipher sender buffer = .error (.cipher e)) :
    cipher.isSome ∧ sender.isSome := by
  obtain hm | ⟨-, hu⟩ := decode_error h
  · cases hm
  · cases hu with
    | cipher present known => exact ⟨present, known⟩

/-- A reader lacks a cipher exactly when it has none for an envelope that was encrypted. -/
theorem decode_eq_noCipher_iff {cipher : Option Cipher} {sender : Option Identity}
    {buffer : Bytes} :
    decode α complaint cipher sender buffer = .error .noCipher ↔
      cipher = none ∧ buffer.length ≤ maxSize ∧ peekMode buffer = .ok (some .encrypted) := by
  constructor
  · intro h
    have hs : buffer.length ≤ maxSize := by
      by_contra hs
      rw [decode_eq_opened, checkSize_of_lt (Nat.lt_of_not_le hs)] at h
      cases h
    obtain hm | ⟨hm, hu⟩ := decode_error h
    · cases hm
    · cases hu with
      | noCipher missing => exact ⟨missing, hs, hm⟩
  · rintro ⟨rfl, hs, hm⟩
    unfold peekMode at hm
    cases hh : readHeader buffer with
    | error e =>
      rw [hh] at hm
      cases hm
    | ok wp =>
      rw [hh] at hm
      have hw : Mode.ofWire? wp.1 = some .encrypted := Except.ok.inj hm
      rw [decode_of_header hs hh, opened, hw]

end Envelope

end SealedSession
