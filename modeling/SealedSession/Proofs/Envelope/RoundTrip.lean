import SealedSession.Cipher.Pair
import SealedSession.Proofs.Envelope.Decoding
import SealedSession.Proofs.Message.RoundTrip

/-!
# Envelopes are opened as they were sealed

* `write_of_le`, `write_of_lt`: a payload gets its header, unless it is too large.
* `decode_encodePlain`: what was put into a plain envelope comes out of it, whoever reads it.
* `decode_inverted`: what was encrypted comes out for a receiver whose cipher undoes that.
* `Cipher.pair_inverts`: the pair ciphers of two parties are such ciphers.
* `plain_faithful`: every message that fits a plain envelope is sent, and read as it is to be.
-/

namespace SealedSession

/-- A payload of which the receiver learns all that was written. -/
class Payload.Faithful (α : Type) [Payload α] where
  /-- What the receiver learns. -/
  erased : α → α
  decode?_encode : ∀ m : α, Payload.decode? (Payload.encode m) = some (erased m)

instance : Payload.Faithful Request where
  erased := Request.erased
  decode?_encode := Request.decode?_encode

instance : Payload.Faithful Response where
  erased := Response.erased
  decode?_encode := Response.decode?_encode

/-- A ciphertext of the pair cipher is taken apart by the recipient that it names, as coming from the
sender that it names, and by nobody else. -/
theorem Cipher.Pair.disclose_enclose (a b r : Uuid) (s : Identity) (plain : Bytes) :
    disclose s r (enclose a b plain) =
      if s.owner = a ∧ r = b then .ok plain else .error (.decrypt ("no session with " ++ s.text)) := by
  have hl : ¬(enclose a b plain).length < headLength := by
    rw [length_enclose, headLength]
    omega
  have hs : (enclose a b plain).take 16 = a.bytes := List.take_left' a.length_bytes
  have ht : (enclose a b plain).drop 16 = b.bytes ++ masked plain := List.drop_left' a.length_bytes
  have hr : ((enclose a b plain).drop 16).take 16 = b.bytes := by
    rw [ht, List.take_left' b.length_bytes]
  have hp : (enclose a b plain).drop headLength = masked plain := by
    rw [headLength, show 32 = 16 + 16 from rfl, ← List.drop_drop, ht,
      List.drop_left' b.length_bytes]
  have hn : a.bytes = s.owner.bytes ∧ b.bytes = r.bytes ↔ s.owner = a ∧ r = b := by
    rw [Uuid.bytes_inj, Uuid.bytes_inj]
    exact and_congr eq_comm eq_comm
  rw [disclose, if_neg hl, hs, hr, hp, masked_masked]
  simp only [hn]

/-- What a party encrypts for another by the pair cipher, the other decrypts; only the owners of
the two count. -/
theorem Cipher.pair_inverts {a a' b b' : Identity} (ha : a.owner = a'.owner)
    (hb : b.owner = b'.owner) : (pair b).Inverts a' (pair a) b' := by
  intro plain sealed h
  cases h
  exact (Pair.disclose_enclose _ _ _ a' plain).trans (if_pos ⟨ha.symm, hb⟩)

namespace Envelope

/-- The header of an envelope. -/
def header : Mode → Bytes
  | .plain => [0, 0, 0, 0x22, 0, 0, 0, 2, 0, 0, 0xC0, 1]
  | .encrypted => [0, 0, 0, 0x22, 0, 0, 0, 2, 0, 0x0B, 0xA5, 0xED]

theorem header_plain : header .plain = [0, 0, 0, 0x22, 0, 0, 0, 2, 0, 0, 0xC0, 1] := rfl

/-- It consists of the three words that are written. -/
theorem header_eq (mode : Mode) :
    header mode = Word.toBytes marker ++ Word.toBytes version ++ Word.toBytes mode.toWire := by
  cases mode with
  | plain => decide
  | encrypted => decide

@[simp] theorem length_header (mode : Mode) : (header mode).length = headerLength := by
  cases mode with
  | plain => rfl
  | encrypted => rfl

/-- A payload is written behind its header if the two fit. -/
theorem write_eq (mode : Mode) (payload : Bytes) : write mode payload =
    (checkSize (headerLength + payload.length)).map fun _ ↦ header mode ++ payload := by
  have hl : (header mode ++ payload).length = headerLength + payload.length := by
    rw [List.length_append, length_header]
  rw [← hl, header_eq]
  rfl

theorem write_of_le {mode : Mode} {payload : Bytes} (h : headerLength + payload.length ≤ maxSize) :
    write mode payload = .ok (header mode ++ payload) := by
  rw [write_eq, checkSize_of_le h]
  rfl

theorem write_of_lt {mode : Mode} {payload : Bytes} (h : maxSize < headerLength + payload.length) :
    write mode payload = .error (.tooLarge (headerLength + payload.length) maxSize) := by
  rw [write_eq, checkSize_of_lt h]
  rfl

/-- What was written fits an envelope, and is its header and its payload. -/
theorem write_ok {mode : Mode} {payload bytes : Bytes} (h : write mode payload = .ok bytes) :
    headerLength + payload.length ≤ maxSize ∧ bytes = header mode ++ payload := by
  by_cases hs : headerLength + payload.length ≤ maxSize
  · rw [write_of_le hs] at h
    cases h
    exact ⟨hs, rfl⟩
  · rw [write_of_lt (Nat.lt_of_not_le hs)] at h
    cases h

theorem isMalformed_of_write {mode : Mode} {payload : Bytes} {e : EnvelopeError}
    (h : write mode payload = .error e) : e.isMalformed = true := by
  by_cases hs : headerLength + payload.length ≤ maxSize
  · rw [write_of_le hs] at h
    cases h
  · rw [write_of_lt (Nat.lt_of_not_le hs)] at h
    cases h
    rfl

theorem readHeader_cons (a b c d : UInt8) (payload : Bytes) :
    readHeader ([0, 0, 0, 0x22, 0, 0, 0, 2, a, b, c, d] ++ payload) =
      .ok (Word.ofBytes a b c d, payload) := by
  have hm : ¬Word.ofBytes 0 0 0 0x22 ≠ marker := by decide
  have hv : ¬Word.ofBytes 0 0 0 2 ≠ version := by decide
  unfold readHeader
  rw [if_neg (by simp [headerLength])]
  simp only [List.cons_append, List.nil_append]
  rw [if_neg hm, if_neg hv]

/-- The header of a written envelope is read back. -/
theorem readHeader_header (mode : Mode) (payload : Bytes) :
    readHeader (header mode ++ payload) = .ok (mode.toWire, payload) := by
  have hw : Word.ofBytes 0 0 0xC0 1 = Mode.plain.toWire ∧
    Word.ofBytes 0 0x0B 0xA5 0xED = Mode.encrypted.toWire := by decide
  cases mode with
  | plain => rw [header, readHeader_cons, hw.1]
  | encrypted => rw [header, readHeader_cons, hw.2]

variable {α : Type} [Payload α] {complaint : Bytes → String}

/-- A written envelope fits. -/
theorem length_header_append {mode : Mode} {payload : Bytes}
    (h : headerLength + payload.length ≤ maxSize) : (header mode ++ payload).length ≤ maxSize := by
  rw [List.length_append, length_header]
  exact h

/-- A plain envelope is read by everybody. -/
theorem decode_plain (cipher : Option Cipher) (sender : Option Identity) {payload : Bytes}
    (h : headerLength + payload.length ≤ maxSize) :
    decode α complaint cipher sender (header .plain ++ payload) =
      readPayload α complaint payload := by
  rw [decode_of_header (length_header_append h) (readHeader_header .plain payload), opened.eq_def,
    Mode.ofWire?_toWire]
  dsimp only
  rw [checkSize_of_le (by omega)]
  rfl

theorem readPayload_encode [Payload.Faithful α] (m : α) :
    readPayload α complaint (Payload.encode m) = .ok (some (Payload.Faithful.erased m)) := by
  rw [readPayload, Payload.Faithful.decode?_encode]

/-- A message that fits a plain envelope comes out of it, whoever reads it. -/
theorem decode_encodePlain [Payload.Faithful α] {m : α} {bytes : Bytes}
    (h : encodePlain m = .ok bytes) (cipher : Option Cipher) (sender : Option Identity) :
    decode α complaint cipher sender bytes = .ok (some (Payload.Faithful.erased m)) := by
  obtain ⟨hs, rfl⟩ := write_ok h
  rw [decode_plain cipher sender hs, readPayload_encode]

/-- An envelope is plain for one message only, as far as receivers learn it. -/
theorem erased_eq_of_encodePlain [Payload.Faithful α] {m m' : α} {bytes : Bytes}
    (h : encodePlain m = .ok bytes) (h' : encodePlain m' = .ok bytes) :
    Payload.Faithful.erased m = Payload.Faithful.erased m' := by
  obtain ⟨-, rfl⟩ := write_ok h
  obtain ⟨-, he⟩ := write_ok h'
  have hd : (Payload.decode? (Payload.encode m) : Option α) = Payload.decode? (Payload.encode m') := by
    rw [List.append_cancel_left he]
  rw [Payload.Faithful.decode?_encode, Payload.Faithful.decode?_encode] at hd
  exact Option.some.inj hd

theorem encodeFor_of_encrypt {c : Cipher} {recipient : Identity} {m : α} {secret : Bytes}
    (h : c.encrypt (Payload.encode m) recipient = .ok secret) :
    encodeFor (some c) (some recipient) m = write .encrypted secret := by
  rw [encodeFor, h]
  rfl

/-- An encrypted envelope is its header and what the cipher of the sender made of the message. -/
theorem encodeFor_ok {m : α} {bytes : Bytes} {c : Cipher} {recipient : Identity}
    (h : encodeFor (some c) (some recipient) m = .ok bytes) :
    ∃ secret, c.encrypt (Payload.encode m) recipient = .ok secret ∧
      write .encrypted secret = .ok bytes := by
  cases he : c.encrypt (Payload.encode m) recipient with
  | error e =>
    rw [encodeFor, he] at h
    cases h
  | ok secret => exact ⟨secret, rfl, encodeFor_of_encrypt he ▸ h⟩

/-- A message that cannot be encrypted for somebody is too large, or its cipher gives up. -/
theorem encodeFor_error {c : Cipher} {recipient : Identity} {m : α} {e : EnvelopeError}
    (h : encodeFor (some c) (some recipient) m = .error e) :
    e.isMalformed = true ∨ ∃ x, e = .cipher x := by
  cases he : c.encrypt (Payload.encode m) recipient with
  | error x =>
    rw [encodeFor, he] at h
    cases h
    exact .inr ⟨x, rfl⟩
  | ok secret =>
    rw [encodeFor_of_encrypt he] at h
    exact .inl (isMalformed_of_write h)

/-- What was encrypted for a recipient comes out for it, if its cipher undoes the sender's, unless
the message is larger than an envelope may be. -/
theorem decode_inverted [Payload.Faithful α] {m : α} {bytes secret : Bytes} {c d : Cipher}
    {recipient sender : Identity} (he : c.encrypt (Payload.encode m) recipient = .ok secret)
    (hw : write .encrypted secret = .ok bytes) (hi : d.Inverts sender c recipient) :
    decode α complaint (some d) (some sender) bytes =
      if (Payload.encode m).length ≤ maxSize then .ok (some (Payload.Faithful.erased m))
      else .error (.tooLarge (Payload.encode m).length maxSize) := by
  obtain ⟨hs, rfl⟩ := write_ok hw
  rw [decode_of_header (length_header_append hs) (readHeader_header .encrypted secret),
    opened.eq_def, Mode.ofWire?_toWire]
  dsimp only
  rw [hi _ _ he]
  change (checkSize (Payload.encode m).length >>= fun _ ↦
    readPayload α complaint (Payload.encode m)) = _
  by_cases hl : (Payload.encode m).length ≤ maxSize
  · rw [checkSize_of_le hl, if_pos hl, ← readPayload_encode]
    rfl
  · rw [checkSize_of_lt (Nat.lt_of_not_le hl), if_neg hl]
    rfl

/-- Nothing is too large for its receiver if it is not longer than its ciphertext. -/
theorem decode_encodeFor [Payload.Faithful α] {m : α} {bytes : Bytes} {c d : Cipher}
    {recipient sender : Identity} (h : encodeFor (some c) (some recipient) m = .ok bytes)
    (hi : d.Inverts sender c recipient)
    (hl : ∀ plain sealed, c.encrypt plain recipient = .ok sealed → plain.length ≤ sealed.length) :
    decode α complaint (some d) (some sender) bytes = .ok (some (Payload.Faithful.erased m)) := by
  obtain ⟨secret, he, hw⟩ := encodeFor_ok h
  have hs := (write_ok hw).1
  have hp := hl _ _ he
  rw [decode_inverted he hw hi, if_pos (by omega)]

/-- What was encrypted by the pair cipher comes out for every receiver with the right owner who
knows the owner that sent it. -/
theorem decode_pair [Payload.Faithful α] {m : α} {bytes : Bytes} {a a' b b' : Identity}
    (ha : a.owner = a'.owner) (hb : b.owner = b'.owner)
    (h : encodeFor (some (.pair a)) (some b') m = .ok bytes) :
    decode α complaint (some (.pair b)) (some a') bytes = .ok (some (Payload.Faithful.erased m)) := by
  refine decode_encodeFor h (Cipher.pair_inverts ha hb) ?_
  intro plain sealed he
  cases he
  rw [Cipher.Pair.length_enclose]
  omega

/-- A message that fits is put into a plain envelope behind twelve bytes of header, and comes out
of it as its receiver is to learn it, whatever cipher and sender the receiver knows; one that does
not fit is refused. -/
theorem plain_faithful (complaint : Bytes → String) :
    (∀ (m : Request) (cipher : Option Cipher) (sender : Option Identity),
      let p := m.toJson.encode
      (12 + p.length ≤ 32767 →
        encodePlain m = .ok ([0, 0, 0, 0x22, 0, 0, 0, 2, 0, 0, 0xC0, 1] ++ p) ∧
        decode Request complaint cipher sender ([0, 0, 0, 0x22, 0, 0, 0, 2, 0, 0, 0xC0, 1] ++ p) =
          .ok (some m.erased)) ∧
      (32767 < 12 + p.length → encodePlain m = .error (.tooLarge (12 + p.length) 32767))) ∧
    (∀ (m : Response) (cipher : Option Cipher) (sender : Option Identity),
      let p := m.toJson.encode
      (12 + p.length ≤ 32767 →
        encodePlain m = .ok ([0, 0, 0, 0x22, 0, 0, 0, 2, 0, 0, 0xC0, 1] ++ p) ∧
        decode Response complaint cipher sender ([0, 0, 0, 0x22, 0, 0, 0, 2, 0, 0, 0xC0, 1] ++ p) =
          .ok (some m.erased)) ∧
      (32767 < 12 + p.length → encodePlain m = .error (.tooLarge (12 + p.length) 32767))) := by
  constructor <;> intro m cipher sender p <;> rw [← header_plain]
  · have hw (h : 12 + p.length ≤ 32767) : encodePlain m = .ok (header .plain ++ p) := write_of_le h
    exact ⟨fun h ↦ ⟨hw h, decode_encodePlain (hw h) cipher sender⟩, fun h ↦ write_of_lt h⟩
  · have hw (h : 12 + p.length ≤ 32767) : encodePlain m = .ok (header .plain ++ p) := write_of_le h
    exact ⟨fun h ↦ ⟨hw h, decode_encodePlain (hw h) cipher sender⟩, fun h ↦ write_of_lt h⟩

end Envelope

end SealedSession
