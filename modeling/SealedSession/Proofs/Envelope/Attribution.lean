import SealedSession.Proofs.Envelope.RoundTrip

/-!
# Encrypted envelopes are attributed to a pair

An envelope that was encrypted by the pair cipher names the owner who sent it and the owner it is
for. It is read by the one as coming from the other, and refused in the cipher by everybody else: it
is never read as another message, never dropped, and never found to be malformed.

* `encodeFor_pair`: the two owners take up thirty-two bytes more than a plain envelope has.
* `decode_enclosed`: what any receiver makes of such an envelope, whomever it takes for the sender.
* `pair_attributed`: both together, for all requests and responses.
-/

namespace SealedSession.Envelope

variable {α : Type} [Payload α] {complaint : Bytes → String}

/-- The pair cipher never refuses, so that an envelope is refused for its size alone. -/
theorem encodeFor_pair (a b : Identity) (m : α) :
    encodeFor (some (.pair a)) (some b) m =
      write .encrypted (Cipher.Pair.enclose a.owner b.owner (Payload.encode m)) := rfl

/-- The receiver that an envelope names reads it as coming from the sender that it names; to any
other the cipher says that there is no session. -/
theorem decode_enclosed {a b : Uuid} {plain : Bytes}
    (h : headerLength + (Cipher.Pair.enclose a b plain).length ≤ maxSize) (s r : Identity) :
    decode α complaint (some (.pair r)) (some s) (header .encrypted ++ Cipher.Pair.enclose a b plain) =
      if s.owner = a ∧ r.owner = b then readPayload α complaint plain
      else .error (.cipher (.decrypt ("no session with " ++ s.text))) := by
  have hd : (Cipher.pair r).decrypt (Cipher.Pair.enclose a b plain) s =
      if s.owner = a ∧ r.owner = b then .ok plain
      else .error (.decrypt ("no session with " ++ s.text)) :=
    Cipher.Pair.disclose_enclose a b r.owner s plain
  rw [decode_of_header (length_header_append h) (readHeader_header .encrypted _), opened.eq_def,
    Mode.ofWire?_toWire]
  dsimp only
  rw [hd]
  by_cases hp : s.owner = a ∧ r.owner = b
  · have hl : plain.length ≤ maxSize := by
      rw [Cipher.Pair.length_enclose] at h
      omega
    rw [if_pos hp, if_pos hp]
    change (checkSize plain.length >>= fun _ ↦ readPayload α complaint plain) = _
    rw [checkSize_of_le hl]
    rfl
  · rw [if_neg hp, if_neg hp]
    rfl

/-- A message that fits an envelope with its two owners is encrypted, and then read by its pair. -/
theorem decode_sealed [Payload.Faithful α] {m : α} (a b s r : Identity)
    (h : 44 + (Payload.encode m).length ≤ 32767) :
    ∃ bytes, encodeFor (some (.pair a)) (some b) m = .ok bytes ∧
      decode α complaint (some (.pair r)) (some s) bytes =
        if s.owner = a.owner ∧ r.owner = b.owner then .ok (some (Payload.Faithful.erased m))
        else .error (.cipher (.decrypt ("no session with " ++ s.text))) := by
  have hl : headerLength + (Cipher.Pair.enclose a.owner b.owner (Payload.encode m)).length ≤
      maxSize := by
    rw [Cipher.Pair.length_enclose, headerLength, maxSize]
    omega
  refine ⟨_, (encodeFor_pair a b m).trans (write_of_le hl), ?_⟩
  rw [decode_enclosed hl, readPayload_encode]

/-- One that does not fit is refused, and its size told. -/
theorem encodeFor_pair_of_lt {m : α} (a b : Identity)
    (h : 32767 < 44 + (Payload.encode m).length) :
    encodeFor (some (.pair a)) (some b) m =
      .error (.tooLarge (44 + (Payload.encode m).length) 32767) := by
  have hl : headerLength + (Cipher.Pair.enclose a.owner b.owner (Payload.encode m)).length =
      44 + (Payload.encode m).length := by
    rw [Cipher.Pair.length_enclose, headerLength]
    omega
  rw [encodeFor_pair, write_of_lt (by rw [hl]; exact h), hl]
  rfl

/-- Whatever is encrypted by the pair cipher of `a` for `b` reaches exactly the receivers with the
owner of `b`, and them as coming from the owner of `a`, without access tokens. Everybody else is
told that there is no session. -/
theorem pair_attributed (complaint : Bytes → String) :
    (∀ (m : Request) (a b s r : Identity),
      let p := m.toJson.encode
      (44 + p.length ≤ 32767 →
        ∃ bytes, encodeFor (some (.pair a)) (some b) m = .ok bytes ∧
          decode Request complaint (some (.pair r)) (some s) bytes =
            if s.owner = a.owner ∧ r.owner = b.owner then .ok (some m.erased)
            else .error (.cipher (.decrypt ("no session with " ++ s.text)))) ∧
      (32767 < 44 + p.length →
        encodeFor (some (.pair a)) (some b) m = .error (.tooLarge (44 + p.length) 32767))) ∧
    (∀ (m : Response) (a b s r : Identity),
      let p := m.toJson.encode
      (44 + p.length ≤ 32767 →
        ∃ bytes, encodeFor (some (.pair a)) (some b) m = .ok bytes ∧
          decode Response complaint (some (.pair r)) (some s) bytes =
            if s.owner = a.owner ∧ r.owner = b.owner then .ok (some m.erased)
            else .error (.cipher (.decrypt ("no session with " ++ s.text)))) ∧
      (32767 < 44 + p.length →
        encodeFor (some (.pair a)) (some b) m = .error (.tooLarge (44 + p.length) 32767))) := by
  constructor <;> intro m a b s r p
  · exact ⟨fun h ↦ decode_sealed a b s r h, fun h ↦ encodeFor_pair_of_lt a b h⟩
  · exact ⟨fun h ↦ decode_sealed a b s r h, fun h ↦ encodeFor_pair_of_lt a b h⟩

end SealedSession.Envelope
