import Mathlib.Algebra.Group.Int.Defs
import Mathlib.Algebra.Group.Nat.Defs
import SealedSession.Proofs.Envelope.RoundTrip

/-!
# The frame of an envelope

What a buffer comes to is decided by its length, by the three words of its header, which are signed
and come with the most significant byte first, and by the ciphertext, if that is what follows. The
checks are made in one order, and the first that fails is what is reported.

* `Word.signed`: the number that four bytes spell; `Word.toInt_ofBytes` and `Word.toBytes_ofBytes`
  relate it to the words of a header.
* `readHeader_eq`: what a buffer that is long enough has for a header.
* `verdict`, `delivery`: all that decoding may come to, in the order of the checks;
  `decode_eq_verdict` says that it does.
* `write_of_readHeader`: a header of a known mode is read from nothing but what was written.
* `framing_exact`: these together.
-/

namespace SealedSession

namespace Word

/-- The number that bytes spell, the most significant one first. -/
def unsigned (bytes : Bytes) : Nat :=
  bytes.foldl (fun n b ↦ 256 * n + b.toNat) 0

/-- The number that four bytes spell in two's complement, the most significant one first. -/
def signed (bytes : Bytes) : Int :=
  if unsigned bytes < 2 ^ 31 then unsigned bytes else unsigned bytes - 2 ^ 32

section

variable (a b c d : UInt8)

theorem unsigned_four : unsigned [a, b, c, d] =
    a.toNat * 0x1000000 + b.toNat * 0x10000 + c.toNat * 0x100 + d.toNat := by
  simp only [unsigned, List.foldl]
  omega

theorem unsigned_four_lt : unsigned [a, b, c, d] < 2 ^ 32 := by
  have ha := a.toNat_lt
  have hb := b.toNat_lt
  have hc := c.toNat_lt
  have hd := d.toNat_lt
  rw [unsigned_four]
  omega

theorem toUInt32_ofBytes :
    (ofBytes a b c d).toUInt32 = UInt32.ofNat (unsigned [a, b, c, d]) := by
  rw [ofBytes, unsigned_four]
  rfl

/-- The word that four bytes spell is the number that they spell. -/
theorem toInt_ofBytes : (ofBytes a b c d).toInt = signed [a, b, c, d] := by
  have hlt := unsigned_four_lt a b c d
  change (ofBytes a b c d).toUInt32.toBitVec.toInt = _
  rw [toUInt32_ofBytes, BitVec.toInt_eq_toNat_cond, UInt32.toNat_toBitVec,
    UInt32.toNat_ofNat_of_lt' hlt, signed]
  split <;> split <;> omega

theorem ofBytes_eq : ofBytes a b c d = .ofInt (signed [a, b, c, d]) := by
  rw [← toInt_ofBytes, Int32.ofInt_toInt]

theorem ofBytes_eq_iff (w : Int32) : ofBytes a b c d = w ↔ signed [a, b, c, d] = w.toInt := by
  rw [← toInt_ofBytes, Int32.toInt_inj]

/-- The bytes of a word spell nothing else. -/
theorem toBytes_ofBytes : toBytes (ofBytes a b c d) = [a, b, c, d] := by
  have ha := a.toNat_lt
  have hb := b.toNat_lt
  have hc := c.toNat_lt
  have hd := d.toNat_lt
  have hn : (ofBytes a b c d).toUInt32.toNat = unsigned [a, b, c, d] := by
    rw [toUInt32_ofBytes, UInt32.toNat_ofNat_of_lt' (unsigned_four_lt a b c d)]
  simp only [toBytes, hn, unsigned_four, List.cons.injEq, and_true, ← UInt8.toNat_inj,
    UInt8.toNat_ofNat']
  omega

end

end Word

namespace Envelope

/-- The word of a buffer that begins at a place, as a number. -/
def wordAt (i : Nat) (buffer : Bytes) : Int :=
  Word.signed ((buffer.drop i).take 4)

theorem wordAt_congr {buffer buffer' : Bytes} {i n : Nat} (hi : i + 4 ≤ n)
    (hb : buffer'.take n = buffer.take n) : wordAt i buffer' = wordAt i buffer := by
  have taken (b : Bytes) : (b.drop i).take 4 = ((b.take n).drop i).take 4 := by
    rw [List.drop_take, List.take_take, Nat.min_eq_left (by omega)]
  rw [wordAt, wordAt, taken buffer', hb, ← taken buffer]

theorem exists_word {l : Bytes} (h : 4 ≤ l.length) : ∃ a b c d rest, l = a :: b :: c :: d :: rest := by
  rcases l with _ | ⟨a, _ | ⟨b, _ | ⟨c, _ | ⟨d, rest⟩⟩⟩⟩
  all_goals first
    | exact ⟨_, _, _, _, _, rfl⟩
    | simp at h

theorem ofInt_wordAt_eq_iff {buffer : Bytes} {i : Nat} (h : i + 4 ≤ buffer.length) (w : Int32) :
    .ofInt (wordAt i buffer) = w ↔ wordAt i buffer = w.toInt := by
  obtain ⟨a, b, c, d, rest, hw⟩ := exists_word (l := buffer.drop i) (by simp; omega)
  have hs : wordAt i buffer = Word.signed [a, b, c, d] := by rw [wordAt, hw]; rfl
  rw [hs, ← Word.ofBytes_eq, Word.ofBytes_eq_iff]

/-- A buffer that is long enough is made of three words and a payload. -/
theorem exists_words {buffer : Bytes} (h : headerLength ≤ buffer.length) :
    ∃ a₀ a₁ a₂ a₃ b₀ b₁ b₂ b₃ c₀ c₁ c₂ c₃ payload,
      buffer = a₀ :: a₁ :: a₂ :: a₃ :: b₀ :: b₁ :: b₂ :: b₃ :: c₀ :: c₁ :: c₂ :: c₃ :: payload := by
  rw [headerLength] at h
  obtain ⟨a₀, a₁, a₂, a₃, rest, rfl⟩ := exists_word (l := buffer) (by omega)
  obtain ⟨b₀, b₁, b₂, b₃, rest, rfl⟩ := exists_word (l := rest) (by simp at h; omega)
  obtain ⟨c₀, c₁, c₂, c₃, rest, rfl⟩ := exists_word (l := rest) (by simp at h; omega)
  exact ⟨a₀, a₁, a₂, a₃, b₀, b₁, b₂, b₃, c₀, c₁, c₂, c₃, rest, rfl⟩

theorem toInt_marker : marker.toInt = 0x22 := by decide

theorem toInt_version : version.toInt = 2 := by decide

theorem readHeader_of_lt {buffer : Bytes} (h : buffer.length < headerLength) :
    readHeader buffer = .error (.truncated buffer.length) := by
  unfold readHeader
  rw [if_pos h]

/-- The marker comes first, then the version, then the mode. -/
theorem readHeader_eq {buffer : Bytes} (h : headerLength ≤ buffer.length) :
    readHeader buffer =
      if wordAt 0 buffer ≠ 0x22 then .error (.badMarker (.ofInt (wordAt 0 buffer)))
      else if wordAt 4 buffer ≠ 2 then .error (.unsupportedVersion (.ofInt (wordAt 4 buffer)))
      else .ok (.ofInt (wordAt 8 buffer), buffer.drop headerLength) := by
  obtain ⟨a₀, a₁, a₂, a₃, b₀, b₁, b₂, b₃, c₀, c₁, c₂, c₃, payload, rfl⟩ := exists_words h
  unfold readHeader
  rw [if_neg (Nat.not_lt.mpr h)]
  simp only [ne_eq, Word.ofBytes_eq_iff, toInt_marker, toInt_version]
  simp only [Word.ofBytes_eq, wordAt, headerLength, List.drop_succ_cons, List.drop_zero,
    List.take_succ_cons, List.take_zero]

/-- The word after the version names a mode, or it names none. -/
theorem ofWire?_wordAt {buffer : Bytes} {i : Nat} (h : i + 4 ≤ buffer.length) :
    Mode.ofWire? (.ofInt (wordAt i buffer)) =
      if wordAt i buffer = 0xC001 then some .plain
      else if wordAt i buffer = 0xBA5ED then some .encrypted else none := by
  have hp : (Mode.toWire .plain).toInt = 0xC001 := by decide
  have hs : (Mode.toWire .encrypted).toInt = 0xBA5ED := by decide
  simp only [Mode.ofWire?, ofInt_wordAt_eq_iff h, hp, hs]

/-- A header of a known mode is read from nothing but what was written. -/
theorem write_of_readHeader {buffer payload : Bytes} {word : Int32} {mode : Mode}
    (hs : buffer.length ≤ maxSize) (hh : readHeader buffer = .ok (word, payload))
    (hm : Mode.ofWire? word = some mode) : write mode payload = .ok buffer := by
  have hl : headerLength ≤ buffer.length := by
    by_contra hl
    rw [readHeader_of_lt (Nat.lt_of_not_le hl)] at hh
    cases hh
  have hw : word = mode.toWire := by
    unfold Mode.ofWire? at hm
    split at hm
    · next hp => cases hm; exact hp
    · split at hm
      · next he => cases hm; exact he
      · cases hm
  obtain ⟨a₀, a₁, a₂, a₃, b₀, b₁, b₂, b₃, c₀, c₁, c₂, c₃, rest, rfl⟩ := exists_words hl
  unfold readHeader at hh
  rw [if_neg (Nat.not_lt.mpr hl)] at hh
  dsimp only at hh
  split at hh
  · cases hh
  · next hmarker =>
    split at hh
    · cases hh
    · next hversion =>
      cases hh
      have hheader : header mode = [a₀, a₁, a₂, a₃, b₀, b₁, b₂, b₃, c₀, c₁, c₂, c₃] := by
        rw [header_eq, ← not_not.mp hmarker, ← not_not.mp hversion, ← hw]
        simp only [Word.toBytes_ofBytes, List.cons_append, List.nil_append]
      have hsize : headerLength + payload.length ≤ maxSize := by
        simp only [List.length_cons] at hs
        rw [headerLength]
        omega
      rw [write_of_le hsize, hheader]
      rfl

variable {α : Type} [Payload α] {complaint : Bytes → String}

theorem checked_eq (payload : Bytes) :
    (checkSize payload.length >>= fun _ ↦ readPayload α complaint payload) =
      if 32767 < payload.length then .error (.tooLarge payload.length 32767)
      else match Payload.decode? payload with
        | some m => .ok (some m)
        | none => .error (.unreadable (complaint payload)) := by
  by_cases h : maxSize < payload.length
  · rw [checkSize_of_lt h, if_pos (show 32767 < payload.length from h)]
    rfl
  · rw [checkSize_of_le (Nat.not_lt.mp h), if_neg (show ¬32767 < payload.length from h)]
    rfl

/-- What a payload comes to, by the number that stands for its mode. -/
def delivery (α : Type) [Payload α] (complaint : Bytes → String) (cipher : Option Cipher)
    (sender : Option Identity) (mode : Int) (payload : Bytes) : Except EnvelopeError (Option α) :=
  if mode = 0xC001 then
    match Payload.decode? payload with
    | some m => .ok (some m)
    | none => .error (.unreadable (complaint payload))
  else if mode = 0xBA5ED then
    match cipher, sender with
    | none, _ => .error .noCipher
    | some _, none => .ok none
    | some cipher, some sender =>
      match cipher.decrypt payload sender with
      | .error e => .error (.cipher e)
      | .ok plain =>
        if 32767 < plain.length then .error (.tooLarge plain.length 32767)
        else match Payload.decode? plain with
          | some m => .ok (some m)
          | none => .error (.unreadable (complaint plain))
  else .ok none

/-- What a buffer comes to: it fails the first check that it does not pass, or its payload is
delivered. -/
def verdict (α : Type) [Payload α] (complaint : Bytes → String) (cipher : Option Cipher)
    (sender : Option Identity) (buffer : Bytes) : Except EnvelopeError (Option α) :=
  if 32767 < buffer.length then .error (.tooLarge buffer.length 32767)
  else if buffer.length < 12 then .error (.truncated buffer.length)
  else if wordAt 0 buffer ≠ 0x22 then .error (.badMarker (.ofInt (wordAt 0 buffer)))
  else if wordAt 4 buffer ≠ 2 then .error (.unsupportedVersion (.ofInt (wordAt 4 buffer)))
  else delivery α complaint cipher sender (wordAt 8 buffer) (buffer.drop 12)

theorem opened_eq (cipher : Option Cipher) (sender : Option Identity) {buffer : Bytes}
    (hl : headerLength ≤ buffer.length) (hs : buffer.length ≤ maxSize) :
    opened α complaint cipher sender (.ofInt (wordAt 8 buffer)) (buffer.drop headerLength) =
      delivery α complaint cipher sender (wordAt 8 buffer) (buffer.drop 12) := by
  rw [opened.eq_def, delivery.eq_def, ofWire?_wordAt (show 8 + 4 ≤ buffer.length from hl)]
  by_cases hp : wordAt 8 buffer = 0xC001
  · have hd : ¬32767 < (buffer.drop headerLength).length := by
      rw [maxSize] at hs
      rw [List.length_drop]
      omega
    rw [if_pos hp, if_pos hp]
    dsimp only
    rw [checked_eq, if_neg hd]
    rfl
  · rw [if_neg hp, if_neg hp]
    by_cases he : wordAt 8 buffer = 0xBA5ED
    · rw [if_pos he, if_pos he]
      cases cipher with
      | none => rfl
      | some cipher =>
        cases sender with
        | none => rfl
        | some sender =>
          change ((cipher.decrypt (buffer.drop 12) sender).mapError EnvelopeError.cipher >>=
            fun plain ↦ checkSize plain.length >>= fun _ ↦ readPayload α complaint plain) = _
          dsimp only
          cases cipher.decrypt (buffer.drop 12) sender with
          | error e => rfl
          | ok plain => exact checked_eq plain
    · rw [if_neg he, if_neg he]

theorem decode_eq_verdict (cipher : Option Cipher) (sender : Option Identity) (buffer : Bytes) :
    decode α complaint cipher sender buffer = verdict α complaint cipher sender buffer := by
  rw [verdict]
  rw [decode_eq_opened]
  by_cases hs : 32767 < buffer.length
  · rw [if_pos hs, checkSize_of_lt hs]
    rfl
  · have hs' : buffer.length ≤ maxSize := Nat.not_lt.mp hs
    rw [if_neg hs, checkSize_of_le hs']
    by_cases hl : buffer.length < 12
    · rw [if_pos hl, readHeader_of_lt hl]
      rfl
    · have hl' : headerLength ≤ buffer.length := Nat.not_lt.mp hl
      rw [if_neg hl, readHeader_eq hl']
      by_cases hm : wordAt 0 buffer ≠ 0x22
      · rw [if_pos hm, if_pos hm]
        rfl
      · rw [if_neg hm, if_neg hm]
        by_cases hv : wordAt 4 buffer ≠ 2
        · rw [if_pos hv, if_pos hv]
          rfl
        · rw [if_neg hv, if_neg hv]
          exact opened_eq cipher sender hl' hs'

/-- A buffer that is at fault itself, be it for its length, its marker or its version, comes to the
same as every other buffer of that length with the same bytes up to the fault, whoever reads it. -/
theorem decode_congr_fault {buffer buffer' : Bytes} (hl : buffer'.length = buffer.length)
    (h : 32767 < buffer.length ∨ buffer.length < 12 ∨
      buffer'.take 4 = buffer.take 4 ∧ wordAt 0 buffer ≠ 0x22 ∨
      buffer'.take 8 = buffer.take 8 ∧ wordAt 4 buffer ≠ 2)
    (cipher cipher' : Option Cipher) (sender sender' : Option Identity) :
    decode α complaint cipher' sender' buffer' = decode α complaint cipher sender buffer := by
  rw [decode_eq_verdict, decode_eq_verdict, verdict, verdict, hl]
  by_cases hs : 32767 < buffer.length
  · rw [if_pos hs, if_pos hs]
  · rw [if_neg hs, if_neg hs]
    by_cases ht : buffer.length < 12
    · rw [if_pos ht, if_pos ht]
    · rw [if_neg ht, if_neg ht]
      obtain h | h | ⟨hb, hm⟩ | ⟨hb, hv⟩ := h
      · exact absurd h hs
      · exact absurd h ht
      · rw [wordAt_congr (i := 0) (Nat.le_refl _) hb, if_pos hm, if_pos hm]
      · rw [wordAt_congr (i := 0) (by omega) hb, wordAt_congr (i := 4) (Nat.le_refl _) hb]
        by_cases hm : wordAt 0 buffer ≠ 0x22
        · rw [if_pos hm, if_pos hm]
        · rw [if_neg hm, if_neg hm, if_pos hv, if_pos hv]

/-- The frame of an envelope is exact. Every buffer comes to what the first check says that it fails,
and to what its mode makes of its payload if it passes all of them; the words of the header count as
the signed numbers that their bytes spell. What is wrong with the length or with the first two words
is reported whatever else is in the buffer and whoever reads it. And a header is read from a buffer
that fits exactly as it was written. -/
theorem framing_exact (α : Type) [Payload α] (complaint : Bytes → String) :
    (∀ (cipher : Option Cipher) (sender : Option Identity) (buffer : Bytes),
      decode α complaint cipher sender buffer = verdict α complaint cipher sender buffer) ∧
    (∀ buffer : Bytes, 12 ≤ buffer.length → ∀ i ∈ [0, 4, 8],
      (Int32.ofInt (wordAt i buffer)).toInt = wordAt i buffer) ∧
    (∀ (cipher cipher' : Option Cipher) (sender sender' : Option Identity) (buffer buffer' : Bytes),
      buffer'.length = buffer.length →
      32767 < buffer.length ∨ buffer.length < 12 ∨
        buffer'.take 4 = buffer.take 4 ∧ wordAt 0 buffer ≠ 0x22 ∨
        buffer'.take 8 = buffer.take 8 ∧ wordAt 4 buffer ≠ 2 →
      decode α complaint cipher' sender' buffer' = decode α complaint cipher sender buffer) ∧
    (∀ (mode : Mode) (payload : Bytes),
      if 12 + payload.length ≤ 32767 then
        ∃ buffer, write mode payload = .ok buffer ∧ readHeader buffer = .ok (mode.toWire, payload)
      else write mode payload = .error (.tooLarge (12 + payload.length) 32767)) ∧
    (∀ (buffer payload : Bytes) (word : Int32) (mode : Mode), buffer.length ≤ 32767 →
      readHeader buffer = .ok (word, payload) → Mode.ofWire? word = some mode →
      write mode payload = .ok buffer) := by
  refine ⟨decode_eq_verdict, ?_, ?_, ?_, ?_⟩
  · intro buffer hl i hi
    have hi : i + 4 ≤ buffer.length := by
      simp only [List.mem_cons, List.not_mem_nil, or_false] at hi
      omega
    exact ((ofInt_wordAt_eq_iff hi _).mp rfl).symm
  · intro cipher cipher' sender sender' buffer buffer' hl h
    exact decode_congr_fault hl h cipher cipher' sender sender'
  · intro mode payload
    split
    · next h => exact ⟨header mode ++ payload, write_of_le h, readHeader_header mode payload⟩
    · next h => exact write_of_lt (Nat.lt_of_not_le h)
  · intro buffer payload word mode hs hh hm
    exact write_of_readHeader hs hh hm

end Envelope

end SealedSession
