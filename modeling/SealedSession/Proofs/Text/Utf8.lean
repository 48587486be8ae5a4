import SealedSession.Text.Utf8

/-!
# What is written in UTF-8 is read back

* `head?_append`: the character at the head of a text is found, whatever follows it.
* `scan_encode`: a written text is read as its characters, without a stray byte.
-/

namespace SealedSession.Utf8

theorem toNat_ofNat_of_lt {n : Nat} (h : n < 256) : (UInt8.ofNat n).toNat = n := by
  simp [Nat.mod_eq_of_lt h]

/-- A continuation byte gives its six bits. -/
theorem continuation?_ofNat (n : Nat) :
    continuation? (UInt8.ofNat (n % 0x40 + 0x80)) = some (n % 0x40) := by
  have hb : (UInt8.ofNat (n % 0x40 + 0x80)).toNat = n % 0x40 + 0x80 :=
    toNat_ofNat_of_lt (by omega)
  unfold continuation?
  rw [if_pos, hb]
  · simp
  · simp only [UInt8.le_iff_toNat_le, UInt8.lt_iff_toNat_lt, hb]
    exact ⟨by simp, by simp; omega⟩

/-- A character is a scalar value. -/
theorem scalar?_val {least : Nat} (c : Char) (h : least ≤ c.val.toNat) :
    scalar? least c.val.toNat = some c := by
  unfold scalar?
  rw [if_pos ⟨h, c.valid⟩]
  exact congrArg some (Char.ofNat_toNat c)

section

variable (a : UInt8) (rest : Bytes)

theorem head?_one (h : a.toNat < 0x80) :
    head? (a :: rest) = some (Char.ofNat a.toNat, 1) := by
  rcases rest with _ | ⟨_, _ | ⟨_, _ | ⟨_, _⟩⟩⟩ <;>
    rw [head?, if_pos (UInt8.lt_iff_toNat_lt.mpr h)] <;> simp

theorem head?_two {b : UInt8} {y : Nat} {c : Char} (h : 0xC0 ≤ a.toNat) (h' : a.toNat < 0xE0)
    (hb : continuation? b = some y)
    (hs : scalar? 0x80 ((a.toNat - 0xC0) * 0x40 + y) = some c) :
    head? (a :: b :: rest) = some (c, 2) := by
  simp only [head?, UInt8.lt_iff_toNat_lt, UInt8.reduceToNat]
  rw [if_neg (by omega), if_neg (by omega), if_pos h']
  exact Option.bind_eq_some_iff.mpr ⟨y, hb, Option.bind_eq_some_iff.mpr ⟨c, hs, rfl⟩⟩

theorem head?_three {b b' : UInt8} {y z : Nat} {c : Char} (h : 0xE0 ≤ a.toNat)
    (h' : a.toNat < 0xF0) (hb : continuation? b = some y) (hb' : continuation? b' = some z)
    (hs : scalar? 0x800 ((a.toNat - 0xE0) * 0x1000 + y * 0x40 + z) = some c) :
    head? (a :: b :: b' :: rest) = some (c, 3) := by
  simp only [head?, UInt8.lt_iff_toNat_lt, UInt8.reduceToNat]
  rw [if_neg (by omega), if_neg (by omega), if_neg (by omega), if_pos h']
  exact Option.bind_eq_some_iff.mpr ⟨y, hb, Option.bind_eq_some_iff.mpr ⟨z, hb',
    Option.bind_eq_some_iff.mpr ⟨c, hs, rfl⟩⟩⟩

theorem head?_four {b b' b'' : UInt8} {y z w : Nat} {c : Char} (h : 0xF0 ≤ a.toNat)
    (h' : a.toNat < 0xF8) (hb : continuation? b = some y) (hb' : continuation? b' = some z)
    (hb'' : continuation? b'' = some w)
    (hs : scalar? 0x10000 ((a.toNat - 0xF0) * 0x40000 + y * 0x1000 + z * 0x40 + w) = some c) :
    head? (a :: b :: b' :: b'' :: rest) = some (c, 4) := by
  simp only [head?, UInt8.lt_iff_toNat_lt, UInt8.reduceToNat]
  rw [if_neg (by omega), if_neg (by omega), if_neg (by omega), if_neg (by omega), if_pos h']
  exact Option.bind_eq_some_iff.mpr ⟨y, hb, Option.bind_eq_some_iff.mpr ⟨z, hb',
    Option.bind_eq_some_iff.mpr ⟨w, hb'', Option.bind_eq_some_iff.mpr ⟨c, hs, rfl⟩⟩⟩⟩

end

/-- The character at the head of a written text is found. -/
theorem head?_append (c : Char) (rest : Bytes) :
    head? (String.utf8EncodeChar c ++ rest) = some (c, (String.utf8EncodeChar c).length) := by
  obtain ⟨n, hc⟩ : ∃ n, c.val.toNat = n := ⟨_, rfl⟩
  have hv : n < 0x110000 := by
    rw [← hc]
    rcases c.valid with h | h
    · exact Nat.lt_trans h (by decide)
    · exact h.2
  have hs {least : Nat} (h : least ≤ n) : scalar? least n = some c := by
    rw [← hc]
    exact scalar?_val c (hc ▸ h)
  simp only [String.utf8EncodeChar, hc]
  -- one case for each length of a sequence
  by_cases h₁ : n ≤ 0x7f
  · have ha : (UInt8.ofNat n).toNat = n := toNat_ofNat_of_lt (by omega)
    rw [if_pos h₁, List.singleton_append, head?_one _ _ (by omega), ha, ← hc]
    exact congrArg (fun d ↦ some (d, 1)) (Char.ofNat_toNat c)
  · rw [if_neg h₁]
    by_cases h₂ : n ≤ 0x7ff
    · have ha := toNat_ofNat_of_lt (n := n / 64 % 0x20 + 0xc0) (by omega)
      have hn : n / 64 % 0x20 * 0x40 + n % 0x40 = n := by omega
      rw [if_pos h₂]
      refine head?_two _ _ (by omega) (by omega) (continuation?_ofNat _) ?_
      rw [ha, Nat.add_sub_cancel, hn]
      exact hs (by omega)
    · rw [if_neg h₂]
      by_cases h₃ : n ≤ 0xffff
      · have ha := toNat_ofNat_of_lt (n := n / 4096 % 0x10 + 0xe0) (by omega)
        have hn : n / 4096 % 0x10 * 0x1000 + n / 64 % 0x40 * 0x40 + n % 0x40 = n := by omega
        rw [if_pos h₃]
        refine head?_three _ _ (by omega) (by omega) (continuation?_ofNat _)
          (continuation?_ofNat _) ?_
        rw [ha, Nat.add_sub_cancel, hn]
        exact hs (by omega)
      · have ha := toNat_ofNat_of_lt (n := n / 262144 % 0x08 + 0xf0) (by omega)
        have hn : n / 262144 % 0x08 * 0x40000 + n / 4096 % 0x40 * 0x1000 +
            n / 64 % 0x40 * 0x40 + n % 0x40 = n := by omega
        rw [if_neg h₃]
        refine head?_four _ _ (by omega) (by omega) (continuation?_ofNat _)
          (continuation?_ofNat _) (continuation?_ofNat _) ?_
        rw [ha, Nat.add_sub_cancel, hn]
        exact hs (by omega)

/-- Every character takes a byte at least. -/
theorem length_le_length_encode (text : List Char) : text.length ≤ (encode text).length := by
  induction text with
  | nil => exact Nat.le_refl 0
  | cons c text ih =>
    have hc := c.utf8Size_pos
    rw [encode_cons, List.length_cons, List.length_append, String.length_utf8EncodeChar]
    omega

/-- Bytes of a character already read are passed over. -/
theorem scanOnto_append (done : List Unit) (seen rest : Bytes) :
    scanOnto done seen.length (seen ++ rest) = scanOnto done 0 rest := by
  induction seen with
  | nil => rfl
  | cons b seen ih => exact ih

theorem scanOnto_encode (done : List Unit) (text : List Char) :
    scanOnto done 0 (encode text) = done.reverse ++ text.map .char := by
  induction text generalizing done with
  | nil => simp [scanOnto]
  | cons c text ih =>
    obtain ⟨a, seen, hs⟩ := List.exists_cons_of_ne_nil (String.utf8EncodeChar_ne_nil (c := c))
    have hh := head?_append c (encode text)
    rw [hs, List.cons_append] at hh
    rw [encode_cons, hs, List.cons_append, scanOnto, hh]
    simp only [List.length_cons, Nat.add_sub_cancel, scanOnto_append, ih]
    simp

/-- A written text is read as its characters. -/
theorem scan_encode (text : List Char) : scan (encode text) = text.map .char :=
  scanOnto_encode [] text

end SealedSession.Utf8
