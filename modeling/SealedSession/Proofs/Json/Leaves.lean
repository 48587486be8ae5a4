import Mathlib.Tactic.SplitIfs
import SealedSession.Json.Number
import SealedSession.Json.Writer
import SealedSession.Proofs.Json.Grammar

/-!
# Texts and numbers are read as they were written

* `Piece.ofString`: what a reader sees of a written string, and `Piece.toString?_ofString`, that
  it still denotes the string.
* `spellsText_ofString`: the written string spells just that.
* `Literal.ofNat`, `Literal.spells_ofNat`: the same for the natural numbers.
-/

namespace SealedSession

theorem Hex.value?_digit {n : Nat} (h : n < 16) : Hex.value? (Hex.digit n) = some n := by
  have ha : ∀ k : Fin 16, Hex.value? (Hex.digit k) = some k.val := by decide
  exact ha ⟨n, h⟩

namespace Json

/-! ## Texts -/

namespace Piece

/-- What a written character is read as. Without an escape of their own, only the characters below
the space are written by their number. -/
def ofChar (c : Char) : Piece :=
  if c = '\x08' ∨ c = '\x0c' ∨ c = '\n' ∨ c = '\r' ∨ c = '\t' ∨ 0x20 ≤ c.toNat then .char c
  else .escaped c.toNat

/-- What a written string is read as. -/
def ofString (s : String) : List Piece := s.toList.map ofChar

theorem joinOnto_ofChar (done : List Char) (c : Char) (rest : List Piece) :
    joinOnto done (ofChar c :: rest) = joinOnto (c :: done) rest := by
  unfold ofChar
  split
  · rfl
  · next h =>
    have hc : c.toNat < 0x20 := by
      simp only [not_or] at h
      exact Nat.lt_of_not_le h.2.2.2.2.2
    rw [joinOnto.eq_def]
    dsimp only
    rw [if_pos (Or.inl (by omega)), Char.ofNat_toNat]

theorem joinOnto_map_ofChar (done cs : List Char) :
    joinOnto done (cs.map ofChar) = some (done.reverse ++ cs) := by
  induction cs generalizing done with
  | nil => simp [joinOnto]
  | cons c cs ih => rw [List.map_cons, joinOnto_ofChar, ih]; simp

/-- What is read of a written string denotes the string. -/
@[simp] theorem toString?_ofString (s : String) : toString? (ofString s) = some s := by
  rw [toString?, ofString, joinOnto_map_ofChar]
  simp

end Piece

/-- The characters that stand for one of a text spell what it is read as. -/
theorem spells_escaped (c : Char) : (Piece.ofChar c).Spells (escaped c) := by
  unfold escaped
  split_ifs with h₁ h₂ h₃ h₄ h₅ h₆ h₇ h₈
  · subst h₁; exact .short (by decide)
  · subst h₂; exact .short (by decide)
  · subst h₃; exact .short (by decide)
  · subst h₄; exact .short (by decide)
  · subst h₅; exact .short (by decide)
  · subst h₆; exact .short (by decide)
  · subst h₇; exact .short (by decide)
  · have hp : Piece.ofChar c = .escaped c.toNat := by
      rw [Piece.ofChar, if_neg]
      simp only [not_or]
      exact ⟨h₃, h₄, h₅, h₆, h₇, Nat.not_le_of_lt h₈⟩
    have hn : 16 * (16 * (16 * 0 + 0) + c.toNat / 16) + c.toNat % 16 = c.toNat := by omega
    rw [hp, show Piece.escaped c.toNat = .escaped (16 * (16 * (16 * 0 + 0) + c.toNat / 16) +
      c.toNat % 16) from congrArg _ hn.symm]
    exact .numeric rfl rfl (Hex.value?_digit (by omega)) (Hex.value?_digit (by omega))
  · have hp : Piece.ofChar c = .char c := by
      rw [Piece.ofChar, if_pos]
      simp only [h₃, h₄, h₅, h₆, h₇, false_or]
      exact Nat.le_of_not_lt h₈
    rw [hp]
    exact .plain (Nat.le_of_not_lt h₈) h₁ h₂

/-- A written string spells what it is read as. -/
theorem spellsText_ofString (s : String) :
    SpellsText (Piece.ofString s) (s.toList.flatMap escaped) := by
  rw [Piece.ofString]
  induction s.toList with
  | nil => exact .nil
  | cons c cs ih => exact .cons (spells_escaped c) ih

/-! ## Numbers -/

/-- A natural number as it is written. -/
def Literal.ofNat (n : Nat) : Literal :=
  ⟨false, (Nat.toDigits 10 n).map fun c ↦ c.toNat - 48, [], none⟩

namespace Literal

theorem digitsValue_ofNat (n : Nat) : digitsValue (ofNat n).whole = n := by
  rw [digitsValue, ofNat, List.foldl_map]
  exact Nat.ofDigitChars_ten_toDigits

theorem toNat?_ofNat (n : Nat) : (ofNat n).toNat? = some n := by
  rw [toNat?, digitsValue_ofNat]
  rfl

/-- A natural number of 64 bits is kept as an integer. -/
theorem number?_ofNat {n : Nat} (h : n ≤ limit) : (ofNat n).number? = some (.int n) := by
  have hi : (ofNat n).toInt? = some (n : Int) := by
    rw [toInt?, digitsValue_ofNat]
    simp [isWhole, ofNat, h]
  rw [number?, hi]

end Literal

/-- Only zero is written with a zero in front. -/
theorem exists_toDigits {n : Nat} (h : 0 < n) :
    ∃ c cs, Nat.toDigits 10 n = c :: cs ∧ c.toNat - 48 ≠ 0 := by
  induction n using Nat.strongRecOn with
  | ind n ih =>
    by_cases hn : n < 10
    · refine ⟨n.digitChar, [], Nat.toDigits_of_lt_base hn, ?_⟩
      rw [Nat.toNat_digitChar_sub_48_of_lt_ten hn]
      omega
    · obtain ⟨c, cs, hc, hz⟩ := ih (n / 10) (by omega) (by omega)
      refine ⟨c, cs ++ [(n % 10).digitChar], ?_, hz⟩
      rw [Nat.toDigits_of_base_le (by omega) (by omega), hc, List.cons_append]

theorem toNat_of_isDigit {c : Char} (h : c.isDigit = true) : 48 ≤ c.toNat ∧ c.toNat ≤ 57 := by
  simpa [Char.isDigit, UInt32.le_iff_toNat_le] using h

theorem digitChar_of_isDigit {c : Char} (h : c.isDigit = true) :
    (c.toNat - 48).digitChar = c := by
  obtain ⟨hl, hu⟩ := toNat_of_isDigit h
  have ha : ∀ k : Fin 10, Nat.digitChar k = Char.ofNat (k.val + 48) := by decide
  rw [ha ⟨c.toNat - 48, by omega⟩, Nat.sub_add_cancel hl, Char.ofNat_toNat]

namespace Literal

/-- The digits of a natural number spell it. -/
theorem spells_ofNat (n : Nat) : (ofNat n).Spells (Nat.toDigits 10 n) := by
  have hd : ∀ c ∈ Nat.toDigits 10 n, c.isDigit = true := fun c hc ↦
    Nat.isDigit_of_mem_toDigits (by omega) (by omega) hc
  have hs : digits ((Nat.toDigits 10 n).map fun c ↦ c.toNat - 48) = Nat.toDigits 10 n := by
    rw [digits, List.map_map]
    exact (List.map_congr_left fun c hc ↦ digitChar_of_isDigit (hd c hc)).trans
      (List.map_id _)
  obtain ⟨c, cs, hc, hz⟩ : ∃ c cs, Nat.toDigits 10 n = c :: cs ∧ (c.toNat - 48 = 0 → cs = []) := by
    by_cases hn : n = 0
    · subst hn
      exact ⟨'0', [], rfl, fun _ ↦ rfl⟩
    · obtain ⟨c, cs, hc, hz⟩ := exists_toDigits (Nat.pos_of_ne_zero hn)
      exact ⟨c, cs, hc, fun h ↦ absurd h hz⟩
  have hw : (Nat.toDigits 10 n).map (fun c ↦ c.toNat - 48) =
      (c.toNat - 48) :: cs.map fun c ↦ c.toNat - 48 := by rw [hc, List.map_cons]
  have hl : Spells ⟨false, (c.toNat - 48) :: cs.map fun c ↦ c.toNat - 48, [], none⟩ _ :=
    .mk ?small ?zero .absent .absent
  case small =>
    intro k hk
    rw [← hw, List.mem_map] at hk
    obtain ⟨d, hk, rfl⟩ := hk
    have := toNat_of_isDigit (hd d hk)
    omega
  case zero => exact fun h ↦ by rw [hz h]; rfl
  rw [← hw, hs] at hl
  simpa [ofNat] using hl

end Literal

end Json

end SealedSession
