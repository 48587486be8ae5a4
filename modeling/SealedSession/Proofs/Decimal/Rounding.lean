import Mathlib.Algebra.Order.Field.Power
import Mathlib.Data.Rat.Cast.Order
import Mathlib.Tactic.FieldSimp
import Mathlib.Tactic.Linarith
import Mathlib.Tactic.NormNum
import Mathlib.Tactic.Positivity
import Mathlib.Tactic.Ring
import SealedSession.Decimal.Binary64

/-!
# What a rounding does to a quotient

Doubles are compared as rationals. A quotient that does not exceed the largest double has a
nearest one, and that exceeds the quotient by half of its last place at most.

* `Binary64.exponentOf_spec`: a quotient has 53 bits at its exponent, or the exponent is the least.
* `Binary64.exists_ofRatio?`: the quotient is rounded to a double, and how large it may get.
* `Binary64.exists_mul?`, `Binary64.exists_div?`: the same for products and quotients of doubles.
-/

namespace SealedSession.Binary64

/-- The magnitude of a double. -/
def magnitude (x : Binary64) : ℚ := x.mantissa * 2 ^ x.exponent

/-- The largest double. -/
def largest : ℚ := (2 ^ 53 - 1) * 2 ^ 971

theorem magnitude_nonneg (x : Binary64) : 0 ≤ x.magnitude := by
  unfold magnitude
  positivity

theorem ratio_pos (x : Binary64) : 0 < x.ratio.2 := by
  unfold ratio
  split
  · exact Nat.one_pos
  · exact Nat.pow_pos (by decide)

theorem ratio_div (x : Binary64) : (x.ratio.1 : ℚ) / x.ratio.2 = x.magnitude := by
  unfold ratio magnitude
  split
  · next h =>
    obtain ⟨n, hn⟩ := Int.eq_ofNat_of_zero_le h
    simp [hn]
  · next h =>
    obtain ⟨n, hn⟩ := Int.eq_ofNat_of_zero_le (show 0 ≤ -x.exponent by omega)
    rw [show x.exponent = -(n : Int) by omega]
    simp [div_eq_mul_inv]

/-! ## Rounding to a natural -/

/-- A rounding moves a quotient by a half at most. -/
theorem roundDiv_near (num : Nat) {den : Nat} (hd : 0 < den) :
    2 * (roundDiv num den * den) ≤ 2 * num + den ∧ 2 * num ≤ 2 * (roundDiv num den * den) + den := by
  have h := Nat.div_add_mod num den
  have hr := Nat.mod_lt num hd
  have hm : den * (num / den) = num / den * den := Nat.mul_comm _ _
  unfold roundDiv
  dsimp only
  split
  · constructor <;> omega
  · split
    · rw [Nat.add_mul]
      constructor <;> omega
    · have hp : num / den % 2 * den ≤ den := by
        rcases Nat.mod_two_eq_zero_or_one (num / den) with h | h <;> rw [h] <;> omega
      rw [Nat.add_mul]
      constructor <;> omega

/-- A rounding does not pass a natural. -/
theorem roundDiv_le_of_le {num den k : Nat} (hd : 0 < den) (h : num ≤ k * den) :
    roundDiv num den ≤ k := by
  have hr := (roundDiv_near num hd).1
  have hk : 2 * (roundDiv num den * den) ≤ (2 * k + 1) * den := by
    rw [Nat.add_mul, Nat.mul_assoc]
    omega
  have hl : 2 * roundDiv num den ≤ 2 * k + 1 := by
    rw [← Nat.mul_assoc] at hk
    exact Nat.le_of_mul_le_mul_right hk hd
  omega

/-! ## The exponent of a quotient -/

theorem shifted_pos (num : Nat) {den : Nat} (hd : 0 < den) (e : Int) : 0 < (shifted num den e).2 := by
  unfold shifted
  split
  · exact Nat.mul_pos hd (Nat.pow_pos (by decide))
  · exact hd

theorem shifted_div (num den : Nat) (e : Int) :
    ((shifted num den e).1 : ℚ) / (shifted num den e).2 = num / den / 2 ^ e := by
  unfold shifted
  split
  · next h =>
    obtain ⟨n, rfl⟩ := Int.eq_ofNat_of_zero_le h
    simp [div_div]
  · next h =>
    obtain ⟨n, hn⟩ := Int.eq_ofNat_of_zero_le (show 0 ≤ -e by omega)
    rw [show e = -(n : Int) by omega]
    simp [div_eq_mul_inv]
    ring

variable {num den : Nat}

/-- The leading bits of a quotient, up to one. -/
theorem log2_bounds (hn : 0 < num) (hd : 0 < den) :
    (2 : ℚ) ^ ((num.log2 : Int) - den.log2 - 1) ≤ num / den ∧
      (num : ℚ) / den < 2 ^ ((num.log2 : Int) - den.log2 + 1) := by
  have hd₀ : (0 : ℚ) < den := by exact_mod_cast hd
  have hnl : (2 : ℚ) ^ (num.log2 : Int) ≤ num := by
    exact_mod_cast Nat.log2_self_le (by omega : num ≠ 0)
  have hnu : (num : ℚ) < 2 ^ ((num.log2 : Int) + 1) := by exact_mod_cast Nat.lt_log2_self (n := num)
  have hdl : (2 : ℚ) ^ (den.log2 : Int) ≤ den := by
    exact_mod_cast Nat.log2_self_le (by omega : den ≠ 0)
  have hdu : (den : ℚ) < 2 ^ ((den.log2 : Int) + 1) := by exact_mod_cast Nat.lt_log2_self (n := den)
  constructor
  · rw [le_div_iff₀ hd₀]
    calc (2 : ℚ) ^ ((num.log2 : Int) - den.log2 - 1) * den
        ≤ 2 ^ ((num.log2 : Int) - den.log2 - 1) * 2 ^ ((den.log2 : Int) + 1) := by gcongr
      _ = 2 ^ (num.log2 : Int) := by rw [← zpow_add₀ (by norm_num)]; congr 1; ring
      _ ≤ num := hnl
  · rw [div_lt_iff₀ hd₀]
    calc (num : ℚ) < 2 ^ ((num.log2 : Int) + 1) := hnu
      _ = 2 ^ ((num.log2 : Int) - den.log2 + 1) * 2 ^ (den.log2 : Int) := by
        rw [← zpow_add₀ (by norm_num)]; congr 1; ring
      _ ≤ 2 ^ ((num.log2 : Int) - den.log2 + 1) * den := by gcongr

theorem shifted_lt_iff (hd : 0 < den) (e : Int) :
    (shifted num den e).1 / (shifted num den e).2 < Nat.pow 2 52 ↔
      (num : ℚ) / den < 2 ^ (e + 52) := by
  have hs := shifted_pos num hd e
  have hs₀ : (0 : ℚ) < (shifted num den e).2 := by exact_mod_cast hs
  have he : (0 : ℚ) < 2 ^ e := by positivity
  have hp : (num : ℚ) / den = (shifted num den e).1 / (shifted num den e).2 * 2 ^ e := by
    rw [shifted_div]
    field_simp
  rw [Nat.div_lt_iff_lt_mul hs, hp, add_comm, zpow_add₀ (by norm_num), mul_lt_mul_iff_left₀ he,
    div_lt_iff₀ hs₀]
  exact_mod_cast Iff.rfl

/-- A quotient has 53 bits at its exponent, or fewer if that is the least one. -/
theorem exponentOf_spec (hn : 0 < num) (hd : 0 < den) :
    (num : ℚ) / den < 2 ^ (exponentOf num den + 53) ∧
      ((2 : ℚ) ^ (exponentOf num den + 52) ≤ num / den ∨ exponentOf num den = leastExponent) := by
  obtain ⟨hl, hu⟩ := log2_bounds hn hd
  obtain ⟨e, he⟩ : ∃ e : Int, e = (num.log2 : Int) - den.log2 - 52 := ⟨_, rfl⟩
  -- at the right exponent there are 53 bits
  obtain ⟨f, hf, hbits⟩ : ∃ f : Int, exponentOf num den = max f leastExponent ∧
      (2 : ℚ) ^ (f + 52) ≤ num / den ∧ (num : ℚ) / den < 2 ^ (f + 53) := by
    by_cases h : (num : ℚ) / den < 2 ^ (e + 52)
    · refine ⟨e - 1, ?_, ?_, ?_⟩
      · have hc := (shifted_lt_iff hd e).mpr h
        rw [exponentOf, ← he]
        exact congrArg (max · leastExponent) (if_pos hc)
      · rwa [show e - 1 + 52 = (num.log2 : Int) - den.log2 - 1 by omega]
      · rwa [show e - 1 + 53 = e + 52 by omega]
    · refine ⟨e, ?_, not_lt.mp h, ?_⟩
      · have hc := mt (shifted_lt_iff hd e).mp h
        rw [exponentOf, ← he]
        exact congrArg (max · leastExponent) (if_neg hc)
      · rwa [show e + 53 = (num.log2 : Int) - den.log2 + 1 by omega]
  rw [hf]
  rcases le_total f leastExponent with h | h
  · rw [max_eq_right h]
    refine ⟨hbits.2.trans_le ?_, .inr rfl⟩
    exact zpow_le_zpow_right₀ (by norm_num) (by omega)
  · rw [max_eq_left h]
    exact ⟨hbits.2, .inl hbits.1⟩

/-! ## Rounding to a double -/

theorem largest_lt : largest < 2 ^ (1024 : Int) := by
  rw [largest, show (1024 : Int) = ((53 + 971 : Nat) : Int) from rfl, zpow_natCast, pow_add]
  exact mul_lt_mul_of_pos_right (by norm_num) (by positivity)

theorem exponentOf_le (hn : 0 < num) (hd : 0 < den) (h : (num : ℚ) / den ≤ largest) :
    exponentOf num den ≤ greatestExponent := by
  obtain ⟨-, hl | hl⟩ := exponentOf_spec hn hd
  · have hp := (hl.trans h).trans_lt largest_lt
    have := (zpow_lt_zpow_iff_right₀ (by norm_num : (1 : ℚ) < 2)).mp hp
    rw [greatestExponent]
    omega
  · rw [hl]
    decide

/-- The mantissa that a quotient is rounded to at an exponent. -/
def mantissaAt (num den : Nat) (e : Int) : Nat :=
  roundDiv (shifted num den e).1 (shifted num den e).2

theorem mantissaAt_le {e : Int} {k : Nat} (hd : 0 < den) (h : (num : ℚ) / den ≤ k * 2 ^ e) :
    mantissaAt num den e ≤ k := by
  have hs := shifted_pos num hd e
  have hs₀ : (0 : ℚ) < (shifted num den e).2 := by exact_mod_cast hs
  refine roundDiv_le_of_le hs ?_
  have hk : ((shifted num den e).1 : ℚ) ≤ k * (shifted num den e).2 := by
    rw [← div_le_iff₀ hs₀, shifted_div, div_le_iff₀ (by positivity)]
    exact h
  exact_mod_cast hk

theorem mantissaAt_near (hd : 0 < den) (e : Int) :
    |(mantissaAt num den e : ℚ) * 2 ^ e - num / den| ≤ 2 ^ (e - 1) := by
  have hs₀ : (0 : ℚ) < (shifted num den e).2 := by exact_mod_cast shifted_pos num hd e
  have he : (0 : ℚ) < 2 ^ e := by positivity
  obtain ⟨hu, hl⟩ := roundDiv_near (shifted num den e).1 (shifted_pos num hd e)
  have hu : 2 * ((mantissaAt num den e : ℚ) * (shifted num den e).2) ≤
      2 * (shifted num den e).1 + (shifted num den e).2 := by exact_mod_cast hu
  have hl : (2 : ℚ) * (shifted num den e).1 ≤
      2 * (mantissaAt num den e * (shifted num den e).2) + (shifted num den e).2 := by
    exact_mod_cast hl
  have hm : |(mantissaAt num den e : ℚ) - num / den / 2 ^ e| ≤ 1 / 2 := by
    rw [← shifted_div, sub_div' hs₀.ne', abs_div, abs_of_pos hs₀, div_le_iff₀ hs₀, abs_le]
    constructor <;> linarith
  calc |(mantissaAt num den e : ℚ) * 2 ^ e - num / den|
      = |(mantissaAt num den e : ℚ) - num / den / 2 ^ e| * 2 ^ e := by
        rw [← abs_of_pos he, ← abs_mul, abs_of_pos he, sub_mul, div_mul_cancel₀ _ he.ne']
    _ ≤ 1 / 2 * 2 ^ e := by gcongr
    _ = 2 ^ (e - 1) := by
      rw [zpow_sub₀ (by norm_num), zpow_one]
      ring

/-- A quotient up to the largest double is rounded to a double, which differs from it by half of its
last place at most. -/
theorem exists_ofRatio? (negative : Bool) (hd : 0 < den) (h : (num : ℚ) / den ≤ largest) :
    ∃ x, ofRatio? negative num den = some x ∧
      |x.magnitude - num / den| ≤ num / den * 2 ^ (-53 : Int) + 2 ^ (-1075 : Int) := by
  by_cases hn : num = 0
  · refine ⟨zero negative, if_pos hn, ?_⟩
    rw [magnitude, zero, hn]
    norm_num
  obtain ⟨e, he⟩ : ∃ e, e = exponentOf num den := ⟨_, rfl⟩
  obtain ⟨hu, hl⟩ := exponentOf_spec (Nat.pos_of_ne_zero hn) hd
  have hg := exponentOf_le (Nat.pos_of_ne_zero hn) hd h
  rw [← he] at hu hl hg
  have hhalf : |(mantissaAt num den e : ℚ) * 2 ^ e - num / den| ≤
      num / den * 2 ^ (-53 : Int) + 2 ^ (-1075 : Int) := by
    refine (mantissaAt_near hd e).trans ?_
    rcases hl with hl | hl
    · have hb : (2 : ℚ) ^ (e - 1) ≤ num / den * 2 ^ (-53 : Int) := by
        rw [show e - 1 = e + 52 + -53 by ring, zpow_add₀ (by norm_num)]
        gcongr
      have hz : (0 : ℚ) ≤ 2 ^ (-1075 : Int) := by positivity
      linarith
    · rw [hl]
      have hz : (0 : ℚ) ≤ num / den * 2 ^ (-53 : Int) := by positivity
      exact le_add_of_nonneg_left hz
  by_cases hc : mantissaAt num den e = Nat.pow 2 53
  · have hlast : e < greatestExponent := by
      refine lt_of_le_of_ne hg fun heq ↦ ?_
      have hk : mantissaAt num den e ≤ 2 ^ 53 - 1 := by
        refine mantissaAt_le hd (h.trans_eq ?_)
        rw [heq, largest, greatestExponent]
        norm_num
      rw [hc] at hk
      exact absurd hk (by decide)
    refine ⟨⟨negative, Nat.pow 2 52, e + 1⟩, ?_, ?_⟩
    · have hb : ¬ greatestExponent < e + 1 := by omega
      simp only [mantissaAt] at hc
      simp only [ofRatio?, if_neg hn, ← he, if_pos hc, if_neg hb]
    · have hm : magnitude ⟨negative, Nat.pow 2 52, e + 1⟩ = mantissaAt num den e * 2 ^ e := by
        rw [magnitude, hc, zpow_add₀ (by norm_num)]
        push_cast
        ring
      rwa [hm]
  · refine ⟨⟨negative, mantissaAt num den e, e⟩, ?_, hhalf⟩
    have hb : ¬ greatestExponent < e := by omega
    simp only [mantissaAt] at hc
    simp only [ofRatio?, if_neg hn, ← he, if_neg hc, if_neg hb]
    rfl

/-! ## Products and quotients of doubles -/

/-- A product up to the largest double is rounded to a double. -/
theorem exists_mul? {x y : Binary64} (h : x.magnitude * y.magnitude ≤ largest) :
    ∃ z, mul? x y = some z := by
  have hq : ((x.ratio.1 * y.ratio.1 : Nat) : ℚ) / (x.ratio.2 * y.ratio.2 : Nat) ≤ largest := by
    push_cast
    rwa [← div_mul_div_comm, ratio_div, ratio_div]
  obtain ⟨z, hz, -⟩ := exists_ofRatio? (x.negative != y.negative)
    (Nat.mul_pos (ratio_pos x) (ratio_pos y)) hq
  exact ⟨z, hz⟩

/-- A quotient up to the largest double is rounded to a double. -/
theorem exists_div? {x y : Binary64} (hy : 0 < y.magnitude)
    (h : x.magnitude / y.magnitude ≤ largest) :
    ∃ z, div? x y = some z ∧ |z.magnitude - x.magnitude / y.magnitude| ≤
      x.magnitude / y.magnitude * 2 ^ (-53 : Int) + 2 ^ (-1075 : Int) := by
  have hq : ((x.ratio.1 * y.ratio.2 : Nat) : ℚ) / (x.ratio.2 * y.ratio.1 : Nat) =
      x.magnitude / y.magnitude := by
    push_cast
    rw [← ratio_div x, ← ratio_div y, div_div_div_eq]
  have hp : 0 < y.ratio.1 := by
    refine Nat.pos_of_ne_zero fun h₀ ↦ ?_
    rw [← ratio_div, h₀] at hy
    simp at hy
  obtain ⟨z, hz, hle⟩ := exists_ofRatio? (x.negative != y.negative)
    (Nat.mul_pos (ratio_pos x) hp) (hq.trans_le h)
  rw [hq] at hle
  exact ⟨z, hz, hle⟩

/-- Where a rounding is of one at least, it moves a quotient by one part in `2 ^ 52` at most. -/
theorem near_of_one_le {q m : ℚ} (hq : 1 ≤ q)
    (h : |m - q| ≤ q * 2 ^ (-53 : Int) + 2 ^ (-1075 : Int)) : |m - q| ≤ q * 2 ^ (-52 : Int) := by
  have hs : (2 : ℚ) ^ (-1075 : Int) ≤ q * 2 ^ (-53 : Int) := by
    calc (2 : ℚ) ^ (-1075 : Int) ≤ 1 * 2 ^ (-53 : Int) := by
          rw [one_mul]
          exact zpow_le_zpow_right₀ (by norm_num) (by norm_num)
      _ ≤ q * 2 ^ (-53 : Int) := by gcongr
  have hp : q * (2 : ℚ) ^ (-52 : Int) = q * 2 ^ (-53 : Int) + q * 2 ^ (-53 : Int) := by
    norm_num
    ring
  linarith

theorem tenTo_le_largest {k : Nat} (h : k ≤ 308) : (10 : ℚ) ^ k ≤ largest := by
  calc (10 : ℚ) ^ k ≤ 10 ^ (77 * 4) := pow_le_pow_right₀ (by norm_num) h
    _ = (10 ^ 77) ^ 4 := pow_mul _ _ _
    _ ≤ (7 * 2 ^ 253) ^ 4 := pow_le_pow_left₀ (by norm_num) (by norm_num) 4
    _ = 7 ^ 4 * 2 ^ 41 * 2 ^ 971 := by rw [mul_pow, ← pow_mul, mul_assoc, ← pow_add]
    _ ≤ largest := mul_le_mul_of_nonneg_right (by norm_num) (by positivity)

/-- A power of ten up to the greatest that has a double is next to it. -/
theorem tenTo_near {k : Nat} (h : k ≤ 308) :
    |(tenTo k).magnitude - 10 ^ k| ≤ 10 ^ k * 2 ^ (-52 : Int) := by
  have hk : ((Nat.pow 10 k : Nat) : ℚ) / (1 : Nat) = 10 ^ k := by simp
  obtain ⟨x, hx, hnear⟩ := exists_ofRatio? false Nat.one_pos (hk.trans_le (tenTo_le_largest h))
  rw [tenTo, hx, Option.getD_some]
  rw [hk] at hnear
  exact near_of_one_le (one_le_pow₀ (by norm_num)) hnear

end SealedSession.Binary64
