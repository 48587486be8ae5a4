import SealedSession.Json.Number
import SealedSession.Proofs.Decimal.Rounding
import SealedSession.Proofs.Json.Grammar

/-!
# Which numbers are kept

A number is kept as a double in two roundings, of its leading digits and of what they come to with
their power of ten. Either may add a little, so that a number just below the largest double may
come out above it. A number that is a little further below comes out finite.

* `Literal.parts_le`: the leading digits do not exceed the number that is spelled.
* `Literal.isSome_number?`: a number below `2 ^ 1024 - 2 ^ 974` is kept.
-/

namespace SealedSession.Json.Literal

/-- The power of ten behind the exponent mark. -/
def power (l : Literal) : Int :=
  match l.exponent with
  | some (true, ds) => digitsValue ds
  | some (false, ds) => -digitsValue ds
  | none => 0

/-- The magnitude of the number that a literal spells. -/
def magnitude (l : Literal) : ℚ :=
  digitsValue (l.whole ++ l.fraction) * 10 ^ (l.power - l.fraction.length)

/-! ## Leading digits -/

/-- What digits come to behind a number. -/
def appended (n : Nat) (ds : List Nat) : Nat := ds.foldl (fun n d ↦ 10 * n + d) n

theorem appended_cons (n d : Nat) (ds : List Nat) :
    appended n (d :: ds) = appended (10 * n + d) ds := rfl

theorem mul_pow_le_appended (n : Nat) (ds : List Nat) : n * 10 ^ ds.length ≤ appended n ds := by
  induction ds generalizing n with
  | nil => exact (Nat.mul_one n).le
  | cons d ds ih =>
    rw [appended_cons, List.length_cons, Nat.pow_succ']
    calc n * (10 * 10 ^ ds.length) = 10 * n * 10 ^ ds.length := by ring
      _ ≤ (10 * n + d) * 10 ^ ds.length := Nat.mul_le_mul_right _ (Nat.le_add_right _ _)
      _ ≤ appended (10 * n + d) ds := ih _

/-- The leading digits of a number, and how many were dropped behind them: none, or as many as
follow the first one that does not fit. -/
def Leads (s dropped n : Nat) : Prop :=
  (dropped = 0 ∧ s = n) ∨
    ∃ d k, d < 10 ∧ dropped = k + 1 ∧ limit < 10 * s + d ∧ (10 * s + d) * 10 ^ k ≤ n

theorem Leads.wholePart {s dropped n : Nat} {ds : List Nat} (hd : ∀ d ∈ ds, d < 10)
    (h : Leads s dropped n) :
    Leads (Literal.wholePart (s, dropped) ds).1 (Literal.wholePart (s, dropped) ds).2
      (appended n ds) := by
  induction ds generalizing s dropped n with
  | nil => exact h
  | cons d ds ih =>
    obtain ⟨hd, hds⟩ := List.forall_mem_cons.mp hd
    rw [Literal.wholePart, appended_cons]
    split
    · next hfit =>
      refine ih hds ?_
      rcases h with ⟨-, rfl⟩ | ⟨_, k, -, hk, -⟩
      · exact .inl ⟨rfl, by rw [Nat.mul_comm]⟩
      · omega
    · next hfull =>
      refine ih hds (.inr ?_)
      rcases h with ⟨rfl, rfl⟩ | ⟨d', k, hd', rfl, hl, hle⟩
      · exact ⟨d, 0, hd, rfl, by omega, by omega⟩
      · refine ⟨d', k + 1, hd', rfl, hl, ?_⟩
        rw [Nat.pow_succ, ← Nat.mul_assoc]
        omega

/-- No digit fits behind a number that fills 64 bits. -/
theorem fractionPart_of_full {s : Nat} (h : limit < 10 * s) (taken : Nat) (ds : List Nat) :
    fractionPart (s, taken) ds = (s, taken) := by
  cases ds with
  | nil => rfl
  | cons d ds => exact if_neg (by omega)

/-- Where nothing was dropped, digits of the fraction are appended while they fit. -/
theorem fractionPart_le (s taken : Nat) (ds : List Nat) :
    (fractionPart (s, taken) ds).1 * 10 ^ (ds.length + taken) ≤
      appended s ds * 10 ^ (fractionPart (s, taken) ds).2 := by
  induction ds generalizing s taken with
  | nil => simp [fractionPart, appended]
  | cons d ds ih =>
    rw [fractionPart]
    split
    · have hi := ih (s * 10 + d) (taken + 1)
      rw [appended_cons, Nat.mul_comm 10 s, List.length_cons]
      rwa [show ds.length + 1 + taken = ds.length + (taken + 1) by omega]
    · rw [Nat.pow_add, ← Nat.mul_assoc]
      exact Nat.mul_le_mul_right _ (mul_pow_le_appended s (d :: ds))

/-- Digits of the fraction behind the leading digits of the whole part do not exceed the number. -/
theorem Leads.fractionPart {s dropped n : Nat} (h : Leads s dropped n) (ds : List Nat) :
    (Literal.fractionPart (s, 0) ds).1 * 10 ^ (ds.length + dropped) ≤
      appended n ds * 10 ^ (Literal.fractionPart (s, 0) ds).2 := by
  rcases h with ⟨rfl, rfl⟩ | ⟨d, k, hd, rfl, hl, hle⟩
  · exact fractionPart_le s 0 ds
  -- what a number with dropped digits leads with, at its place
  have led {m : Nat} (hm : m ≤ 10 * s + d) :
      m * 10 ^ (ds.length + k) ≤ appended n ds := by
    calc m * 10 ^ (ds.length + k) ≤ (10 * s + d) * 10 ^ (ds.length + k) := Nat.mul_le_mul_right _ hm
      _ = (10 * s + d) * 10 ^ k * 10 ^ ds.length := by ring
      _ ≤ n * 10 ^ ds.length := Nat.mul_le_mul_right _ hle
      _ ≤ appended n ds := mul_pow_le_appended n ds
  have stopped : s * 10 ^ (ds.length + (k + 1)) ≤ appended n ds := by
    refine le_of_eq_of_le ?_ (led (Nat.le_add_right (10 * s) d))
    ring
  cases ds with
  | nil => simpa [Literal.fractionPart] using stopped
  | cons f fs =>
    rw [Literal.fractionPart]
    split
    · next hfit =>
      have hlim : limit = 18446744073709551615 := rfl
      rw [fractionPart_of_full (by omega), pow_one]
      calc (s * 10 + f) * 10 ^ ((f :: fs).length + (k + 1))
          = (s * 10 + f) * 10 ^ ((f :: fs).length + k) * 10 := by ring
        _ ≤ appended n (f :: fs) * 10 := Nat.mul_le_mul_right _ (led (by omega))
    · simpa using stopped

/-- The leading digits fit 64 bits. -/
theorem fst_wholePart_le {s dropped : Nat} (h : s ≤ limit) (ds : List Nat) :
    (wholePart (s, dropped) ds).1 ≤ limit := by
  induction ds generalizing s dropped with
  | nil => exact h
  | cons d ds ih =>
    rw [wholePart]
    split
    · next hfit => exact ih hfit.2
    · exact ih h

theorem fst_fractionPart_le {s taken : Nat} (h : s ≤ limit) (ds : List Nat) :
    (fractionPart (s, taken) ds).1 ≤ limit := by
  induction ds generalizing s taken with
  | nil => exact h
  | cons d ds ih =>
    rw [fractionPart]
    split
    · next hfit => exact ih hfit
    · exact h

theorem parts_fst_le (l : Literal) : l.parts.1 ≤ limit :=
  fst_fractionPart_le (fst_wholePart_le (Nat.zero_le _) _) _

/-- The leading digits of a number do not exceed it. -/
theorem parts_le {l : Literal} (hw : ∀ d ∈ l.whole, d < 10) :
    (l.parts.1 : ℚ) * 10 ^ l.parts.2 ≤ l.magnitude := by
  obtain ⟨s, dropped, hs⟩ : ∃ s dropped, wholePart (0, 0) l.whole = (s, dropped) := ⟨_, _, rfl⟩
  obtain ⟨t, taken, ht⟩ : ∃ t taken, fractionPart (s, 0) l.fraction = (t, taken) := ⟨_, _, rfl⟩
  have hp : l.parts = (t, (dropped : Int) - taken + l.power) := by
    have h : l.parts =
        ((fractionPart ((wholePart (0, 0) l.whole).1, 0) l.fraction).1,
          ((wholePart (0, 0) l.whole).2 : Int) -
            (fractionPart ((wholePart (0, 0) l.whole).1, 0) l.fraction).2 + l.power) := rfl
    simpa only [hs, ht] using h
  have hle : t * 10 ^ (l.fraction.length + dropped) ≤
      digitsValue (l.whole ++ l.fraction) * 10 ^ taken := by
    have hz : Leads 0 0 0 := .inl ⟨rfl, rfl⟩
    have h := (hz.wholePart hw).fractionPart l.fraction
    rw [hs, ht] at h
    rwa [digitsValue, List.foldl_append]
  have hle : (t : ℚ) * 10 ^ (l.fraction.length + dropped) ≤
      digitsValue (l.whole ++ l.fraction) * 10 ^ taken := by exact_mod_cast hle
  rw [hp, magnitude]
  have hten : (10 : ℚ) ≠ 0 := by norm_num
  calc (t : ℚ) * 10 ^ ((dropped : Int) - taken + l.power)
      = t * 10 ^ (l.fraction.length + dropped) *
          10 ^ (l.power - l.fraction.length - taken) := by
        rw [mul_assoc, ← zpow_natCast, ← zpow_add₀ hten]
        congr 2
        push_cast
        ring
    _ ≤ digitsValue (l.whole ++ l.fraction) * 10 ^ taken *
          10 ^ (l.power - l.fraction.length - taken) := by gcongr
    _ = digitsValue (l.whole ++ l.fraction) * 10 ^ (l.power - l.fraction.length) := by
        rw [mul_assoc, ← zpow_natCast, ← zpow_add₀ hten]
        congr 2
        ring

/-! ## Conversion -/

open Binary64

/-- The leading digits of a number have a double next to them. -/
theorem exists_significand (negative : Bool) {s : Nat} (h : s ≤ limit) :
    ∃ x, ofRatio? negative s 1 = some x ∧ (s = 0 → x.mantissa = 0) ∧
      x.magnitude ≤ s * (1 + 2 ^ (-52 : Int)) := by
  have hs : (s : ℚ) / (1 : Nat) = s := by simp
  rcases Nat.eq_zero_or_pos s with rfl | hpos
  · refine ⟨zero negative, rfl, fun _ ↦ rfl, ?_⟩
    rw [Binary64.magnitude, zero]
    norm_num
  · have hl : (s : ℚ) ≤ largest := by
      have hb : (s : ℚ) ≤ 10 ^ 20 := by
        have hn : s ≤ 10 ^ 20 := h.trans (by decide)
        exact_mod_cast hn
      exact hb.trans (tenTo_le_largest (by decide))
    obtain ⟨x, hx, hnear⟩ := exists_ofRatio? negative Nat.one_pos (hs.trans_le hl)
    rw [hs] at hnear
    have hone : (1 : ℚ) ≤ s := by exact_mod_cast hpos
    refine ⟨x, hx, by omega, ?_⟩
    have := (abs_le.mp (near_of_one_le hone hnear)).2
    linarith

/-- A power of ten is more than half as large as it should be. -/
theorem half_le_tenTo {k : Nat} (h : k ≤ greatestPower) :
    (10 : ℚ) ^ k / 2 ≤ (tenTo k).magnitude := by
  have hnear := (abs_le.mp (tenTo_near h)).1
  have hz : (0 : ℚ) ≤ 10 ^ k := by positivity
  generalize (10 : ℚ) ^ k = t at hnear hz ⊢
  norm_num at hnear
  linarith

/-- A double is divided by a power of ten, and at most doubled by that. -/
theorem exists_div_tenTo {x : Binary64} (h : x.magnitude ≤ 2 ^ 65) {k : Nat}
    (hk : k ≤ greatestPower) :
    ∃ y, x.div? (tenTo k) = some y ∧ y.magnitude ≤ 4 * x.magnitude / 10 ^ k + 1 := by
  have hpos : (0 : ℚ) < 10 ^ k := by positivity
  have ht := half_le_tenTo hk
  have hx := x.magnitude_nonneg
  have hq : x.magnitude / (tenTo k).magnitude ≤ 2 * x.magnitude / 10 ^ k := by
    calc x.magnitude / (tenTo k).magnitude ≤ x.magnitude / (10 ^ k / 2) := by gcongr
      _ = 2 * x.magnitude / 10 ^ k := by field_simp
  have hl : x.magnitude / (tenTo k).magnitude ≤ largest := by
    have hone : (1 : ℚ) ≤ 10 ^ k := one_le_pow₀ (by norm_num)
    calc x.magnitude / (tenTo k).magnitude ≤ 2 * x.magnitude / 10 ^ k := hq
      _ ≤ 2 * x.magnitude := div_le_self (by positivity) hone
      _ ≤ 10 ^ 20 := by linarith
      _ ≤ largest := tenTo_le_largest (by decide)
  obtain ⟨y, hy, hnear⟩ := exists_div? (by linarith) hl
  refine ⟨y, hy, ?_⟩
  have hupper := (abs_le.mp hnear).2
  have hq₀ : 0 ≤ x.magnitude / (tenTo k).magnitude := div_nonneg hx (tenTo k).magnitude_nonneg
  have hrel : x.magnitude / (tenTo k).magnitude * 2 ^ (-53 : Int) ≤
      x.magnitude / (tenTo k).magnitude :=
    mul_le_of_le_one_right hq₀ (zpow_le_one_of_nonpos₀ (by norm_num) (by norm_num))
  have habs : (2 : ℚ) ^ (-1075 : Int) ≤ 1 := zpow_le_one_of_nonpos₀ (by norm_num) (by norm_num)
  calc y.magnitude ≤ 2 * (x.magnitude / (tenTo k).magnitude) + 1 := by linarith
    _ ≤ 2 * (2 * x.magnitude / 10 ^ k) + 1 := by linarith
    _ = 4 * x.magnitude / 10 ^ k + 1 := by ring

/-- Divisions by the greatest power of ten stay small. -/
theorem exists_divideRepeatedly {x : Binary64} (h : x.magnitude ≤ 2 ^ 65) (steps : Nat) :
    ∃ y, divideRepeatedly x steps = some y ∧ y.magnitude ≤ 2 ^ 65 := by
  induction steps generalizing x with
  | zero => exact ⟨x, rfl, h⟩
  | succ steps ih =>
    rw [divideRepeatedly]
    split
    · exact ⟨x, rfl, h⟩
    · obtain ⟨y, hy, hle⟩ := exists_div_tenTo h (le_refl greatestPower)
      rw [hy, Option.bind_some]
      refine ih (hle.trans ?_)
      have hten : (10 : ℚ) ≤ 10 ^ greatestPower := le_self_pow₀ (by norm_num) (by decide)
      have hx := x.magnitude_nonneg
      calc 4 * x.magnitude / 10 ^ greatestPower + 1 ≤ 4 * x.magnitude / 10 + 1 := by gcongr
        _ ≤ 2 ^ 65 := by linarith

theorem exists_divideBy {x : Binary64} (h : x.magnitude ≤ 2 ^ 65) {k : Nat} (hk : 0 < k) :
    ∃ y, divideBy x k = some y := by
  obtain ⟨y, hy, hle⟩ := exists_divideRepeatedly h ((k - 1) / greatestPower)
  have hlast : k - (k - 1) / greatestPower * greatestPower ≤ greatestPower := by
    have hg : greatestPower = 308 := rfl
    have := Nat.div_add_mod (k - 1) greatestPower
    have := Nat.mod_lt (k - 1) (show 0 < greatestPower by decide)
    rw [hg] at *
    omega
  obtain ⟨z, hz, -⟩ := exists_div_tenTo hle hlast
  exact ⟨z, by simp only [divideBy, hy, Option.bind_some, hz]⟩

/-- Leading digits that are little enough stay finite with their power of ten. -/
theorem product_le_largest {x : Binary64} {s n : Nat} (hx : x.magnitude ≤ s * (1 + 2 ^ (-52 : Int)))
    (hn : n ≤ greatestPower) (h : (s : ℚ) * 10 ^ (n : Int) < 2 ^ 1024 - 2 ^ 974) :
    x.magnitude * (tenTo n).magnitude ≤ largest := by
  have ht : (tenTo n).magnitude ≤ 10 ^ n * (1 + 2 ^ (-52 : Int)) := by
    have := (abs_le.mp (tenTo_near hn)).2
    linarith
  rw [zpow_natCast] at h
  have ht₀ := (tenTo n).magnitude_nonneg
  calc x.magnitude * (tenTo n).magnitude
      ≤ s * (1 + 2 ^ (-52 : Int)) * (10 ^ n * (1 + 2 ^ (-52 : Int))) := by gcongr
    _ = s * 10 ^ n * (1 + 2 ^ (-52 : Int)) ^ 2 := by ring
    _ ≤ (2 ^ 1024 - 2 ^ 974) * (1 + 2 ^ (-52 : Int)) ^ 2 := by gcongr
    _ = (2 ^ 53 - 2 ^ 3) * (1 + 2 ^ (-52 : Int)) ^ 2 * 2 ^ 971 := by
      rw [show (2 : ℚ) ^ 1024 = 2 ^ 53 * 2 ^ 971 from pow_add 2 53 971,
        show (2 : ℚ) ^ 974 = 2 ^ 3 * 2 ^ 971 from pow_add 2 3 971, ← sub_mul, mul_right_comm]
    _ ≤ largest := mul_le_mul_of_nonneg_right (by norm_num) (by positivity)

/-- A power of ten beyond the greatest is beyond every double. -/
theorem too_large {s : Nat} (hs : s ≠ 0) {e : Int} (he : greatestPower < e) :
    (2 : ℚ) ^ 1024 - 2 ^ 974 ≤ s * 10 ^ e := by
  have hone : (1 : ℚ) ≤ s := by exact_mod_cast Nat.pos_of_ne_zero hs
  have he : (309 : Int) ≤ e := he
  calc (2 : ℚ) ^ 1024 - 2 ^ 974 ≤ 2 ^ 1024 := sub_le_self _ (by positivity)
    _ = 2 ^ 8 * 2 ^ (254 * 4) := by rw [← pow_add]
    _ ≤ 10 * 3 ^ 4 * 2 ^ (254 * 4) := mul_le_mul_of_nonneg_right (by norm_num) (by positivity)
    _ = 10 * (3 * 2 ^ 254) ^ 4 := by rw [mul_pow, ← pow_mul, mul_assoc]
    _ ≤ 10 * (10 ^ 77) ^ 4 := by gcongr; norm_num
    _ = 10 ^ (309 : Int) := by
      rw [← pow_mul, ← pow_succ']
      exact (zpow_natCast _ 309).symm
    _ ≤ 1 * 10 ^ e := by
      rw [one_mul]
      exact zpow_le_zpow_right₀ (by norm_num) he
    _ ≤ s * 10 ^ e := by gcongr

/-- A number below `2 ^ 1024 - 2 ^ 974` is converted to a double. -/
theorem exists_float? {l : Literal} (hw : ∀ d ∈ l.whole, d < 10)
    (h : l.magnitude < 2 ^ 1024 - 2 ^ 974) : ∃ x, l.float? = some x := by
  obtain ⟨s, e, hparts⟩ : ∃ s e, l.parts = (s, e) := ⟨_, _, rfl⟩
  have hle := parts_le hw
  have hfit := l.parts_fst_le
  rw [hparts] at hle hfit
  dsimp only at hle hfit
  obtain ⟨x, hx, hzero, hx'⟩ := exists_significand l.negative hfit
  simp only [float?, hparts, hx, Option.bind_eq_bind, Option.bind_some]
  split
  · next hneg =>
    have hs : (s : ℚ) ≤ 2 ^ 64 := by exact_mod_cast hfit.trans (by decide : limit ≤ 2 ^ 64)
    have hx65 : x.magnitude ≤ 2 ^ 65 := by
      calc x.magnitude ≤ s * (1 + 2 ^ (-52 : Int)) := hx'
        _ ≤ 2 ^ 64 * 2 := mul_le_mul hs (by norm_num) (by positivity) (by positivity)
        _ = 2 ^ 65 := by norm_num
    exact exists_divideBy hx65 (by omega)
  · next hneg =>
    split
    · next hpow =>
      obtain ⟨n, rfl⟩ := Int.eq_ofNat_of_zero_le (not_lt.mp hneg)
      exact exists_mul? (product_le_largest hx' (by exact_mod_cast hpow) (hle.trans_lt h))
    · next hbig =>
      have hs : s = 0 := by
        by_contra hs
        exact absurd (hle.trans_lt h) (not_lt.mpr (too_large hs (by omega)))
      exact ⟨x, if_pos (hzero hs)⟩

/-- A number below `2 ^ 1024 - 2 ^ 974` is kept. -/
theorem isSome_number? {l : Literal} {cs : List Char} (hs : l.Spells cs)
    (h : l.magnitude < 2 ^ 1024 - 2 ^ 974) : l.number?.isSome = true := by
  have hw : ∀ d ∈ l.whole, d < 10 := by
    cases hs with
    | mk hw => exact hw
  obtain ⟨x, hx⟩ := exists_float? hw h
  rw [number?, hx]
  split
  · rfl
  · rfl

end SealedSession.Json.Literal
