import SealedSession.Keepalive

/-!
# The delay before the first probe

A monitor waits one interval before its first probe, and beyond that for as long as the draw says.
Draws are below the jitter in whole microseconds. That number is cut to 64 bits, so a very long
jitter is shortened, and one that is a multiple of `2 ^ 64` microseconds is none at all.

Since `validated` raises an interval and never lowers one, the interval and the delay that was drawn
may together exceed every duration, and then no first probe is ever due.

* `drawCount`: how many draws there are; `Draws`: the draws that can occur; `lateness`: the delay
  that each adds to the interval.
* `Draws.firstDelay?_eq_some_iff`, `Draws.isSome_firstDelay?_iff`: what a draw leads to.
* `start?_of_draws`: what a start does with it.
* `first_delay_in_bounds`: which delays are drawn, and which settings are safe with every draw.
* `widest_settings_overflow`: settings that are not.
-/

namespace SealedSession

namespace KeepaliveConfig

variable {c : KeepaliveConfig} {draw : Nat}

/-- How many draws there are: the jitter in whole microseconds, cut to 64 bits. -/
def drawCount (c : KeepaliveConfig) : Nat := c.jitter.nanos / 1000 % 0x10000000000000000

theorem jitterMicros_eq (c : KeepaliveConfig) : c.jitterMicros = c.drawCount := rfl

/-- The draws that can occur: those below the jitter in microseconds. Without jitter nothing is
drawn, and any number may stand for the draw. -/
def Draws (c : KeepaliveConfig) (draw : Nat) : Prop := c.drawCount ≠ 0 → draw < c.drawCount

instance : Decidable (c.Draws draw) := inferInstanceAs (Decidable (_ → _))

/-- The greatest draw. -/
def greatestDraw (c : KeepaliveConfig) : Nat := c.drawCount - 1

theorem draws_greatestDraw (c : KeepaliveConfig) : c.Draws c.greatestDraw :=
  fun h ↦ Nat.sub_lt (Nat.pos_of_ne_zero h) Nat.one_pos

/-- The nanoseconds by which a draw delays the first probe beyond the interval. -/
def lateness (c : KeepaliveConfig) (draw : Nat) : Nat :=
  if c.drawCount = 0 then 0 else draw * 1000

/-- The cut of the jitter to 64 bits of microseconds may shorten it, but never lengthens it. -/
theorem drawCount_le (c : KeepaliveConfig) : c.drawCount * 1000 ≤ c.jitter.nanos := by
  have hc : c.drawCount ≤ c.jitter.nanos / 1000 := Nat.mod_le _ _
  omega

/-- The greatest draw is the latest. -/
theorem Draws.lateness_le_greatest (h : c.Draws draw) :
    c.lateness draw ≤ c.lateness c.greatestDraw := by
  unfold lateness greatestDraw
  split
  · exact Nat.le_refl _
  · have := h ‹_›
    omega

theorem lateness_greatestDraw_le (c : KeepaliveConfig) :
    c.lateness c.greatestDraw ≤ c.jitter.nanos := by
  unfold lateness greatestDraw
  split
  · exact Nat.zero_le _
  · exact Nat.le_trans (Nat.mul_le_mul_right _ (Nat.sub_le _ _)) c.drawCount_le

/-- No draw is later than the jitter says. -/
theorem Draws.lateness_le (h : c.Draws draw) : c.lateness draw ≤ c.jitter.nanos :=
  Nat.le_trans h.lateness_le_greatest c.lateness_greatestDraw_le

/-- The first delay is the interval and the lateness of the draw. -/
theorem Draws.firstDelay?_eq_some_iff (h : c.Draws draw) {d : Duration} :
    c.firstDelay? draw = some d ↔ d.nanos = c.interval.nanos + c.lateness draw := by
  have hl := Nat.lt_of_le_of_lt h.lateness_le c.jitter.bounded
  rw [firstDelay?, jitterMicros_eq]
  by_cases hj : c.drawCount = 0
  · rw [lateness, if_pos hj, if_pos hj, Option.some.injEq, eq_comm, ← Duration.nanos_inj,
      Nat.add_zero]
  · rw [lateness, if_neg hj] at hl ⊢
    rw [if_neg hj, Duration.add?_eq_some_iff, Duration.nanos_ofNanos hl]

/-- There is a first delay unless that exceeds every duration. -/
theorem Draws.isSome_firstDelay?_iff (h : c.Draws draw) :
    (c.firstDelay? draw).isSome = true ↔
      c.interval.nanos + c.lateness draw < UInt64.size * 1000000000 := by
  rw [Option.isSome_iff_exists]
  constructor
  · rintro ⟨d, hd⟩
    exact h.firstDelay?_eq_some_iff.mp hd ▸ d.bounded
  · intro hlt
    exact ⟨⟨_, hlt⟩, h.firstDelay?_eq_some_iff.mpr rfl⟩

/-- Every draw stays below a bound if the greatest one does. -/
theorem forall_draws_lt_iff (c : KeepaliveConfig) (base bound : Nat) :
    (∀ draw, c.Draws draw → base + c.lateness draw < bound) ↔
      base + c.lateness c.greatestDraw < bound := by
  constructor
  · intro h
    exact h _ c.draws_greatestDraw
  · intro hlt draw h
    exact Nat.lt_of_le_of_lt (Nat.add_le_add_left h.lateness_le_greatest _) hlt

end KeepaliveConfig

namespace Keepalive

open KeepaliveConfig

/-! ## Starting with jitter -/

/-- The clock counts whole seconds in 63 bits. -/
theorem horizon_eq : horizon = 0x8000000000000000 * 1000000000 := by decide

variable {k : Keepalive} {draw : Nat}

/-- The first probe is due after the interval and the lateness of the draw, if the clock can tell
that instant. The clock ends before the durations do, so a sum that is no duration is no instant
either. -/
theorem start?_of_draws (h : k.config.Draws draw) (now : Nat) (identity : Option Identity) :
    k.start? now draw identity =
      if now + (k.interval + k.config.lateness draw) < 0x8000000000000000 * 1000000000 then
        some { k with schedule := some ⟨identity, now + (k.interval + k.config.lateness draw)⟩ }
      else none := by
  unfold start? interval
  cases hd : k.config.firstDelay? draw with
  | none =>
    have hb := mt h.isSome_firstDelay?_iff.mpr (by simp [hd])
    have hh : 0x8000000000000000 * 1000000000 < UInt64.size * 1000000000 := by decide
    rw [if_neg (by omega)]
    rfl
  | some d =>
    rw [← h.firstDelay?_eq_some_iff.mp hd, Option.bind_some, later?, horizon_eq]
    split <;> rfl

theorem isSome_start?_iff (h : k.config.Draws draw) (now : Nat) (identity : Option Identity) :
    (k.start? now draw identity).isSome = true ↔
      now + k.interval + k.config.lateness draw < 0x8000000000000000 * 1000000000 := by
  rw [start?_of_draws h, Nat.add_assoc]
  split
  case isTrue hlt => exact iff_of_true rfl hlt
  case isFalse hge => exact iff_of_false Bool.false_ne_true hge

/-- Whatever the settings: the interval that is used is no shorter than a tenth of a second, and a
first delay is never shorter than it, nor longer than it by more than the jitter. A draw leads to a
first delay unless the sum exceeds every duration, so every draw does exactly if the greatest does.
And a monitor with these settings starts at an instant, whatever is drawn, exactly if the clock,
which counts whole seconds in 63 bits, reaches as far as the first probe of the greatest draw. -/
theorem first_delay_in_bounds (c : KeepaliveConfig) :
    let v := c.validated
    100000000 ≤ v.interval.nanos ∧
    (∀ draw, v.Draws draw →
      (∀ d, v.firstDelay? draw = some d →
        v.interval.nanos ≤ d.nanos ∧ d.nanos ≤ v.interval.nanos + c.jitter.nanos) ∧
      ((v.firstDelay? draw).isSome = true ↔
        v.interval.nanos + v.lateness draw < UInt64.size * 1000000000)) ∧
    ((∀ draw, v.Draws draw → (v.firstDelay? draw).isSome = true) ↔
      v.interval.nanos + v.lateness v.greatestDraw < UInt64.size * 1000000000) ∧
    ∀ (k : Keepalive) (now : Nat) (identity : Option Identity), k.config = v →
      ((∀ draw, v.Draws draw → (k.start? now draw identity).isSome = true) ↔
        now + v.interval.nanos + v.lateness v.greatestDraw < 0x8000000000000000 * 1000000000) := by
  intro v
  refine ⟨c.le_interval_validated, fun draw h ↦ ⟨fun d hd ↦ ?_, h.isSome_firstDelay?_iff⟩, ?_, ?_⟩
  · have hl : v.lateness draw ≤ c.jitter.nanos := c.jitter_validated ▸ h.lateness_le
    rw [h.firstDelay?_eq_some_iff.mp hd]
    omega
  · rw [← v.forall_draws_lt_iff]
    exact forall₂_congr fun _ h ↦ h.isSome_firstDelay?_iff
  · intro k now identity hk
    rw [← hk, ← k.config.forall_draws_lt_iff]
    exact forall₂_congr fun _ h ↦ isSome_start?_iff h now identity

/-- Settings as wide as durations can be are used as they are, and an ordinary draw overflows. -/
theorem widest_settings_overflow :
    let widest : Duration := .ofParts 18446744073709551615 999999999
    let c : KeepaliveConfig := ⟨widest, widest⟩
    c.validated = c ∧ c.validated.Draws 1 ∧ c.validated.firstDelay? 1 = none := by
  decide

end Keepalive

end SealedSession
