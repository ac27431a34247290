import Mathlib.Algebra.Order.Field.Basic
import Mathlib.Algebra.Order.Field.Rat
import Mathlib.Tactic.Linarith
import Mathlib.Tactic.Positivity
import Mathlib.Tactic.Ring
import ParamQuery.Proofs.Number.Rounding

/-!
# The floating-point number nearest to a rational

A magnitude is compared with a rational as an exact number of units; an infinity is compared from the place where the
next number would be, at `2 ^ 1024`.  `Binary64.IsNearest` says that no number is nearer, and that of two which are as
near the one with the even significand is meant.

* There is one such number of either sign (`IsNearest.unique`): between two numbers with even significands there is a
  third.
* It is an infinity from halfway between the largest number and the place of infinity on
  (`IsNearest.units?_eq_none_iff`).
-/

namespace ParamQuery.Number.Binary64

variable {negative : Bool}

/-- An infinity stands where the next number would be. -/
def significand : Binary64 → Nat
  | .finite _ significand _ _ => significand
  | .infinite _ => Nat.pow 2 52

def scale : Binary64 → Nat
  | .finite _ _ scale _ => scale
  | .infinite _ => 2046

/-- The magnitude in units, with a place for infinity behind the largest number. -/
def extent (x : Binary64) : Nat :=
  x.significand * Nat.pow 2 x.scale

theorem extent_of_units? {x : Binary64} {u : Nat} (h : x.units? = some u) : x.extent = u := by
  cases x with
  | finite => exact Option.some.inj h
  | infinite => cases h

theorem significand_lt (x : Binary64) : x.significand < Nat.pow 2 53 := by
  cases x with
  | finite _ _ _ h => exact h.1
  | infinite => exact (by decide : Nat.pow 2 52 < Nat.pow 2 53)

theorem le_significand_of_scale {x : Binary64} (h : 0 < x.scale) : Nat.pow 2 52 ≤ x.significand := by
  cases x with
  | finite _ _ _ hcanonical => exact hcanonical.2.2.resolve_left (Nat.ne_of_gt h)
  | infinite => exact Nat.le_refl _

theorem representable_extent (x : Binary64) : Representable x.extent :=
  ⟨x.significand, x.scale, x.significand_lt, rfl⟩

theorem extent_le_infinite (x : Binary64) : x.extent ≤ (infinite negative).extent := by
  cases x with
  | infinite => exact Nat.le_refl _
  | finite _ significand scale h =>
    calc significand * Nat.pow 2 scale ≤ Nat.pow 2 53 * Nat.pow 2 scale := Nat.mul_le_mul_right _ (Nat.le_of_lt h.1)
      _ = Nat.pow 2 52 * Nat.pow 2 (scale + 1) := (two_pow_carry scale).symm
      _ ≤ (infinite negative).extent := Nat.mul_le_mul_left _ (two_pow_le (Nat.succ_le_succ h.2.1))

theorem even_significand_infinite : (infinite negative).significand % 2 = 0 :=
  (by decide : Nat.pow 2 52 % 2 = 0)

theorem pack_canonical (negative : Bool) {significand scale : Nat} (h : Canonical significand scale) :
    (pack negative significand scale).extent = significand * Nat.pow 2 scale ∧
      (pack negative significand scale).significand = significand := by
  rw [pack, dif_pos h]
  exact ⟨rfl, rfl⟩

/-- The magnitude, with a place for infinity behind the largest number. -/
def magnitude (x : Binary64) : ℚ :=
  x.extent / unitsPerOne

/-- No number has a magnitude nearer to `q`, and where another is as near `x` has the even significand. -/
structure IsNearest (x : Binary64) (q : ℚ) : Prop where
  least : ∀ y : Binary64, |x.magnitude - q| ≤ |y.magnitude - q|
  even : ∀ y : Binary64, y.magnitude ≠ x.magnitude → |y.magnitude - q| = |x.magnitude - q| → x.significand % 2 = 0

theorem cast_unitsPerOne_pos : (0 : ℚ) < unitsPerOne :=
  Nat.cast_pos.2 unitsPerOne_pos

/-- What is at most half a unit is rounded to zero. -/
theorem isNearest_zero (negative : Bool) {q : ℚ} (hq : 0 ≤ q) (h : 2 * q * unitsPerOne ≤ 1) :
    (pack negative 0 0).IsNearest q := by
  have hzero : (pack negative 0 0).magnitude = 0 := by
    rw [magnitude, (pack_canonical negative (by decide)).1, Nat.zero_mul, Nat.cast_zero, zero_div]
  refine ⟨fun y => ?_, fun _ _ _ => by rw [(pack_canonical negative (by decide)).2]⟩
  rw [hzero, zero_sub, abs_neg, abs_of_nonneg hq]
  rcases Nat.eq_zero_or_pos y.extent with hy | hy
  · rw [magnitude, hy, Nat.cast_zero, zero_div, zero_sub, abs_neg]
    exact le_abs_self q
  · have hone : (1 : ℚ) ≤ y.extent := Nat.one_le_cast.2 hy
    have hle : 2 * q ≤ y.magnitude := by
      rw [magnitude, le_div_iff₀ cast_unitsPerOne_pos]
      exact le_trans h hone
    exact le_trans (by linarith) (le_abs_self _)

/-- What is not below the place of infinity is rounded to it. -/
theorem isNearest_infinite (negative : Bool) {q : ℚ} (h : (infinite negative).magnitude ≤ q) :
    (infinite negative).IsNearest q := by
  refine ⟨fun y => ?_, fun _ _ _ => even_significand_infinite⟩
  have hle : y.magnitude ≤ (infinite negative).magnitude :=
    div_le_div_of_nonneg_right (Nat.cast_le.2 y.extent_le_infinite) cast_unitsPerOne_pos.le
  rw [abs_of_nonpos (sub_nonpos.2 h), abs_of_nonpos (sub_nonpos.2 (le_trans hle h))]
  linarith

/-- What has a larger scale is larger. -/
theorem extent_lt_of_scale_lt {x y : Binary64} (h : x.scale < y.scale) : x.extent < y.extent :=
  calc x.extent < Nat.pow 2 53 * Nat.pow 2 x.scale :=
        Nat.mul_lt_mul_of_pos_right x.significand_lt (two_pow_pos _)
    _ = Nat.pow 2 52 * Nat.pow 2 (x.scale + 1) := (two_pow_carry _).symm
    _ ≤ y.extent := Nat.mul_le_mul (le_significand_of_scale (Nat.zero_lt_of_lt h)) (two_pow_le h)

/-- Every magnitude is written in one way. -/
theorem extent_inj {x y : Binary64} (h : x.extent = y.extent) :
    x.significand = y.significand ∧ x.scale = y.scale := by
  have hscale : x.scale = y.scale := by
    rcases Nat.lt_trichotomy x.scale y.scale with hlt | heq | hgt
    · exact absurd h (Nat.ne_of_lt (extent_lt_of_scale_lt hlt))
    · exact heq
    · exact absurd h.symm (Nat.ne_of_lt (extent_lt_of_scale_lt hgt))
  unfold extent at h
  rw [hscale] at h
  exact ⟨Nat.eq_of_mul_eq_mul_right (two_pow_pos _) h, hscale⟩

theorem eq_of_extent_eq {x y : Binary64} (hnegative : x.isNegative = y.isNegative) (h : x.extent = y.extent) :
    x = y := by
  obtain ⟨hsignificand, hscale⟩ := extent_inj h
  cases x with
  | infinite =>
    cases y with
    | infinite => exact congrArg infinite hnegative
    | finite _ _ _ hcanonical => exact absurd hscale (Nat.ne_of_gt (Nat.lt_succ_of_le hcanonical.2.1))
  | finite _ _ _ hx =>
    cases y with
    | infinite => exact absurd hscale (Nat.ne_of_lt (Nat.lt_succ_of_le hx.2.1))
    | finite =>
      cases hnegative
      cases hsignificand
      cases hscale
      rfl

/-- Above a number with the even significand, and below the next number with one, there is a number. -/
theorem exists_between {x y : Binary64} (h : x.extent < y.extent) (hx : x.significand % 2 = 0)
    (hy : y.significand % 2 = 0) : ∃ z : Binary64, x.extent < z.extent ∧ z.extent < y.extent := by
  cases x with
  | infinite => exact absurd h (Nat.not_lt.2 y.extent_le_infinite)
  | finite negative significand scale hcanonical =>
    have hlt : significand + 1 < Nat.pow 2 53 := by
      have hlt := hcanonical.1
      have hodd : (Nat.pow 2 53 - 1) % 2 = 1 := by decide
      have hx : significand % 2 = 0 := hx
      omega
    have hnext : Canonical (significand + 1) scale :=
      ⟨hlt, hcanonical.2.1, hcanonical.2.2.imp_right Nat.le_succ_of_le⟩
    refine ⟨.finite negative (significand + 1) scale hnext, ?_, Nat.lt_of_le_of_ne ?_ fun heq => ?_⟩
    · exact Nat.mul_lt_mul_of_pos_right (Nat.lt_succ_self _) (two_pow_pos _)
    · have hscale : scale ≤ y.scale := Nat.le_of_not_lt fun hlt => Nat.lt_asymm h (extent_lt_of_scale_lt hlt)
      have hmultiple : y.extent = y.significand * Nat.pow 2 (y.scale - scale) * Nat.pow 2 scale := by
        rw [Nat.mul_assoc, ← two_pow_add, Nat.sub_add_cancel hscale]
        rfl
      rw [hmultiple] at h ⊢
      exact Nat.mul_le_mul_right _ (Nat.lt_of_mul_lt_mul_right h)
    · have hodd : significand + 1 = y.significand := (extent_inj heq).1
      have hx : significand % 2 = 0 := hx
      omega

theorem magnitude_lt {x y : Binary64} (h : x.extent < y.extent) : x.magnitude < y.magnitude :=
  div_lt_div_of_pos_right (Nat.cast_lt.2 h) cast_unitsPerOne_pos

theorem extent_eq_of_magnitude_eq {x y : Binary64} (h : x.magnitude = y.magnitude) : x.extent = y.extent :=
  Nat.cast_inj.1 ((div_left_inj' cast_unitsPerOne_pos.ne').1 h)

theorem IsNearest.not_lt {x y : Binary64} {q : ℚ} (hx : x.IsNearest q) (hy : y.IsNearest q) :
    ¬ x.extent < y.extent := by
  intro hlt
  have hmagnitude := magnitude_lt hlt
  have htie : |y.magnitude - q| = |x.magnitude - q| := le_antisymm (hy.least x) (hx.least y)
  have hxeven := hx.even y hmagnitude.ne' htie
  have hyeven := hy.even x hmagnitude.ne htie.symm
  obtain ⟨z, hxz, hzy⟩ := exists_between hlt hxeven hyeven
  have hxz := magnitude_lt hxz
  have hzy := magnitude_lt hzy
  -- `q` is halfway between the two, so `z` is nearer to it.
  have hz := hx.least z
  rcases abs_eq_abs.1 htie with heq | heq
  · linarith
  · rw [abs_of_nonpos (by linarith : x.magnitude - q ≤ 0)] at hz
    rcases abs_cases (z.magnitude - q) with ⟨hz', -⟩ | ⟨hz', -⟩ <;> linarith

/-- There is one nearest number of either sign. -/
theorem IsNearest.unique {x y : Binary64} {q : ℚ} (hx : x.IsNearest q) (hy : y.IsNearest q)
    (hnegative : x.isNegative = y.isNegative) : x = y :=
  eq_of_extent_eq hnegative (Nat.le_antisymm (Nat.le_of_not_lt (hy.not_lt hx)) (Nat.le_of_not_lt (hx.not_lt hy)))

/-- The largest finite number. -/
def largest : Binary64 :=
  .finite false (Nat.pow 2 53 - 1) 2045 (by decide)

theorem extent_le_largest {x : Binary64} {u : Nat} (h : x.units? = some u) : x.extent ≤ largest.extent := by
  cases x with
  | infinite => cases h
  | finite _ _ _ hcanonical =>
    exact Nat.mul_le_mul (Nat.le_sub_one_of_lt hcanonical.1) (two_pow_le hcanonical.2.1)

/-- Halfway between the largest number, `(2 ^ 53 - 1) * 2 ^ 971`, and the place of infinity, `2 ^ 1024`. -/
def overflow : ℚ :=
  (2 ^ 54 - 1) * 2 ^ 970

theorem magnitude_of_scale {x : Binary64} {k : Nat} (h : x.scale = k + 1074) : x.magnitude = x.significand * 2 ^ k := by
  obtain ⟨scale, hscale, hone⟩ := exists_unitsPerOne_eq
  have hpow : (unitsPerOne : ℚ) = 2 ^ scale := by
    rw [hone]
    exact Nat.cast_pow 2 scale
  have hextent : (x.extent : ℚ) = x.significand * 2 ^ k * unitsPerOne := by
    rw [hpow, mul_assoc, ← pow_add, hscale, ← h]
    exact (Nat.cast_mul _ _).trans (congrArg _ (Nat.cast_pow 2 x.scale))
  rw [magnitude, hextent, mul_div_cancel_right₀ _ cast_unitsPerOne_pos.ne']

theorem magnitude_around_overflow (negative : Bool) : ∃ half : ℚ, 0 < half ∧
    largest.magnitude = overflow - half ∧ (infinite negative).magnitude = overflow + half := by
  have hlargest : largest.significand = 2 ^ 53 - 1 := rfl
  have hinfinite : (infinite negative).significand = 2 ^ 52 := rfl
  have hlast : largest.scale = 970 + 1 + 1074 := rfl
  have hnext : (infinite negative).scale = 970 + 2 + 1074 := rfl
  unfold overflow
  generalize 970 = k at *
  refine ⟨2 ^ k, by positivity, ?_, ?_⟩
  · rw [magnitude_of_scale hlast, hlargest, pow_add]
    norm_num
    ring
  · rw [magnitude_of_scale hnext, hinfinite, pow_add]
    norm_num
    ring

theorem magnitude_le_largest {x : Binary64} {u : Nat} (h : x.units? = some u) : x.magnitude ≤ largest.magnitude :=
  div_le_div_of_nonneg_right (Nat.cast_le.2 (extent_le_largest h)) cast_unitsPerOne_pos.le

theorem magnitude_lt_overflow {x : Binary64} {u : Nat} (h : x.units? = some u) : x.magnitude < overflow := by
  obtain ⟨half, hhalf, hlargest, -⟩ := magnitude_around_overflow false
  have hle := magnitude_le_largest h
  linarith

theorem IsNearest.overflow_le {x : Binary64} {q : ℚ} (hx : x.IsNearest q) (hnone : x.units? = none) :
    overflow ≤ q := by
  obtain ⟨half, hhalf, hlargest, hinfinite⟩ := magnitude_around_overflow x.isNegative
  have hplace : x.magnitude = (infinite x.isNegative).magnitude := by
    cases x with
    | infinite => rfl
    | finite => cases hnone
  have hle := hx.least largest
  rw [hplace, hinfinite, hlargest] at hle
  refine le_of_not_gt fun hlt => ?_
  rw [abs_of_nonneg (by linarith)] at hle
  rcases abs_cases (overflow - half - q) with ⟨h, -⟩ | ⟨h, -⟩ <;> linarith

theorem IsNearest.lt_overflow {x : Binary64} {q : ℚ} {u : Nat} (hx : x.IsNearest q) (hu : x.units? = some u) :
    q < overflow := by
  obtain ⟨half, hhalf, hlargest, hinfinite⟩ := magnitude_around_overflow x.isNegative
  refine lt_of_not_ge fun hle => ?_
  have hfinite := magnitude_le_largest hu
  have htop := hx.least (infinite x.isNegative)
  rw [hlargest] at hfinite
  rw [hinfinite, abs_of_nonpos (by linarith : x.magnitude - q ≤ 0)] at htop
  -- Only the largest number is as near as the place of infinity, and its significand is odd.
  have heq : x.magnitude = largest.magnitude := by
    rw [hlargest]
    rcases abs_cases (overflow + half - q) with ⟨h, -⟩ | ⟨h, -⟩ <;> linarith
  have htie : |(infinite x.isNegative).magnitude - q| = |x.magnitude - q| := by
    rw [hinfinite, heq, hlargest, abs_of_nonpos (by linarith : overflow - half - q ≤ 0)]
    rcases abs_cases (overflow + half - q) with ⟨h, -⟩ | ⟨h, -⟩ <;> linarith
  have heven := hx.even (infinite x.isNegative) (by rw [heq, hlargest, hinfinite]; linarith) htie
  rw [(extent_inj (extent_eq_of_magnitude_eq heq)).1] at heven
  exact absurd heven (by decide)

/-- Only what is at least halfway to the place of infinity is rounded to it. -/
theorem IsNearest.units?_eq_none_iff {x : Binary64} {q : ℚ} (hx : x.IsNearest q) :
    x.units? = none ↔ overflow ≤ q := by
  refine ⟨hx.overflow_le, fun hle => Option.eq_none_iff_forall_ne_some.2 fun u hu => ?_⟩
  exact absurd (hx.lt_overflow hu) (not_lt_of_ge hle)

end ParamQuery.Number.Binary64
