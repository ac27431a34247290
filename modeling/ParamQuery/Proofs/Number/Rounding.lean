import ParamQuery.Number.Binary64

/-!
# Rounding to binary floating-point numbers

`Binary64.ofUnits` rounds a quotient of naturals to a multiple of the gap between the numbers of its size (`ulp`).
Stated for magnitudes in units:

* the result is off by half a gap at most (`ofUnits_bounds`);
* rounding does not pass over a representable number (`le_ofUnits`, `ofUnits_le`), and so such a number is its own
  rounding;
* there is a result unless the quotient is too large (`exists_ofUnits`).
-/

namespace ParamQuery.Number

/-- Which side the quotient is rounded to, a half going to the even one. -/
theorem roundHalfEven_sides (num den : Nat) :
    (roundHalfEven num den = num / den ∧
        (2 * (num % den) < den ∨ 2 * (num % den) = den ∧ num / den % 2 = 0)) ∨
      (roundHalfEven num den = num / den + 1 ∧
        (den < 2 * (num % den) ∨ 2 * (num % den) = den ∧ (num / den + 1) % 2 = 0)) := by
  unfold roundHalfEven
  dsimp only
  split
  · next h => exact .inl ⟨rfl, h⟩
  · exact .inr ⟨rfl, by omega⟩

theorem roundHalfEven_cases (num den : Nat) :
    (roundHalfEven num den = num / den ∧ 2 * (num % den) ≤ den) ∨
      (roundHalfEven num den = num / den + 1 ∧ den ≤ 2 * (num % den)) := by
  rcases roundHalfEven_sides num den with ⟨heq, hrest⟩ | ⟨heq, hrest⟩
  · exact .inl ⟨heq, by omega⟩
  · exact .inr ⟨heq, by omega⟩

theorem roundHalfEven_bounds {den : Nat} (hden : 0 < den) (num : Nat) :
    2 * num ≤ 2 * (roundHalfEven num den * den) + den ∧
      2 * (roundHalfEven num den * den) ≤ 2 * num + den := by
  have hdiv : num / den * den + num % den = num := Nat.div_add_mod' num den
  have hmod : num % den < den := Nat.mod_lt num hden
  have hsucc : (num / den + 1) * den = num / den * den + den := Nat.succ_mul _ _
  rcases roundHalfEven_cases num den with ⟨heq, hrest⟩ | ⟨heq, hrest⟩
  · rw [heq]
    omega
  · rw [heq]
    omega

theorem le_roundHalfEven {den : Nat} (hden : 0 < den) {a num : Nat} (h : a * den ≤ num) :
    a ≤ roundHalfEven num den := by
  have hdiv : a ≤ num / den := (Nat.le_div_iff_mul_le hden).2 h
  rcases roundHalfEven_cases num den with ⟨heq, -⟩ | ⟨heq, -⟩ <;> omega

theorem roundHalfEven_le {den : Nat} (hden : 0 < den) {a num : Nat} (h : num ≤ a * den) :
    roundHalfEven num den ≤ a := by
  have hdiv : num / den * den + num % den = num := Nat.div_add_mod' num den
  have hle : num / den ≤ a := Nat.div_le_of_le_mul (by rwa [Nat.mul_comm])
  rcases roundHalfEven_cases num den with ⟨heq, -⟩ | ⟨heq, hrest⟩
  · rwa [heq]
  · rw [heq]
    -- What is rounded up is no multiple, so the quotient is less than the bound.
    rcases Nat.lt_or_eq_of_le hle with hlt | hmultiple
    · exact hlt
    · rw [hmultiple] at hdiv
      omega

theorem two_pow_add (m n : Nat) : Nat.pow 2 (m + n) = Nat.pow 2 m * Nat.pow 2 n :=
  Nat.pow_add 2 m n

theorem two_pow_pos (n : Nat) : 0 < Nat.pow 2 n :=
  Nat.two_pow_pos n

theorem two_pow_le {m n : Nat} (h : m ≤ n) : Nat.pow 2 m ≤ Nat.pow 2 n :=
  Nat.pow_le_pow_right (by decide) h

theorem two_pow_carry (scale : Nat) : Nat.pow 2 52 * Nat.pow 2 (scale + 1) = Nat.pow 2 53 * Nat.pow 2 scale := by
  rw [← two_pow_add, ← two_pow_add, Nat.add_left_comm, Nat.add_comm scale]

namespace Binary64

/-- The number of units has a significand of 53 bits at most. -/
def Representable (units : Nat) : Prop :=
  ∃ significand scale, significand < Nat.pow 2 53 ∧ units = significand * Nat.pow 2 scale

/-- The gap between the numbers of the size of `num / den` units. -/
def ulp (num den : Nat) : Nat :=
  Nat.pow 2 ((num / den).log2 - 52)

theorem ulp_pos (num den : Nat) : 0 < ulp num den :=
  two_pow_pos _

/-- The least gap is one unit. -/
theorem ulp_eq_one {num den : Nat} (h : (num / den).log2 ≤ 52) : ulp num den = 1 := by
  rw [ulp, Nat.sub_eq_zero_of_le h]

/-- The number of gaps in a quotient, up to rounding, has 53 bits. -/
theorem significand_le {num den : Nat} (hden : 0 < den) :
    roundHalfEven num (den * ulp num den) ≤ Nat.pow 2 53 := by
  apply roundHalfEven_le (Nat.mul_pos hden (ulp_pos num den))
  have hlog : num / den < Nat.pow 2 ((num / den).log2 + 1) := Nat.lt_log2_self
  have hnum : num < Nat.pow 2 ((num / den).log2 + 1) * den := (Nat.div_lt_iff_lt_mul hden).1 hlog
  calc num ≤ Nat.pow 2 ((num / den).log2 + 1) * den := Nat.le_of_lt hnum
    _ ≤ Nat.pow 2 (53 + ((num / den).log2 - 52)) * den := Nat.mul_le_mul_right _ (two_pow_le (by omega))
    _ = Nat.pow 2 53 * (den * ulp num den) := by rw [two_pow_add, ulp, Nat.mul_assoc, Nat.mul_comm den]

/-- The least magnitude with this gap, unless the gap is the least one. -/
theorem le_div_of_ulp {num den : Nat} (hscale : 52 < (num / den).log2) :
    Nat.pow 2 52 * ulp num den ≤ num / den := by
  have hne : num / den ≠ 0 := by
    intro h
    rw [h] at hscale
    exact absurd hscale (by decide)
  have hlog : Nat.pow 2 (num / den).log2 ≤ num / den := Nat.log2_self_le hne
  rwa [ulp, ← two_pow_add, Nat.add_sub_cancel' (Nat.le_of_lt hscale)]

theorem le_significand {num den : Nat} (hden : 0 < den) (hscale : 52 < (num / den).log2) :
    Nat.pow 2 52 ≤ roundHalfEven num (den * ulp num den) := by
  apply le_roundHalfEven (Nat.mul_pos hden (ulp_pos num den))
  have hle := (Nat.le_div_iff_mul_le hden).1 (le_div_of_ulp hscale)
  rwa [Nat.mul_comm den, ← Nat.mul_assoc]

theorem units?_pack {negative : Bool} {significand scale : Nat} {u : Nat}
    (h : (pack negative significand scale).units? = some u) : u = significand * Nat.pow 2 scale := by
  unfold pack at h
  split at h
  · exact (Option.some.inj h).symm
  · cases h

/-- A rounded magnitude is a number of gaps. -/
theorem units?_ofUnits {negative : Bool} {num den u : Nat} (h : (ofUnits negative num den).units? = some u) :
    u = roundHalfEven num (den * ulp num den) * ulp num den := by
  unfold ofUnits at h
  simp only at h
  split at h
  · next hfull =>
    rw [units?_pack h, two_pow_carry, ← hfull]
    rfl
  · exact units?_pack h

theorem isNegative_pack (negative : Bool) (significand scale : Nat) :
    (pack negative significand scale).isNegative = negative := by
  unfold pack
  split <;> rfl

theorem isNegative_ofUnits (negative : Bool) (num den : Nat) :
    (ofUnits negative num den).isNegative = negative := by
  unfold ofUnits
  simp only
  split <;> exact isNegative_pack _ _ _

/-- The units in one as a power of two; the exponent is a variable, so that nobody computes the power. -/
theorem exists_unitsPerOne_eq : ∃ scale, scale = 1074 ∧ unitsPerOne = Nat.pow 2 scale := by
  unfold unitsPerOne
  generalize 1074 = scale
  exact ⟨scale, rfl, rfl⟩

theorem unitsPerOne_pos : 0 < unitsPerOne := by
  obtain ⟨scale, -, h⟩ := exists_unitsPerOne_eq
  rw [h]
  exact two_pow_pos scale

/-- The size of a magnitude less than `2 ^ k`. -/
theorem log2_lt_of_units {n k : Nat} (h : n < Nat.pow 2 k * unitsPerOne) : n.log2 < k + 1074 := by
  obtain ⟨scale, hscale, hone⟩ := exists_unitsPerOne_eq
  rw [hone, ← two_pow_add] at h
  rw [← hscale]
  rcases Nat.eq_zero_or_pos n with rfl | hpos
  · rw [Nat.log2_zero]
    omega
  · exact (Nat.log2_lt (Nat.ne_of_gt hpos)).2 h

theorem isNegative_ofRatio (negative : Bool) (num den : Nat) : (ofRatio negative num den).isNegative = negative := by
  rw [ofRatio, isNegative_ofUnits]

theorem divNat_of_units? {x : Binary64} {units : Nat} (h : x.units? = some units) (divisor : Nat) :
    x.divNat divisor = ofUnits x.isNegative units divisor := by
  rw [divNat, h]

/-- An infinity stays what it is. -/
theorem divNat_of_units?_eq_none {x : Binary64} (h : x.units? = none) (divisor : Nat) : x.divNat divisor = x := by
  rw [divNat, h]

theorem isNegative_divNat (x : Binary64) (divisor : Nat) : (x.divNat divisor).isNegative = x.isNegative := by
  cases h : x.units? with
  | none => rw [divNat_of_units?_eq_none h]
  | some units => rw [divNat_of_units? h, isNegative_ofUnits]

/-- A magnitude less than `2 ^ 1023` has a rounding that is finite. -/
theorem exists_ofUnits (negative : Bool) {num den : Nat} (hden : 0 < den) {k : Nat} (hk : k ≤ 1023)
    (h : num / den < Nat.pow 2 k * unitsPerOne) : ∃ u, (ofUnits negative num den).units? = some u := by
  have hlog := log2_lt_of_units h
  have hpack : ∀ significand scale, Canonical significand scale →
      ∃ u, (pack negative significand scale).units? = some u := by
    intro significand scale hcanonical
    rw [pack, dif_pos hcanonical]
    exact ⟨_, rfl⟩
  have hle : roundHalfEven num (den * ulp num den) ≤ Nat.pow 2 53 := significand_le hden
  unfold ofUnits
  simp only
  split
  · exact hpack _ _ ⟨by decide, by omega, .inr (Nat.le_refl _)⟩
  · next hfull =>
    refine hpack _ _ ⟨Nat.lt_of_le_of_ne hle hfull, by omega, ?_⟩
    rcases Nat.lt_or_ge 52 (num / den).log2 with hscale | hscale
    · exact .inr (le_significand hden hscale)
    · exact .inl (by omega)

variable {negative : Bool} {num den u : Nat}

/-- Half a gap on both sides. -/
theorem ofUnits_bounds (hden : 0 < den) (hu : (ofUnits negative num den).units? = some u) :
    2 * num ≤ 2 * (u * den) + den * ulp num den ∧ 2 * (u * den) ≤ 2 * num + den * ulp num den := by
  have hbounds := roundHalfEven_bounds (Nat.mul_pos hden (ulp_pos num den)) num
  have hunits : u * den = roundHalfEven num (den * ulp num den) * (den * ulp num den) := by
    rw [units?_ofUnits hu, Nat.mul_assoc, Nat.mul_comm (ulp num den)]
  rwa [hunits]

/-- Below `2 ^ k` the gap is at most `2 ^ (k - 53)`. -/
theorem two_pow_mul_ulp_le {j k : Nat} (h : num / den < Nat.pow 2 k * unitsPerOne) (hjk : j + k ≤ 53) :
    Nat.pow 2 j * ulp num den ≤ unitsPerOne := by
  obtain ⟨scale, hscale, hone⟩ := exists_unitsPerOne_eq
  have hlog := log2_lt_of_units h
  rw [hone, ulp, ← two_pow_add]
  exact two_pow_le (by omega)

/-- A number of 53 bits over a power of two is representable. -/
theorem exists_representable {a k : Nat} (ha : a < Nat.pow 2 53) (hk : k ≤ 1074) :
    ∃ units, Representable units ∧ units * Nat.pow 2 k = a * unitsPerOne := by
  obtain ⟨scale, hscale, hone⟩ := exists_unitsPerOne_eq
  refine ⟨a * Nat.pow 2 (scale - k), ⟨a, scale - k, ha, rfl⟩, ?_⟩
  rw [hone, Nat.mul_assoc, ← two_pow_add, Nat.sub_add_cancel (by omega)]

theorem representable_mul_unitsPerOne {n : Nat} (h : n < Nat.pow 2 53) : Representable (n * unitsPerOne) := by
  obtain ⟨units, hunits, heq⟩ := exists_representable h (Nat.zero_le 1074)
  rwa [← heq, show Nat.pow 2 0 = 1 from rfl, Nat.mul_one]

/-- A representable number that is not below the numbers with the gap is a number of gaps. -/
theorem Representable.exists_mul_ulp {a : Nat} (ha : Representable a) (h : Nat.pow 2 52 * ulp num den ≤ a) :
    ∃ b, a = b * ulp num den := by
  obtain ⟨significand, scale, hsignificand, rfl⟩ := ha
  have hscale : (num / den).log2 - 52 ≤ scale := by
    refine Nat.le_of_not_lt fun hlt => ?_
    have hpow : Nat.pow 2 (53 + scale) ≤ Nat.pow 2 (52 + ((num / den).log2 - 52)) := two_pow_le (by omega)
    have hsmall : significand * Nat.pow 2 scale < Nat.pow 2 53 * Nat.pow 2 scale :=
      Nat.mul_lt_mul_of_pos_right hsignificand (two_pow_pos scale)
    rw [two_pow_add, two_pow_add] at hpow
    exact Nat.not_le.2 hsmall (Nat.le_trans hpow h)
  refine ⟨significand * Nat.pow 2 (scale - ((num / den).log2 - 52)), ?_⟩
  rw [ulp, Nat.mul_assoc, ← two_pow_add, Nat.sub_add_cancel hscale]

/-- What is not less than a representable number is not rounded to less. -/
theorem le_ofUnits (hden : 0 < den) {a : Nat} (ha : Representable a) (h : a * den ≤ num)
    (hu : (ofUnits negative num den).units? = some u) : a ≤ u := by
  have hpos : 0 < den * ulp num den := Nat.mul_pos hden (ulp_pos num den)
  have hmultiple : ∀ b, a = b * ulp num den → a ≤ u := by
    rintro b rfl
    rw [units?_ofUnits hu]
    apply Nat.mul_le_mul_right
    exact le_roundHalfEven hpos (by rwa [Nat.mul_comm den, ← Nat.mul_assoc])
  rcases Nat.lt_or_ge 52 (num / den).log2 with hscale | hscale
  · rcases Nat.lt_or_ge a (Nat.pow 2 52 * ulp num den) with hlt | hge
    · rw [units?_ofUnits hu]
      exact Nat.le_trans (Nat.le_of_lt hlt) (Nat.mul_le_mul_right _ (le_significand hden hscale))
    · obtain ⟨b, hb⟩ := ha.exists_mul_ulp hge
      exact hmultiple b hb
  · exact hmultiple a (by rw [ulp_eq_one hscale, Nat.mul_one])

/-- What is not more than a representable number is not rounded to more. -/
theorem ofUnits_le (hden : 0 < den) {a : Nat} (ha : Representable a) (h : num ≤ a * den)
    (hu : (ofUnits negative num den).units? = some u) : u ≤ a := by
  have hpos : 0 < den * ulp num den := Nat.mul_pos hden (ulp_pos num den)
  have hmultiple : ∀ b, a = b * ulp num den → u ≤ a := by
    rintro b rfl
    rw [units?_ofUnits hu]
    apply Nat.mul_le_mul_right
    exact roundHalfEven_le hpos (by rwa [Nat.mul_comm den, ← Nat.mul_assoc])
  rcases Nat.lt_or_ge 52 (num / den).log2 with hscale | hscale
  · have hdiv : num / den ≤ a := Nat.div_le_of_le_mul (by rwa [Nat.mul_comm])
    obtain ⟨b, hb⟩ := ha.exists_mul_ulp (Nat.le_trans (le_div_of_ulp hscale) hdiv)
    exact hmultiple b hb
  · exact hmultiple a (by rw [ulp_eq_one hscale, Nat.mul_one])

theorem mul_unitsPerOne_div_lt {n : Nat} (h : n < Nat.pow 2 53) {den : Nat} :
    n * unitsPerOne / den < Nat.pow 2 53 * unitsPerOne :=
  Nat.lt_of_le_of_lt (Nat.div_le_self _ _) (Nat.mul_lt_mul_of_pos_right h unitsPerOne_pos)

/-- Integers up to `2 ^ 53` are floating-point numbers. -/
theorem units?_ofRatio {n : Nat} (h : n < Nat.pow 2 53) :
    (ofRatio negative n 1).units? = some (n * unitsPerOne) := by
  obtain ⟨u, hu⟩ := exists_ofUnits negative Nat.one_pos (by decide) (mul_unitsPerOne_div_lt h)
  have hrepresentable := representable_mul_unitsPerOne h
  have hle := ofUnits_le Nat.one_pos hrepresentable (Nat.le_of_eq (Nat.mul_one _).symm) hu
  have hge := le_ofUnits Nat.one_pos hrepresentable (Nat.le_of_eq (Nat.mul_one _)) hu
  rw [Nat.le_antisymm hle hge] at hu
  exact hu

end Binary64

end ParamQuery.Number
