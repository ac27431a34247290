import ParamQuery.Proofs.Numerals
import ParamQuery.Proofs.Number.CorrectRounding
import ParamQuery.Proofs.Number.NumeralGrammar

/-!
# The floating-point number at the start of a text

The number read is the one nearest to what the longest numeral writes (`leadingFloat_nearest`), for any number of
digits and any power of ten.  What follows the numeral does not matter; the mark of a power of ten that is not written
in full is part of that.
-/

namespace ParamQuery.Number

variable {cs ds w : List Char}

/-- The number that is read where this is written. -/
def Binary64.Reads (x : Binary64) : SignedValue → Prop
  | ⟨negative, none⟩ => x = .infinite negative
  | ⟨negative, some q⟩ => x.isNegative = negative ∧ x.IsNearest q

theorem Binary64.Reads.unique {x y : Binary64} {v : SignedValue} (hx : x.Reads v) (hy : y.Reads v) : x = y := by
  obtain ⟨negative, _ | q⟩ := v
  · exact hx.trans hy.symm
  · exact hx.2.unique hy.2 (hx.1.trans hy.1.symm)

/-- Digits times a power of ten are rounded to the nearest number. -/
theorem reads_decimal (hds : Digits ds) {q : ℚ} {e : Int} (hq : q = digitsValue ds * 10 ^ e) (negative : Bool) :
    (Magnitude.toBinary64 negative (.decimal ds e)).Reads ⟨negative, some q⟩ := by
  rw [hq]
  exact ⟨Binary64.isNegative_ofDecimal _ _ _ _, Binary64.isNearest_ofDecimal negative (digitsValue_lt hds) e⟩

/-- Where neither the word for infinity nor a mantissa begins, no magnitude does. -/
theorem not_prefix_of_mantissa (hinfinity : ¬ "Infinity".toList <+: cs)
    (hmantissa : ∀ {m : List Char} {q : ℚ}, IsMantissa m q → ¬ m <+: cs) {v : Option ℚ} (hw : IsMagnitude w v) :
    ¬ w <+: cs := by
  intro hfront
  cases hw with
  | infinity => exact hinfinity hfront
  | @decimal m p _ _ hm => exact hmantissa hm ((List.prefix_append m p).trans hfront)

/-- What is read of a text is its longest numeral without a sign, if there is one. -/
theorem leadingMagnitude_cases (cs : List Char) :
    (leadingMagnitude cs = none ∧ ∀ {w : List Char} {v : Option ℚ}, IsMagnitude w v → ¬ w <+: cs) ∨
      ∃ magnitude w v, leadingMagnitude cs = some magnitude ∧ Longest IsMagnitude cs w v ∧
        ∀ negative, (magnitude.toBinary64 negative).Reads ⟨negative, v⟩ := by
  by_cases hinfinity : "Infinity".toList <+: cs
  · right
    refine ⟨.infinite, _, _, ?_, longest_infinity hinfinity, fun _ => rfl⟩
    rw [leadingMagnitude, if_pos (List.isPrefixOf_iff_prefix.2 hinfinity)]
  · obtain ⟨ds, rest, rfl, hds, hrest⟩ := exists_digits_append cs
    unfold leadingMagnitude
    rw [if_neg (fun h => hinfinity (List.isPrefixOf_iff_prefix.1 h))]
    simp only [takeWhile_digits_append hds hrest, dropWhile_digits_append hds hrest, List.isEmpty_iff]
    split
    · next tail =>
      obtain ⟨fs, after, rfl, hfs, hafter⟩ := exists_digits_append tail
      simp only [takeWhile_digits_append hfs hafter, dropWhile_digits_append hfs hafter]
      split
      · next hempty =>
        obtain ⟨rfl, rfl⟩ := hempty
        exact .inl ⟨rfl, not_prefix_of_mantissa hinfinity fun hm => not_prefix_point hm hafter⟩
      · next hne =>
        right
        obtain ⟨p, hp⟩ := exists_longest_power after
        have hm := longest_pointed hds hfs (Decidable.not_and_iff_or_not.1 hne) hafter
        have hcs : ds ++ '.' :: (fs ++ after) = ds ++ '.' :: fs ++ after := by simp
        rw [hcs] at hinfinity ⊢
        refine ⟨_, _, _, rfl, hm.decimal hp hinfinity, reads_decimal (digits_append hds hfs) ?_⟩
        rw [pointed_value, mul_assoc, ← zpow_add₀ (by norm_num), neg_add_eq_sub]
    · next hpoint =>
      have hpoint : rest.head? ≠ some '.' := fun h => by
        obtain ⟨tail, rfl⟩ := List.head?_eq_some_iff.1 h
        exact hpoint tail rfl
      split
      · next hempty =>
        subst hempty
        refine .inl ⟨rfl, not_prefix_of_mantissa hinfinity fun hm hfront => ?_⟩
        obtain ⟨c, hc, hkind | rfl⟩ := hm.exists_head hfront
        · rw [hrest c hc] at hkind
          cases hkind
        · exact hpoint hc
      · next hne =>
        right
        obtain ⟨p, hp⟩ := exists_longest_power rest
        exact ⟨_, _, _, rfl, (longest_whole hds hne hrest hpoint).decimal hp hinfinity, reads_decimal hds rfl⟩

theorem not_prefix_of_magnitude {sign : List Char} (hcs : cs = sign ++ (takeSign cs).2)
    (h : ∀ {w : List Char} {v : Option ℚ}, IsMagnitude w v → ¬ w <+: (takeSign cs).2) {v : SignedValue}
    (hw : IsNumeral w v) : ¬ w <+: cs := by
  rintro ⟨rest, hrest⟩
  cases hw with
  | mk hsign hmagnitude =>
    rw [List.append_assoc] at hrest
    obtain ⟨-, -, hbody⟩ := sign_unique hcs hsign (hmagnitude.noSign rest) hrest
    exact h hmagnitude ⟨rest, hbody⟩

/-- The numeral of a text: the longest one behind its white space. -/
structure IsNumeralOf (s : String) (w : List Char) (v : SignedValue) : Prop where
  numeral : IsNumeral w v
  isPrefix : w <+: s.toList.dropWhile isGap
  longest : ∀ {w' : List Char} {v' : SignedValue}, IsNumeral w' v' → w' <+: s.toList.dropWhile isGap →
    w'.length ≤ w.length

theorem leadingFloat_cases (s : String) :
    (leadingFloat s = none ∧ ∀ {w : List Char} {v : SignedValue}, IsNumeral w v → ¬ w <+: s.toList.dropWhile isGap) ∨
      ∃ x w v, leadingFloat s = some x ∧ Longest IsNumeral (s.toList.dropWhile isGap) w v ∧ x.Reads v := by
  obtain ⟨sign, hsign, hcs⟩ := exists_sign (s.toList.dropWhile isGap)
  unfold leadingFloat
  simp only
  rcases leadingMagnitude_cases (takeSign (s.toList.dropWhile isGap)).2 with
    ⟨hnone, hno⟩ | ⟨magnitude, w, v, hsome, hlongest, hreads⟩
  · rw [hnone]
    exact .inl ⟨rfl, not_prefix_of_magnitude hcs hno⟩
  · rw [hsome]
    exact .inr ⟨_, _, _, rfl, hlongest.signed hsign hcs, hreads _⟩

/-- A numeral at the front of a text is read. -/
theorem IsNumeralOf.exists_reads {s : String} {v : SignedValue} (h : IsNumeralOf s w v) :
    ∃ x, leadingFloat s = some x ∧ x.Reads v := by
  rcases leadingFloat_cases s with ⟨-, hno⟩ | ⟨x, w', v', hsome, hlongest, hreads⟩
  · exact absurd h.isPrefix (hno h.numeral)
  · rcases hlongest.others h.numeral h.isPrefix with ⟨-, rfl⟩ | hlt
    · exact ⟨x, hsome, hreads⟩
    · exact absurd (h.longest hlongest.reads hlongest.isPrefix) (Nat.not_le.2 hlt)

theorem leadingFloat_eq_some_iff {s : String} {x : Binary64} :
    leadingFloat s = some x ↔ ∃ w v, IsNumeralOf s w v ∧ x.Reads v := by
  constructor
  · intro hx
    rcases leadingFloat_cases s with ⟨hnone, -⟩ | ⟨y, w, v, hsome, hlongest, hreads⟩
    · rw [hnone] at hx
      cases hx
    · rw [hsome] at hx
      cases hx
      refine ⟨w, v, ⟨hlongest.reads, hlongest.isPrefix, fun hw' hfront => ?_⟩, hreads⟩
      rcases hlongest.others hw' hfront with ⟨rfl, -⟩ | hlt
      · exact Nat.le_refl _
      · exact Nat.le_of_lt hlt
  · rintro ⟨w, v, hw, hx⟩
    obtain ⟨y, hy, hreads⟩ := hw.exists_reads
    rw [hy, hreads.unique hx]

theorem leadingFloat_eq_none_iff {s : String} :
    leadingFloat s = none ↔ ¬ ∃ w v, IsNumeral w v ∧ w <+: s.toList.dropWhile isGap := by
  rcases leadingFloat_cases s with ⟨hnone, hno⟩ | ⟨x, w, v, hsome, hlongest, -⟩
  · refine iff_of_true hnone ?_
    rintro ⟨w, v, hw, hfront⟩
    exact hno hw hfront
  · refine iff_of_false (by rw [hsome]; simp) fun h => h ⟨w, v, hlongest.reads, hlongest.isPrefix⟩

/-- No number is read only where no numeral stands behind the white space.  Elsewhere the number is the one nearest to
what the longest numeral writes, with its sign; it is an infinity where that is written, or from the bound of overflow
on. -/
theorem leadingFloat_nearest (s : String) :
    (leadingFloat s = none ↔ ¬ ∃ w v, IsNumeral w v ∧ w <+: s.toList.dropWhile isGap) ∧
      (∀ x, leadingFloat s = some x ↔ ∃ w v, IsNumeralOf s w v ∧ x.Reads v) ∧
      ∀ x w negative q, leadingFloat s = some x → IsNumeralOf s w ⟨negative, some q⟩ →
        (x.units? = none ↔ Binary64.overflow ≤ q) := by
  refine ⟨leadingFloat_eq_none_iff, fun x => leadingFloat_eq_some_iff, fun x w negative q hx hw => ?_⟩
  obtain ⟨y, hy, -, hnearest⟩ := hw.exists_reads
  rw [hx] at hy
  cases hy
  exact hnearest.units?_eq_none_iff

example : leadingFloat "\t-12.5e+x" = leadingFloat "-12.5" := by decide +kernel

end ParamQuery.Number
