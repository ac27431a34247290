import ParamQuery.Proofs.Numerals
import ParamQuery.Proofs.Number.LeadingDigits

/-!
# The digits at the start of a text

`SignedDigits` says which run of digits a text has behind white space and an optional sign.  There is one at most, and
`leadingInt` reads it (`leadingInt_eq_some_iff`): no integer is read where there is none, or where it is too long
(`leadingInt_eq_none_iff`).
-/

namespace ParamQuery.Number

variable {ds : List Char}

/-- Behind white space and an optional sign, the text has these digits and no more. -/
structure SignedDigits (s : String) (negative : Bool) (digits : List Char) : Prop where
  split : ∃ gaps sign rest, s.toList = gaps ++ (sign ++ (digits ++ rest)) ∧ (∀ c ∈ gaps, isGap c = true) ∧
    IsSign sign negative ∧ NoDigit rest
  isDigit : Digits digits
  ne_nil : digits ≠ []

/-- The white space before a number ends at its sign or at its first digit. -/
theorem dropWhile_gaps {gaps sign : List Char} {negative : Bool} (hgaps : ∀ c ∈ gaps, isGap c = true)
    (hsign : IsSign sign negative) (hds : Digits ds) (hne : ds ≠ []) (rest : List Char) :
    (gaps ++ (sign ++ (ds ++ rest))).dropWhile isGap = sign ++ (ds ++ rest) := by
  obtain ⟨d, ds, rfl⟩ := List.exists_cons_of_ne_nil hne
  have hd : isGap d = false := isGap_of_isDigit (hds d List.mem_cons_self)
  rw [List.dropWhile_append_of_pos hgaps]
  cases hsign with
  | none => exact List.dropWhile_cons_of_neg (by simp [hd])
  | plus => rfl
  | minus => rfl

theorem signedDigits_iff {s : String} {negative : Bool} {digits : List Char} :
    SignedDigits s negative digits ↔
      (takeSign (s.toList.dropWhile isGap)).1 = negative ∧
        (takeSign (s.toList.dropWhile isGap)).2.takeWhile Char.isDigit = digits ∧ digits ≠ [] := by
  constructor
  · rintro ⟨⟨gaps, sign, rest, hs, hgaps, hsign, hrest⟩, hdigits, hne⟩
    rw [hs, dropWhile_gaps hgaps hsign hdigits hne, takeSign_append hsign (noSign_of_digits hdigits hne rest)]
    exact ⟨rfl, takeWhile_digits_append hdigits hrest, hne⟩
  · rintro ⟨hnegative, hdigits, hne⟩
    obtain ⟨sign, hsign, hcs⟩ := exists_sign (s.toList.dropWhile isGap)
    refine ⟨⟨s.toList.takeWhile isGap, sign, (takeSign (s.toList.dropWhile isGap)).2.dropWhile Char.isDigit, ?_,
      List.all_eq_true.1 List.all_takeWhile, hnegative ▸ hsign, noDigit_dropWhile _⟩, ?_, hne⟩
    · rw [← hdigits, List.takeWhile_append_dropWhile, ← hcs, List.takeWhile_append_dropWhile]
    · rw [← hdigits]
      exact digits_takeWhile _

theorem leadingInt_eq_some_iff {s : String} {n : Int} :
    leadingInt s = some n ↔ ∃ negative digits, SignedDigits s negative digits ∧ digits.length ≤ maxDigits ∧
      n = signed negative (digitsValue digits) := by
  simp only [signedDigits_iff]
  unfold leadingInt
  simp only [List.isEmpty_iff]
  constructor
  · intro h
    split at h
    · cases h
    · next hdigits =>
      obtain ⟨hne, hlength⟩ := not_or.1 hdigits
      cases h
      exact ⟨_, _, ⟨rfl, rfl, hne⟩, Nat.not_lt.1 hlength, rfl⟩
  · rintro ⟨negative, digits, ⟨rfl, rfl, hne⟩, hlength, rfl⟩
    exact if_neg (not_or.2 ⟨hne, Nat.not_lt.2 hlength⟩)

/-- What is read from few enough digits can be written with few enough. -/
theorem writable_of_leadingInt {s : String} {n : Int} (h : leadingInt s = some n) : Writable n := by
  obtain ⟨negative, digits, hdigits, hlength, rfl⟩ := leadingInt_eq_some_iff.1 h
  -- Over a variable, so that the power is not evaluated.
  have hpow : ∀ k, digits.length ≤ k → Nat.pow 10 digits.length ≤ Nat.pow 10 k :=
    fun k h => Nat.pow_le_pow_right (by decide) h
  rw [writable_iff, natAbs_signed]
  exact Nat.lt_of_lt_of_le (digitsValue_lt hdigits.isDigit) (hpow maxDigits hlength)

/-- No integer is read where there are no digits, or too many. -/
theorem leadingInt_eq_none_iff {s : String} :
    leadingInt s = none ↔ (¬ ∃ negative digits, SignedDigits s negative digits) ∨
      ∃ negative digits, SignedDigits s negative digits ∧ maxDigits < digits.length := by
  have hnone : leadingInt s = none ↔
      (takeSign (s.toList.dropWhile isGap)).2.takeWhile Char.isDigit = [] ∨
        maxDigits < ((takeSign (s.toList.dropWhile isGap)).2.takeWhile Char.isDigit).length := by
    unfold leadingInt
    simp only [List.isEmpty_iff, ite_eq_left_iff, reduceCtorEq, imp_false, Decidable.not_not]
  simp only [hnone, signedDigits_iff]
  constructor
  · rintro (hempty | hlong)
    · refine .inl ?_
      rintro ⟨negative, digits, -, hdigits, hne⟩
      exact hne (hdigits.symm.trans hempty)
    · refine .inr ⟨_, _, ⟨rfl, rfl, fun hempty => ?_⟩, hlong⟩
      rw [hempty] at hlong
      exact Nat.not_lt_zero _ hlong
  · rintro (hno | ⟨negative, digits, ⟨-, rfl, -⟩, hlong⟩)
    · exact .inl (Decidable.not_not.1 fun hne => hno ⟨_, _, rfl, rfl, hne⟩)
    · exact .inr hlong

end ParamQuery.Number
