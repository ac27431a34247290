import ParamQuery.Number.Written
import ParamQuery.Proofs.Text.Digits
import ParamQuery.Text.Blank

/-!
# Integers in decimal

An integer of at most `maxDigits` digits can be written (`intText?_of_writable`).  Its text has nothing but digits and
a minus, so it is not changed by trimming and cannot be taken for something else.  Read as a floating-point number it
is the one nearest to the integer (`leadingFloat_intDigits`), whatever the number of digits.
-/

namespace ParamQuery.Number

/-- The integer has few enough decimal digits to be written and read. -/
def Writable (n : Int) : Prop :=
  (Nat.toDigits 10 n.natAbs).length ≤ maxDigits

instance (n : Int) : Decidable (Writable n) :=
  inferInstanceAs (Decidable (_ ≤ _))

private theorem length_toDigits_le_iff {n k : Nat} (hk : 0 < k) :
    (Nat.toDigits 10 n).length ≤ k ↔ n < Nat.pow 10 k :=
  Nat.length_toDigits_le_iff (by decide) hk

theorem writable_iff {n : Int} : Writable n ↔ n.natAbs < Nat.pow 10 maxDigits :=
  length_toDigits_le_iff (by decide)

theorem Writable.of_natAbs_le {m n : Int} (hn : Writable n) (h : m.natAbs ≤ n.natAbs) : Writable m :=
  writable_iff.2 (Nat.lt_of_le_of_lt h (writable_iff.1 hn))

theorem intText?_of_writable {n : Int} (h : Writable n) : intText? n = some (String.ofList (intDigits n)) := by
  have hlt : ¬ Nat.pow 10 maxDigits ≤ n.natAbs := Nat.not_le.2 (writable_iff.1 h)
  unfold intText?
  exact if_neg hlt

theorem digit_or_minus_of_mem_intDigits {n : Int} {c : Char} (h : c ∈ intDigits n) :
    c.isDigit = true ∨ c = '-' := by
  unfold intDigits at h
  rcases List.mem_append.1 h with h | h
  · right
    by_cases hn : n < 0
    · simpa [hn] using h
    · simp [hn] at h
  · left
    exact Nat.isDigit_of_mem_toDigits (by decide) (by decide) h

theorem natAbs_signed (negative : Bool) (n : Nat) : (signed negative n).natAbs = n := by
  cases negative with
  | false => exact Int.natAbs_natCast n
  | true => exact (Int.natAbs_neg (n : Int)).trans (Int.natAbs_natCast n)

theorem isBlank_of_isDigit {c : Char} (h : c.isDigit = true) : Text.isBlank c = false :=
  Text.forall_asciiDigit (p := fun c => Text.isBlank c = false) (by decide) h

theorem isGap_of_isDigit {c : Char} (h : c.isDigit = true) : isGap c = false :=
  Text.forall_asciiDigit (p := fun c => isGap c = false) (by decide) h

theorem upperChar_of_isDigit {c : Char} (h : c.isDigit = true) : Text.upperChar c = [c] :=
  Text.forall_asciiDigit (p := fun c => Text.upperChar c = [c]) (by decide) h

theorem digitsValue_toDigits (n : Nat) : digitsValue (Nat.toDigits 10 n) = n :=
  Nat.ofDigitChars_ten_toDigits

theorem exists_toDigits_eq_cons (n : Nat) : ∃ d ds, Nat.toDigits 10 n = d :: ds ∧ d.isDigit = true := by
  obtain ⟨d, ds, h⟩ := List.exists_cons_of_ne_nil (Nat.toDigits_ne_nil (n := n) (b := 10))
  have hd : d ∈ Nat.toDigits 10 n := by
    rw [h]
    exact List.mem_cons_self
  exact ⟨d, ds, h, Nat.isDigit_of_mem_toDigits (by decide) (by decide) hd⟩

private theorem takeWhile_toDigits (n : Nat) :
    (Nat.toDigits 10 n).takeWhile Char.isDigit = Nat.toDigits 10 n := by
  have htake : (Nat.toDigits 10 n ++ []).takeWhile Char.isDigit = _ :=
    List.takeWhile_append_of_pos fun c hc => Nat.isDigit_of_mem_toDigits (by decide) (by decide) hc
  rwa [List.takeWhile_nil, List.append_nil] at htake

private theorem takeSign_toDigits (n : Nat) :
    takeSign ((Nat.toDigits 10 n).dropWhile isGap) = (false, Nat.toDigits 10 n) := by
  obtain ⟨d, ds, h, hd⟩ := exists_toDigits_eq_cons n
  have hminus : d ≠ '-' := by
    rintro rfl
    exact absurd hd (by decide)
  have hplus : d ≠ '+' := by
    rintro rfl
    exact absurd hd (by decide)
  rw [h, List.dropWhile_cons_of_neg (by simp [isGap_of_isDigit hd])]
  simp [takeSign, hminus, hplus]

private theorem takeSign_intDigits (n : Int) :
    takeSign ((intDigits n).dropWhile isGap) = (decide (n < 0), Nat.toDigits 10 n.natAbs) := by
  unfold intDigits
  by_cases hn : n < 0
  · simp only [hn, ↓reduceIte, decide_true]
    rfl
  · simp only [hn, ↓reduceIte, decide_false, List.nil_append]
    exact takeSign_toDigits n.natAbs

/-- Digits are worth less than the power of ten of their number. -/
theorem foldl_digits_lt {ds : List Nat} (h : ∀ d ∈ ds, d < 10) (n : Nat) :
    ds.foldl (fun n d => 10 * n + d) n < (n + 1) * Nat.pow 10 ds.length := by
  induction ds generalizing n with
  | nil => simp
  | cons d ds ih =>
    obtain ⟨hd, hds⟩ := List.forall_mem_cons.1 h
    have hstep : 10 * n + d + 1 ≤ (n + 1) * 10 := by omega
    have hpow : Nat.pow 10 (d :: ds).length = 10 * Nat.pow 10 ds.length := Nat.pow_succ'
    calc (d :: ds).foldl (fun n d => 10 * n + d) n
        < (10 * n + d + 1) * Nat.pow 10 ds.length := ih hds _
      _ ≤ (n + 1) * 10 * Nat.pow 10 ds.length := Nat.mul_le_mul_right _ hstep
      _ = (n + 1) * Nat.pow 10 (d :: ds).length := by rw [hpow, Nat.mul_assoc]

theorem digitsValue_lt {ds : List Char} (h : ∀ c ∈ ds, c.isDigit = true) :
    digitsValue ds < Nat.pow 10 ds.length := by
  have hvalues : ∀ d ∈ ds.map fun c => c.toNat - '0'.toNat, d < 10 := by
    intro d hd
    obtain ⟨c, hc, rfl⟩ := List.mem_map.1 hd
    exact Text.forall_asciiDigit (p := fun c => c.toNat - '0'.toNat < 10) (by decide) (h c hc)
  have hbound := foldl_digits_lt hvalues 0
  rwa [List.foldl_map, List.length_map, Nat.zero_add, Nat.one_mul] at hbound

/-- Without a power of ten, digits are a quotient by one. -/
theorem Binary64.ofDecimal_zero (negative : Bool) (digits count : Nat) :
    ofDecimal negative digits count 0 = ofRatio negative digits 1 := by
  unfold ofDecimal
  split
  · next hzero =>
    subst hzero
    rw [ofRatio, Nat.zero_mul]
    rfl
  · rw [if_neg (by decide), if_neg (by omega)]
    show ofRatio negative (digits * 1) 1 = _
    rw [Nat.mul_one]

private theorem leadingMagnitude_toDigits (n : Nat) :
    leadingMagnitude (Nat.toDigits 10 n) = some (.decimal (Nat.toDigits 10 n) 0) := by
  obtain ⟨d, ds, h, hd⟩ := exists_toDigits_eq_cons n
  have hall : ∀ c ∈ Nat.toDigits 10 n, c.isDigit = true :=
    fun c hc => Nat.isDigit_of_mem_toDigits (by decide) (by decide) hc
  have hinfinity : "Infinity".toList.isPrefixOf (Nat.toDigits 10 n) = false := by
    have hfirst : d ≠ 'I' := by
      rintro rfl
      exact absurd hd (by decide)
    rw [h]
    simp [List.isPrefixOf, hfirst.symm]
  have hdrop : (Nat.toDigits 10 n).dropWhile Char.isDigit = [] := by
    have happend : (Nat.toDigits 10 n ++ []).dropWhile Char.isDigit = _ := List.dropWhile_append_of_pos hall
    rwa [List.dropWhile_nil, List.append_nil] at happend
  have hne : (Nat.toDigits 10 n).isEmpty = false := List.isEmpty_eq_false_iff.2 Nat.toDigits_ne_nil
  unfold leadingMagnitude
  simp only [hinfinity, takeWhile_toDigits, hdrop, hne, Bool.false_eq_true, ↓reduceIte, leadingExponent]

/-- An integer in decimal is read as the floating-point number nearest to it. -/
theorem leadingFloat_intDigits (n : Int) :
    leadingFloat (String.ofList (intDigits n)) = some (Binary64.ofRatio (decide (n < 0)) n.natAbs 1) := by
  unfold leadingFloat
  rw [String.toList_ofList, takeSign_intDigits]
  simp only [leadingMagnitude_toDigits, Option.map_some, Magnitude.toBinary64, Binary64.ofDecimal_zero,
    digitsValue_toDigits]

end ParamQuery.Number
