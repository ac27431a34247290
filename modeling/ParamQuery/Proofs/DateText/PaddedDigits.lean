import ParamQuery.Calendar.Moment
import ParamQuery.DateText.NumeralRule
import ParamQuery.Proofs.Text.Commas
import ParamQuery.Proofs.Text.Digits

/-!
# Numbers in a fixed number of digits

* A `DigitWord` is a word of decimal digits.  It stands in no vocabulary, as the words there begin with something
  else.
* A number that is written in a fixed number of digits is a digit word, and is read back as a natural number, as a
  numeral and as seconds, also with a fraction (`natural?_digits`, `of?_digits`, `secondsOf?_digits`,
  `secondsOf?_digits_fraction`).
-/

namespace ParamQuery

open Calendar.Moment.wallText (digits)

namespace DateText

/-- A word of decimal digits. -/
structure DigitWord (w : Word) : Prop where
  ne_nil : w ≠ []
  isDigit : ∀ c ∈ w, c.isDigit = true

namespace DigitWord

variable {w : Word}

theorem all_isDigit (h : DigitWord w) : w.all Text.isDigit = true :=
  List.all_eq_true.2 fun c hc => Text.isDigit_of_asciiDigit (h.isDigit c hc)

theorem not_mem (h : DigitWord w) {c : Char} (hc : c.isDigit = false) : c ∉ w := by
  intro hmem
  rw [h.isDigit c hmem] at hc
  cases hc

theorem exists_last (h : DigitWord w) : ∃ last front, w.reverse = last :: front ∧ last.isDigit = true := by
  obtain ⟨last, front, hlast⟩ := List.exists_cons_of_ne_nil (List.reverse_ne_nil_iff.2 h.ne_nil)
  exact ⟨last, front, hlast, h.isDigit last (List.mem_reverse.1 (hlast ▸ List.mem_cons_self))⟩

/-- No digit word is a word that begins with something else. -/
theorem lowerCase_ne (h : DigitWord w) {t : String} (ht : t.toList.head?.any Char.isDigit = false) :
    lowerCase w ≠ t := by
  rintro rfl
  obtain ⟨c, w, rfl⟩ := List.exists_cons_of_ne_nil h.ne_nil
  have hc : c.isDigit = true := h.isDigit c List.mem_cons_self
  simp [lowerCase, Text.lowerChar_of_asciiDigit hc, hc] at ht

theorem isFiller_eq_false (h : DigitWord w) : isFiller w = false := by
  have hwords : ∀ t ∈ fillers, t.toList.head?.any Char.isDigit = false := by decide
  rw [isFiller, decide_eq_false_iff_not]
  exact fun hmem => h.lowerCase_ne (hwords _ hmem) rfl

theorem month?_eq_none (h : DigitWord w) : month? w = none := by
  have hwords : ∀ entry ∈ months, entry.1.toList.head?.any Char.isDigit = false := by decide
  rw [month?, List.lookup_eq_none_iff]
  intro entry hmem
  simpa using h.lowerCase_ne (hwords entry hmem)

end DigitWord

@[simp] theorem length_digits (width n : Nat) : (digits width n).length = width := by
  induction width generalizing n with
  | zero => rfl
  | succ k ih => rw [digits, List.length_append, ih, List.length_singleton]

theorem isDigit_of_mem_digits {width n : Nat} {c : Char} (h : c ∈ digits width n) : c.isDigit = true := by
  induction width generalizing n with
  | zero => cases h
  | succ k ih =>
    rcases List.mem_append.1 h with h | h
    · exact ih h
    · rw [List.mem_singleton.1 h, Nat.isDigit_digitChar, decide_eq_true_eq]
      exact Nat.mod_lt n (by decide)

variable {width n : Nat}

theorem digits_ne_nil (hwidth : 0 < width) : digits width n ≠ [] := by
  rw [← List.length_pos_iff, length_digits]
  exact hwidth

theorem digitWord_digits (hwidth : 0 < width) : DigitWord (digits width n) :=
  ⟨digits_ne_nil hwidth, fun _ => isDigit_of_mem_digits⟩

/-- The last digits of a number are read as what they leave of it. -/
theorem mapM_decimalDigit?_digits (width n : Nat) :
    ∃ ds, (digits width n).mapM Text.decimalDigit? = some ds ∧
      ds.foldl (fun n d => 10 * n + d) 0 = n % Nat.pow 10 width := by
  induction width generalizing n with
  | zero => exact ⟨[], rfl, (Nat.mod_one n).symm⟩
  | succ k ih =>
    obtain ⟨ds, hds, hvalue⟩ := ih (n / 10)
    have hlast : Text.decimalDigit? (Nat.digitChar (n % 10)) = some (n % 10) :=
      Text.decimalDigit?_digitChar _ (Nat.mod_lt n (by decide))
    refine ⟨ds ++ [n % 10], ?_, ?_⟩
    · rw [digits, List.mapM_append, hds]
      simp [hlast]
    · have hpow : Nat.pow 10 (k + 1) = 10 * Nat.pow 10 k := Nat.pow_succ'
      rw [List.foldl_append, hvalue, hpow, Nat.mod_mul]
      simp only [List.foldl_cons, List.foldl_nil]
      omega

theorem valueOf?_digits (hwidth : 0 < width) (h : n < Nat.pow 10 width) : valueOf? (digits width n) = some n := by
  obtain ⟨ds, hds, hvalue⟩ := mapM_decimalDigit?_digits width n
  have hne : (digits width n).isEmpty = false := by
    rw [List.isEmpty_eq_false_iff]
    exact digits_ne_nil hwidth
  rw [valueOf?, hne, hds, Option.map_some, hvalue, Nat.mod_eq_of_lt h]
  rfl

theorem natural?_digits (hwidth : 0 < width) (hmax : width ≤ Number.maxDigits) (h : n < Nat.pow 10 width) :
    natural? (digits width n) = some n := by
  rw [natural?, length_digits, if_neg (by omega), valueOf?_digits hwidth h]

theorem pieces_digits (width n : Nat) : Text.pieces '.' (digits width n) = [digits width n] :=
  Text.pieces_of_not_mem fun h => absurd (isDigit_of_mem_digits h) (by decide)

theorem of?_digits (hwidth : 0 < width) (h : n < Nat.pow 10 width) :
    Numeral.of? (digits width n) = some ⟨n, 0, 0⟩ := by
  simp only [Numeral.of?, pieces_digits, valueOf?_digits hwidth h, Option.map_some]

/-- A whole number has no sixtieths. -/
theorem sixtieths?_whole (h : n < Nat.pow 10 Numeral.precision) : (⟨n, 0, 0⟩ : Numeral).sixtieths? = .ok none := by
  have hrounded : Numeral.rounded 0 0 = (0, 0) := by decide
  simp only [Numeral.sixtieths?, Nat.not_le.2 h, hrounded, ↓reduceIte]

theorem secondsOf?_digits (hwidth : 0 < width) (hmax : width ≤ Number.maxDigits) (h : n < Nat.pow 10 width) :
    secondsOf? (digits width n) = some (n, 0) := by
  simp only [secondsOf?, pieces_digits, natural?_digits hwidth hmax h, Option.map_some]

/-- A fraction of six digits is the microseconds. -/
theorem secondsOf?_digits_fraction (hwidth : 0 < width) (hmax : width ≤ Number.maxDigits)
    (h : n < Nat.pow 10 width) {micros : Nat} (hmicros : micros < 1000000) :
    secondsOf? (digits width n ++ '.' :: digits 6 micros) = some (n, micros) := by
  have hpieces : Text.pieces '.' (digits width n ++ '.' :: digits 6 micros) =
      [digits width n, digits 6 micros] := by
    rw [Text.pieces_append_cons, pieces_digits, pieces_digits]
    rfl
  have hfraction : (digits 6 micros ++ List.replicate 6 '0').take 6 = digits 6 micros :=
    List.take_left' (length_digits 6 micros)
  have hread : natural? (digits 6 micros) = some micros := natural?_digits (by decide) (by decide) hmicros
  simp only [secondsOf?, hpieces, hfraction, natural?_digits hwidth hmax h, hread]
  rfl

end DateText

end ParamQuery
