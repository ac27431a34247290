import ParamQuery.DateText.NumeralRule
import ParamQuery.Proofs.Numerals
import ParamQuery.Proofs.Text.Commas

/-!
# Words that are numerals

A word of digits is a natural number if it is not too long (`natural?_eq_none_iff`).  A numeral is such a word, or two
of them with a point between them (`numeralWord_of_of?`).  So a stretch of a numeral is a natural number unless it has
the point in it (`NumeralWord.natural?_eq_none_iff`).
-/

namespace ParamQuery.DateText

open Number (maxDigits)

variable {w u : Word}

/-- All characters are decimal digits. -/
def AllDigits (w : Word) : Prop :=
  ∀ c ∈ w, Text.decimalDigit? c ≠ none

theorem not_mem_of_allDigits (h : AllDigits w) : '.' ∉ w :=
  fun hpoint => h '.' hpoint (by decide)

theorem mapM_eq_none_iff {α β : Type} {f : α → Option β} {l : List α} :
    l.mapM f = none ↔ ∃ a ∈ l, f a = none := by
  induction l with
  | nil => simp
  | cons a l ih =>
    cases ha : f a with
    | none => simp [ha]
    | some b =>
      cases hl : l.mapM f with
      | none => simpa [ha, hl] using ih
      | some bs => simpa [ha, hl] using ih

theorem valueOf?_ne_none_iff : valueOf? w ≠ none ↔ w ≠ [] ∧ AllDigits w := by
  cases w with
  | nil => simp [valueOf?]
  | cons c w =>
    rw [valueOf?, if_neg (by simp), Ne, Option.map_eq_none_iff, mapM_eq_none_iff]
    simp [AllDigits]

theorem natural?_ne_none_iff : natural? w ≠ none ↔ w ≠ [] ∧ AllDigits w ∧ w.length ≤ maxDigits := by
  unfold natural?
  split
  · next hlong => simp [Nat.not_le.2 hlong]
  · next hshort => rw [valueOf?_ne_none_iff, and_iff_left (Nat.not_lt.1 hshort)]

/-- Each character of a word of digits gives a digit. -/
theorem digits_of_mapM {ds : List Nat} (h : w.mapM Text.decimalDigit? = some ds) :
    ds.length = w.length ∧ ∀ d ∈ ds, d < 10 := by
  induction w generalizing ds with
  | nil =>
    cases h
    exact ⟨rfl, nofun⟩
  | cons c w ih =>
    rw [List.mapM_cons] at h
    obtain ⟨d, hd, h⟩ := Option.bind_eq_some_iff.1 h
    obtain ⟨ds, hds, ⟨⟩⟩ := Option.bind_eq_some_iff.1 h
    obtain ⟨hlength, hvalues⟩ := ih hds
    exact ⟨by rw [List.length_cons, List.length_cons, hlength],
      List.forall_mem_cons.2 ⟨Text.decimalDigit?_lt_ten hd, hvalues⟩⟩

theorem lt_of_valueOf? {n : Nat} (h : valueOf? w = some n) : n < Nat.pow 10 w.length := by
  unfold valueOf? at h
  split at h
  · cases h
  obtain ⟨ds, hds, rfl⟩ := Option.map_eq_some_iff.1 h
  obtain ⟨hlength, hvalues⟩ := digits_of_mapM hds
  have hbound := Number.foldl_digits_lt hvalues 0
  rwa [Nat.zero_add, Nat.one_mul, hlength] at hbound

/-- Digits, or digits on both sides of a point. -/
inductive NumeralWord : Word → Prop
  | whole {w : Word} (hne : w ≠ []) (hw : AllDigits w) : NumeralWord w
  | decimal {w fraction : Word} (hne : w ≠ []) (hw : AllDigits w) (hfne : fraction ≠ [])
      (hfraction : AllDigits fraction) : NumeralWord (w ++ '.' :: fraction)

theorem numeralWord_of_of? {n : Numeral} (h : Numeral.of? w = some n) : NumeralWord w := by
  have hpieces := Text.intercalate_pieces '.' w
  unfold Numeral.of? at h
  split at h
  · next whole heq =>
    obtain ⟨value, hvalue, -⟩ := Option.map_eq_some_iff.1 h
    obtain ⟨hne, hw⟩ := valueOf?_ne_none_iff.1 (Option.ne_none_iff_exists'.2 ⟨value, hvalue⟩)
    rw [heq, List.intercalate_singleton] at hpieces
    exact hpieces ▸ .whole hne hw
  · next whole fraction heq =>
    obtain ⟨value, hvalue, h⟩ := Option.bind_eq_some_iff.1 h
    obtain ⟨value', hvalue', -⟩ := Option.bind_eq_some_iff.1 h
    obtain ⟨hne, hw⟩ := valueOf?_ne_none_iff.1 (Option.ne_none_iff_exists'.2 ⟨value, hvalue⟩)
    obtain ⟨hfne, hfraction⟩ := valueOf?_ne_none_iff.1 (Option.ne_none_iff_exists'.2 ⟨value', hvalue'⟩)
    rw [heq, List.intercalate_cons_cons, List.intercalate_singleton, List.append_assoc] at hpieces
    exact hpieces ▸ .decimal hne hw hfne hfraction
  · cases h

theorem secondsOf?_of_not_mem (h : '.' ∉ w) : secondsOf? w = (natural? w).map fun n => (n, 0) := by
  simp only [secondsOf?, Text.pieces_of_not_mem h]

theorem secondsOf?_decimal {fraction : Word} (hw : '.' ∉ w) (hfraction : '.' ∉ fraction) :
    secondsOf? (w ++ '.' :: fraction) =
      (do return (← natural? w, ← natural? ((fraction ++ List.replicate 6 '0').take 6))) := by
  have hpieces : Text.pieces '.' (w ++ '.' :: fraction) = [w, fraction] := by
    rw [Text.pieces_append_cons, Text.pieces_of_not_mem hw, Text.pieces_of_not_mem hfraction]
    rfl
  simp only [secondsOf?, hpieces]

/-- Seconds do not start with the point. -/
theorem secondsOf?_point (cs : List Char) : secondsOf? ('.' :: cs) = none := by
  unfold secondsOf?
  rw [Text.pieces, if_pos rfl]
  split
  · next h => exact absurd (List.cons.inj h).2 (Text.pieces_ne_nil '.' cs)
  · next whole fraction h =>
    obtain ⟨rfl, -⟩ := List.cons.inj h
    rfl
  · rfl

/-- The digits of a fraction are read, whatever their number. -/
theorem natural?_fraction_ne_none {fraction : Word} (hfraction : AllDigits fraction) :
    natural? ((fraction ++ List.replicate 6 '0').take 6) ≠ none := by
  have hlength : ((fraction ++ List.replicate 6 '0').take 6).length = 6 := by
    rw [List.length_take, List.length_append, List.length_replicate]
    omega
  have hmax : maxDigits = 4300 := rfl
  refine natural?_ne_none_iff.2 ⟨List.ne_nil_of_length_pos (by omega), fun c hc => ?_, by omega⟩
  rcases List.mem_append.1 (List.mem_of_mem_take hc) with hc | hc
  · exact hfraction c hc
  · rw [List.eq_of_mem_replicate hc]
    decide

/-- The whole part of a numeral is less than the power of ten of its length. -/
theorem whole_lt_of_of? {n : Numeral} (h : Numeral.of? w = some n) : n.whole < Nat.pow 10 w.length := by
  have hpieces := Text.intercalate_pieces '.' w
  unfold Numeral.of? at h
  split at h
  · next whole heq =>
    obtain ⟨value, hvalue, rfl⟩ := Option.map_eq_some_iff.1 h
    rw [heq, List.intercalate_singleton] at hpieces
    exact hpieces ▸ lt_of_valueOf? hvalue
  · next whole fraction heq =>
    obtain ⟨value, hvalue, h⟩ := Option.bind_eq_some_iff.1 h
    obtain ⟨value', -, ⟨⟩⟩ := Option.bind_eq_some_iff.1 h
    rw [heq, List.intercalate_cons_cons, List.intercalate_singleton, List.append_assoc] at hpieces
    have hlength : whole.length ≤ w.length := by
      rw [← hpieces, List.length_append]
      exact Nat.le_add_right _ _
    exact Nat.lt_of_lt_of_le (lt_of_valueOf? hvalue) (Nat.pow_le_pow_right (by decide) hlength)
  · cases h

namespace NumeralWord

theorem digit_or_point (h : NumeralWord w) {c : Char} (hc : c ∈ w) : c = '.' ∨ Text.decimalDigit? c ≠ none := by
  cases h with
  | whole _ hw => exact .inr (hw c hc)
  | decimal _ hw _ hfraction =>
    rcases List.mem_append.1 hc with hc | hc
    · exact .inr (hw c hc)
    · rcases List.mem_cons.1 hc with rfl | hc
      · exact .inl rfl
      · exact .inr (hfraction c hc)

/-- A short stretch of a numeral is a natural number unless it has the point in it. -/
theorem natural?_ne_none_iff (h : NumeralWord w) (hu : u ⊆ w) (hne : u ≠ []) (hlength : u.length ≤ maxDigits) :
    natural? u ≠ none ↔ '.' ∉ u := by
  rw [DateText.natural?_ne_none_iff]
  constructor
  · rintro ⟨-, hdigits, -⟩
    exact not_mem_of_allDigits hdigits
  · intro hpoint
    refine ⟨hne, fun c hc => ?_, hlength⟩
    rcases h.digit_or_point (hu hc) with rfl | hdigit
    · exact absurd hc hpoint
    · exact hdigit

end NumeralWord

end ParamQuery.DateText
