import ParamQuery.Proofs.DateText.PaddedDigits

/-!
# The words of a text, from its start

What a text begins with is its first word, if what follows does not go on with it, and the other words are those of
the rest: for a run of digits (`scan_digitWord`), for digits with a point among them (`scan_decimal`), for a letter
(`scan_letter`) and for any other character (`scan_mark`).
-/

namespace ParamQuery.DateText

variable {w fraction : Word} {cs : List Char} {c : Char}

/-- The text does not go on with a number. -/
def EndsNumber (cs : List Char) : Prop :=
  ∀ c ∈ cs.head?, Text.isDigit c = false ∧ isMark c = false

theorem endsNumber_nil : EndsNumber [] := by
  intro c hc
  cases hc

theorem endsNumber_cons (hdigit : Text.isDigit c = false) (hmark : isMark c = false) : EndsNumber (c :: cs) := by
  intro d hd
  cases hd
  exact ⟨hdigit, hmark⟩

theorem scan_of_advance_eq_none {r : Run} (h : ∀ c ∈ cs.head?, r.advance c = none) :
    scan (some r) cs = r.words (!cs.isEmpty) ++ scan none cs := by
  cases cs with
  | nil => simp [scan]
  | cons c cs => simp [scan, h c rfl]

/-- Digits go on with a run that ends in digits, or in a point after digits. -/
theorem scan_digits_append {mode : Mode} (hmode : mode = .digits ∨ mode = .compoundDigits)
    (hw : ∀ c ∈ w, c.isDigit = true) (lettered : Bool) (chars cs : List Char) :
    scan (some ⟨mode, lettered, chars⟩) (w ++ cs) = scan (some ⟨mode, lettered, w.reverse ++ chars⟩) cs := by
  induction w generalizing chars with
  | nil => rfl
  | cons c w ih =>
    have hc : Text.isDigit c = true := Text.isDigit_of_asciiDigit (hw c List.mem_cons_self)
    have hstep : (⟨mode, lettered, chars⟩ : Run).advance c = some ⟨mode, lettered, c :: chars⟩ := by
      rcases hmode with rfl | rfl <;> simp [Run.advance, Run.push, hc]
    rw [List.cons_append, scan, hstep]
    simp only
    rw [ih (fun d hd => hw d (List.mem_cons_of_mem c hd)), List.reverse_cons, List.append_assoc]
    rfl

/-- A number starts with its first digit. -/
theorem scan_digitWord_append (hw : DigitWord w) (cs : List Char) :
    scan none (w ++ cs) = scan (some ⟨.digits, false, w.reverse⟩) cs := by
  obtain ⟨c, w, rfl⟩ := List.exists_cons_of_ne_nil hw.ne_nil
  have hc : c.isDigit = true := hw.isDigit c List.mem_cons_self
  rw [List.cons_append, scan, opening, Text.isLetter_of_asciiDigit hc, Text.isDigit_of_asciiDigit hc]
  simp only [Bool.false_eq_true, ↓reduceIte, List.nil_append]
  rw [scan_digits_append (.inl rfl) (fun d hd => hw.isDigit d (List.mem_cons_of_mem c hd)), List.reverse_cons]

theorem scan_digitWord (hw : DigitWord w) (hcs : EndsNumber cs) : scan none (w ++ cs) = w :: scan none cs := by
  have hstop : ∀ c ∈ cs.head?, (⟨.digits, false, w.reverse⟩ : Run).advance c = none := by
    intro c hc
    obtain ⟨hdigit, hmark⟩ := hcs c hc
    simp only [isMark, Bool.or_eq_false_iff, decide_eq_false_iff_not] at hmark
    simp [Run.advance, hdigit, hmark]
  rw [scan_digitWord_append hw, scan_of_advance_eq_none hstop]
  simp [Run.words]

/-- A decimal stays whole: it has one point, and does not end in it. -/
theorem words_decimal (hw : DigitWord w) (hfraction : DigitWord fraction) (further : Bool) :
    (⟨.compoundDigits, false, fraction.reverse ++ '.' :: w.reverse⟩ : Run).words further =
      [w ++ '.' :: fraction] := by
  have hword : (fraction.reverse ++ '.' :: w.reverse).reverse = w ++ '.' :: fraction := by simp
  have hcount : (w ++ '.' :: fraction).count '.' = 1 := by
    rw [List.count_append, List.count_cons_self, List.count_eq_zero.2 (hw.not_mem rfl),
      List.count_eq_zero.2 (hfraction.not_mem rfl)]
  obtain ⟨last, front, hlast, hdigit⟩ := hfraction.exists_last
  have hmark : isMark last = false := by
    rw [isMark, Bool.or_eq_false_iff, decide_eq_false_iff_not, decide_eq_false_iff_not]
    constructor <;> (rintro rfl; cases hdigit)
  simp only [Run.words, hword, hcount]
  simp [hlast, hmark]

theorem scan_decimal (hw : DigitWord w) (hfraction : DigitWord fraction) (hcs : EndsNumber cs) :
    scan none (w ++ '.' :: fraction ++ cs) = (w ++ '.' :: fraction) :: scan none cs := by
  have hpoint : (⟨.digits, false, w.reverse⟩ : Run).advance '.' =
      some ⟨.compoundDigits, false, '.' :: w.reverse⟩ := rfl
  have hstop : ∀ c ∈ cs.head?,
      (⟨.compoundDigits, false, fraction.reverse ++ '.' :: w.reverse⟩ : Run).advance c = none := by
    intro c hc
    obtain ⟨hdigit, hmark⟩ := hcs c hc
    obtain ⟨last, front, hlast, hlastDigit⟩ := hfraction.exists_last
    have hlastPoint : last ≠ '.' := by rintro rfl; cases hlastDigit
    simp only [isMark, Bool.or_eq_false_iff, decide_eq_false_iff_not] at hmark
    simp [Run.advance, hdigit, hmark, hlast, hlastPoint]
  rw [List.append_assoc, scan_digitWord_append hw, List.cons_append, scan, hpoint]
  simp only
  rw [scan_digits_append (.inr rfl) hfraction.isDigit, scan_of_advance_eq_none hstop,
    words_decimal hw hfraction]
  rfl

theorem scan_letter (hc : Text.isLetter c = true) (hcs : ∀ d ∈ cs.head?, Text.isLetter d = false ∧ d ≠ '.') :
    scan none (c :: cs) = [c] :: scan none cs := by
  have hstop : ∀ d ∈ cs.head?, (⟨.letters, false, [c]⟩ : Run).advance d = none := by
    intro d hd
    simp [Run.advance, hcs d hd]
  rw [scan, opening, if_pos hc]
  simp only [List.nil_append]
  rw [scan_of_advance_eq_none hstop]
  simp [Run.words]

/-- A space, or a character that is no letter, no digit and no blank, is a word by itself. -/
theorem scan_mark (hletter : Text.isLetter c = false) (hdigit : Text.isDigit c = false)
    (hblank : Text.isBlank c = true → c = ' ') (cs : List Char) : scan none (c :: cs) = [c] :: scan none cs := by
  rw [scan, opening, hletter, hdigit]
  cases hc : Text.isBlank c with
  | false => rfl
  | true =>
    rw [hblank hc]
    rfl

end ParamQuery.DateText
