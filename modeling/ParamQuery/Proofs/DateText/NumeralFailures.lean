import ParamQuery.Proofs.DateText.FixedWidths

/-!
# Where a numeral makes no sense

`NumeralFails` lists, rule by rule, why a numeral is not read: a point in a word of a fixed width, a second year, minutes
or seconds that are no numbers, a part of a date that is none, a day that the month does not have.  Hours and minutes
have their fraction computed, and there the numeral may be too long (`Numeral.Overlong`).

`readNumeral_eq_error_iff` is the result.
-/

namespace ParamQuery.DateText

/-! ### Parts of a separated date -/

namespace Parts

variable {p : Parts} {w : Word}

/-- The second part of a separated date is a word of digits or the name of a month. -/
inductive RefusesSecond (p : Parts) (w : Word) : Prop
  | digits (hw : w.all Text.isDigit = true) (h : p.Refuses w)
  | unnamed (hw : w.all Text.isDigit = false) (h : month? w = none)
  | secondMonth {month : Nat} (hw : w.all Text.isDigit = false) (hmonth : month? w = some month) (h : p.Has .month)

theorem addDigitsOrMonth_eq_none_iff : p.addDigitsOrMonth w = none ↔ p.RefusesSecond w := by
  unfold addDigitsOrMonth
  cases hdigits : w.all Text.isDigit with
  | true =>
    rw [if_pos rfl, addWord_eq_none_iff]
    constructor
    · exact .digits hdigits
    · intro h
      cases h with
      | digits _ h => exact h
      | unnamed hw => rw [hw] at hdigits; cases hdigits
      | secondMonth hw => rw [hw] at hdigits; cases hdigits
  | false =>
    rw [if_neg (by simp)]
    cases hmonth : month? w with
    | none => exact iff_of_true rfl (.unnamed hdigits hmonth)
    | some month =>
      rw [Option.bind_some, addMonth_eq_none_iff]
      constructor
      · exact .secondMonth hdigits hmonth
      · intro h
        cases h with
        | digits hw => rw [hw] at hdigits; cases hdigits
        | unnamed _ h => rw [h] at hmonth; cases hmonth
        | secondMonth _ _ h => exact h

/-- The third part of a separated date is the name of a month or a number. -/
inductive RefusesThird (p : Parts) (w : Word) : Prop
  | secondMonth {month : Nat} (hmonth : month? w = some month) (h : p.Has .month)
  | word (hmonth : month? w = none) (h : p.Refuses w)

theorem addMonthOrWord_eq_none_iff : p.addMonthOrWord w = none ↔ p.RefusesThird w := by
  unfold addMonthOrWord
  cases hmonth : month? w with
  | none =>
    rw [addWord_eq_none_iff]
    constructor
    · exact .word hmonth
    · intro h
      cases h with
      | secondMonth h => rw [h] at hmonth; cases hmonth
      | word _ h => exact h
  | some month =>
    rw [addMonth_eq_none_iff]
    constructor
    · exact .secondMonth hmonth
    · intro h
      cases h with
      | secondMonth _ h => exact h
      | word h => rw [h] at hmonth; cases hmonth

end Parts

/-! ### Hours, minutes and seconds -/

section Clock

variable {r : Reading} {w : Word} {n : Numeral} {failure : Failure}

/-- The number has more digits than are computed with. -/
def Numeral.Overlong (n : Numeral) : Prop :=
  Nat.pow 10 Numeral.precision ≤ n.whole

theorem Numeral.Overlong.lt_length (h : n.Overlong) (hn : Numeral.of? w = some n) : Numeral.precision < w.length :=
  (Nat.pow_lt_pow_iff_right (by decide)).1 (Nat.lt_of_le_of_lt h (whole_lt_of_of? hn))

theorem sixtieths?_eq_error_iff : n.sixtieths? = .error failure ↔ n.Overlong ∧ failure = .beyondPrecision := by
  unfold Numeral.sixtieths? Numeral.Overlong
  split
  · next hlong => rw [and_iff_right hlong, Except.error.injEq, eq_comm]
  · next hshort =>
    refine iff_of_false ?_ fun h => hshort h.1
    dsimp only
    split
    · exact nofun
    · exact nofun

theorem setMinutes_eq_error_iff : r.setMinutes n = .error failure ↔ n.Overlong ∧ failure = .beyondPrecision := by
  rw [← sixtieths?_eq_error_iff, Reading.setMinutes]
  cases n.sixtieths? <;> simp [bind, Except.bind, pure, Except.pure]

theorem setUnit_eq_error_iff {unit : ClockUnit} :
    r.setUnit unit w n = .error failure ↔
      unit ≠ .second ∧ n.Overlong ∧ failure = .beyondPrecision ∨
        unit = .second ∧ secondsOf? w = none ∧ failure = .noValue := by
  cases unit with
  | hour =>
    rw [Reading.setUnit]
    simp only [ne_eq, reduceCtorEq, not_false_eq_true, true_and, false_and, or_false, ← sixtieths?_eq_error_iff]
    cases n.sixtieths? <;> simp [bind, Except.bind, pure, Except.pure]
  | minute => simp [Reading.setUnit, setMinutes_eq_error_iff]
  | second => simp [Reading.setUnit]

theorem exists_setMinutes_iff : Readable (r.setMinutes n) ↔ ¬ n.Overlong := by
  cases hminutes : r.setMinutes n with
  | ok r' =>
    refine iff_of_true (readable_ok r') fun hlong => ?_
    rw [setMinutes_eq_error_iff.2 ⟨hlong, rfl⟩] at hminutes
    cases hminutes
  | error failure => exact iff_of_false nofun fun hshort => hshort (setMinutes_eq_error_iff.1 hminutes).1

/-- Behind the minutes, a colon and a word must be seconds. -/
inductive SecondsFail : List Word → Prop
  | seconds {seconds : Word} {rest : List Word} (h : secondsOf? seconds = none) :
      SecondsFail ([':'] :: seconds :: rest)

theorem readColon_eq_error_iff {minutes : Word} {rest : List Word} :
    readColon r n minutes rest = .error failure ↔
      Numeral.of? minutes = none ∧ failure = .noValue ∨
        ∃ m, Numeral.of? minutes = some m ∧
          (m.Overlong ∧ failure = .beyondPrecision ∨ ¬ m.Overlong ∧ SecondsFail rest ∧ failure = .noValue) := by
  unfold readColon
  rw [bind_eq_error_iff, required_eq_error_iff]
  refine or_congr Iff.rfl (exists_congr fun m => and_congr required_eq_ok_iff ?_)
  rw [bind_eq_error_iff, setMinutes_eq_error_iff]
  refine or_congr Iff.rfl ?_
  rw [← exists_setMinutes_iff (r := { r with hour := some n.whole }), Readable, exists_and_right.symm]
  refine exists_congr fun r' => and_congr Iff.rfl ?_
  split
  · next seconds rest' =>
    rw [bind_eq_error_iff, required_eq_error_iff]
    constructor
    · rintro (⟨hnone, hfailure⟩ | ⟨seconds, -, h⟩)
      · exact ⟨.seconds hnone, hfailure⟩
      · cases h
    · rintro ⟨⟨hnone⟩, hfailure⟩
      exact .inl ⟨hnone, hfailure⟩
  · next hseconds =>
    constructor
    · intro h
      cases h
    · rintro ⟨⟨h⟩, -⟩
      exact (hseconds _ _ rfl).elim

end Clock

/-- Why a numeral makes no sense to a rule, or is too long. -/
inductive NumeralFails (r : Reading) (w : Word) (n : Numeral) : NumeralRule → Failure → Prop
  | clock (h : '.' ∈ w) : NumeralFails r w n .clock .noValue
  | six (hlength : w.length = 6) (h : '.' ∈ w) : NumeralFails r w n .six .noValue
  | eight (h : '.' ∈ w) : NumeralFails r w n .eight .noValue
  | eightYear (h : r.parts.Has .year) : NumeralFails r w n .eight .noValue
  | seconds {used : Nat} (h : secondsOf? w = none) : NumeralFails r w n (.unit (some .second) used) .noValue
  | overlong {unit : ClockUnit} {used : Nat} (hunit : unit ≠ .second) (h : n.Overlong) :
      NumeralFails r w n (.unit (some unit) used) .beyondPrecision
  | minutes {minutes : Word} {rest : List Word} (h : Numeral.of? minutes = none) :
      NumeralFails r w n (.colon minutes rest) .noValue
  | overlongMinutes {minutes : Word} {m : Numeral} {rest : List Word} (hm : Numeral.of? minutes = some m)
      (h : m.Overlong) : NumeralFails r w n (.colon minutes rest) .beyondPrecision
  | secondsBehind {minutes seconds : Word} {m : Numeral} {rest : List Word} (hm : Numeral.of? minutes = some m)
      (hshort : ¬ m.Overlong) (h : secondsOf? seconds = none) :
      NumeralFails r w n (.colon minutes ([':'] :: seconds :: rest)) .noValue
  | firstPart {separator : Word} {rest : List Word} (h : r.parts.Refuses w) :
      NumeralFails r w n (.separated separator rest) .noValue
  | secondPart {parts : Parts} {separator second : Word} {rest : List Word} (hfirst : r.parts.addWord w = some parts)
      (hfiller : isFiller second = false) (h : parts.RefusesSecond second) :
      NumeralFails r w n (.separated separator (second :: rest)) .noValue
  | thirdPart {parts parts' : Parts} {separator second : Word} {rest : List Word}
      (hfirst : r.parts.addWord w = some parts) (hfiller : isFiller second = false)
      (hsecond : parts.addDigitsOrMonth second = some parts') (h : ∀ third ∈ rest.head?, parts'.RefusesThird third) :
      NumeralFails r w n (.separated separator (second :: separator :: rest)) .noValue
  | lastYear (hexceeds : n.exceeds 100 = true) (h : r.parts.Has .year) : NumeralFails r w n (.last none) .noValue
  | day (h : r.parts.mayBeDay n = false) : NumeralFails r w n .day .noValue

section Rules

variable {r : Reading} {w : Word} {n : Numeral} {before rest : List Word} {failure : Failure}

theorem length_of_clock (h : numeralRule r w n before rest = .clock) : w.length = 2 ∨ w.length = 4 := by
  unfold numeralRule at h
  dsimp only at h
  grind

theorem length_of_six (h : numeralRule r w n before rest = .six) :
    w.length = 6 ∨ (6 < w.length ∧ w.idxOf '.' = 6) := by
  unfold numeralRule at h
  dsimp only at h
  grind

theorem length_of_eight (h : numeralRule r w n before rest = .eight) :
    w.length = 8 ∨ w.length = 12 ∨ w.length = 14 := by
  unfold numeralRule at h
  dsimp only at h
  grind

theorem eq_of_colon {minutes : Word} {rest' : List Word} (h : numeralRule r w n before rest = .colon minutes rest') :
    rest = [':'] :: minutes :: rest' := by
  unfold numeralRule at h
  dsimp only at h
  grind

theorem third_eq_none_iff {p : Parts} {third? : Option Word} :
    third?.bind p.addMonthOrWord = none ↔ ∀ third ∈ third?, p.RefusesThird third := by
  cases third? with
  | none => simp
  | some third => simp [Parts.addMonthOrWord_eq_none_iff]

theorem numeralFails_of_readSeparated {separator : Word} (h : readSeparated r w separator rest = .error failure) :
    NumeralFails r w n (.separated separator rest) failure := by
  rw [readSeparated, bind_eq_error_iff, required_eq_error_iff, Parts.addWord_eq_none_iff] at h
  rcases h with ⟨hfirst, rfl⟩ | ⟨parts, hfirst, h⟩
  · exact .firstPart hfirst
  rw [required_eq_ok_iff] at hfirst
  cases rest with
  | nil => cases h
  | cons second rest =>
    cases hfiller : isFiller second with
    | true =>
      simp only [hfiller, ↓reduceIte] at h
      cases h
    | false =>
      simp only [hfiller, Bool.false_eq_true, ↓reduceIte, bind_eq_error_iff, required_eq_error_iff,
        Parts.addDigitsOrMonth_eq_none_iff, required_eq_ok_iff] at h
      rcases h with ⟨hsecond, rfl⟩ | ⟨parts', hsecond, h⟩
      · exact .secondPart hfirst hfiller hsecond
      cases rest with
      | nil => cases h
      | cons again rest =>
        simp only at h
        split at h
        · next hagain =>
          rw [bind_eq_error_iff, required_eq_error_iff, third_eq_none_iff] at h
          rcases h with ⟨hthird, rfl⟩ | ⟨parts'', -, h⟩
          · rw [hagain]
            exact .thirdPart hfirst hfiller hsecond hthird
          · cases h
        · cases h

theorem readSeparated_eq_error_iff {separator : Word} :
    readSeparated r w separator rest = .error failure ↔ NumeralFails r w n (.separated separator rest) failure := by
  refine ⟨numeralFails_of_readSeparated, fun h => ?_⟩
  cases h with
  | firstPart hfirst => simp [readSeparated, Parts.addWord_eq_none_iff.2 hfirst]
  | secondPart hfirst hfiller hsecond =>
    simp [readSeparated, hfirst, hfiller, Parts.addDigitsOrMonth_eq_none_iff.2 hsecond]
  | thirdPart hfirst hfiller hsecond hthird =>
    simp [readSeparated, hfirst, hfiller, hsecond, third_eq_none_iff.2 hthird]

theorem whole_le_of_not_exceeds {bound : Nat} (h : n.exceeds bound = false) : n.whole ≤ bound := by
  simp only [Numeral.exceeds, Bool.or_eq_false_iff, decide_eq_false_iff_not, Nat.not_lt] at h
  exact h.1

/-- No day is over 100. -/
theorem exceeds_of_mayBeDay (h : r.parts.mayBeDay n = true) : n.exceeds 100 = false := by
  have hday : n.whole ≤ 31 := by
    simp only [Parts.mayBeDay, Bool.and_eq_true, Bool.not_eq_true'] at h
    have hlast := whole_le_of_not_exceeds h.2
    split at hlast
    · exact hlast
    · exact Nat.le_trans hlast (Calendar.daysInMonth_le _ _)
  have hless : ¬ 100 < n.whole := by omega
  have hne : n.whole ≠ 100 := by omega
  simp [Numeral.exceeds, hless, hne]

theorem readDay_eq_error_iff : readDay r n = .error failure ↔ NumeralFails r w n .day failure := by
  unfold readDay
  rw [required_eq_error_iff]
  cases hday : r.parts.mayBeDay n with
  | false =>
    constructor
    · rintro ⟨-, rfl⟩
      exact .day hday
    · rintro ⟨-⟩
      exact ⟨rfl, rfl⟩
  | true =>
    have hadded : r.parts.addNumeral n ≠ none := by
      rw [Ne, Parts.addNumeral_eq_none_iff, exceeds_of_mayBeDay hday]
      simp
    refine iff_of_false (fun h => hadded (Option.map_eq_none_iff.1 h.1)) fun h => ?_
    cases h with
    | day hno =>
      rw [hday] at hno
      cases hno

theorem readNumeral_eq_error_iff (hn : Numeral.of? w = some n) :
    readNumeral r w n before rest = .error failure ↔
      NumeralFails r w n (numeralRule r w n before rest) failure := by
  have hw := numeralWord_of_of? hn
  unfold readNumeral
  cases hrule : numeralRule r w n before rest with
  | clock =>
    rw [readBy, readClock_precise.eq_error_iff, readable_readClock_iff hw (length_of_clock hrule), Decidable.not_not]
    constructor
    · rintro ⟨hpoint, rfl⟩
      exact .clock hpoint
    · rintro ⟨hpoint⟩
      exact ⟨hpoint, rfl⟩
  | six =>
    rw [readBy, readSix_precise.eq_error_iff, readable_readSix_iff hw (length_of_six hrule), Decidable.not_not]
    constructor
    · rintro ⟨⟨hlength, hpoint⟩, rfl⟩
      exact .six hlength hpoint
    · intro h
      cases h with
      | six hlength hpoint => exact ⟨⟨hlength, hpoint⟩, rfl⟩
  | eight =>
    rw [readBy, readEight_precise.eq_error_iff, readable_readEight_iff hw (length_of_eight hrule)]
    constructor
    · rintro ⟨hfails, rfl⟩
      by_cases hpoint : '.' ∈ w
      · exact .eight hpoint
      · exact .eightYear (Classical.not_not.1 fun hyear => hfails ⟨hpoint, hyear⟩)
    · intro h
      cases h with
      | eight hpoint => exact ⟨fun h => h.1 hpoint, rfl⟩
      | eightYear hyear => exact ⟨fun h => h.2 hyear, rfl⟩
  | unit unit? used =>
    cases unit? with
    | none => exact iff_of_false nofun nofun
    | some unit =>
      rw [readBy, map_eq_error_iff, setUnit_eq_error_iff]
      constructor
      · rintro (⟨hunit, hlong, rfl⟩ | ⟨rfl, hseconds, rfl⟩)
        · exact .overlong hunit hlong
        · exact .seconds hseconds
      · intro h
        cases h with
        | seconds hseconds => exact .inr ⟨rfl, hseconds, rfl⟩
        | overlong hunit hlong => exact .inl ⟨hunit, hlong, rfl⟩
  | colon minutes rest =>
    rw [readBy, readColon_eq_error_iff]
    constructor
    · rintro (⟨hnone, rfl⟩ | ⟨m, hm, ⟨hlong, rfl⟩ | ⟨hshort, ⟨hseconds⟩, rfl⟩⟩)
      · exact .minutes hnone
      · exact .overlongMinutes hm hlong
      · exact .secondsBehind hm hshort hseconds
    · intro h
      cases h with
      | minutes hnone => exact .inl ⟨hnone, rfl⟩
      | overlongMinutes hm hlong => exact .inr ⟨_, hm, .inl ⟨hlong, rfl⟩⟩
      | secondsBehind hm hshort hseconds => exact .inr ⟨_, hm, .inr ⟨hshort, .seconds hseconds, rfl⟩⟩
  | separated separator rest => exact readSeparated_eq_error_iff
  | last half? =>
    cases half? with
    | some half => exact iff_of_false nofun nofun
    | none =>
      rw [readBy, required_eq_error_iff, Option.map_eq_none_iff, Parts.addNumeral_eq_none_iff]
      constructor
      · rintro ⟨⟨hexceeds, hyear⟩, rfl⟩
        exact .lastYear hexceeds hyear
      · intro h
        cases h with
        | lastYear hexceeds hyear => exact ⟨⟨hexceeds, hyear⟩, rfl⟩
  | half half => exact iff_of_false nofun nofun
  | day => exact readDay_eq_error_iff

end Rules

end ParamQuery.DateText
