import ParamQuery.Conversion
import ParamQuery.Proofs.DateText.IsoText
import ParamQuery.Proofs.DateText.Refusal

/-!
# ISO texts are read back

The words of an ISO text are read in four steps: the year takes month and day along, the separator says nothing,
the hour takes minutes and seconds along, and the zone is a name or an offset.  The year is known by its four
digits, so month and day keep their places whatever they are.

`convert_isoText` is the result: a moment whose offset is in whole minutes is what its ISO text stands for.
-/

namespace ParamQuery

open Calendar
open Calendar.Moment.wallText (digits)

namespace Calendar

/-- Year, month and day have four, two and two digits. -/
theorem Date.lt_of_valid (d : Date) : d.year < 10000 ∧ d.month < 100 ∧ d.day < 100 := by
  obtain ⟨⟨-, hyear⟩, ⟨-, hmonth⟩, -, hday⟩ := d.valid
  have hlast := daysInMonth_le d.year d.month
  omega

theorem Time.lt_of_valid (t : Time) :
    t.hour < 100 ∧ t.minute < 100 ∧ t.second < 100 ∧ t.microsecond < 1000000 := by
  obtain ⟨hhour, hminute, hsecond, hmicrosecond⟩ := t.valid
  omega

end Calendar

namespace DateText

variable {clock? : Option Clock}

/-- Words that were used up are passed over. -/
theorem readWords_skip (r : Reading) (before ws rest : List Word) :
    readWords clock? r before ws.length (ws ++ rest) = readWords clock? r (ws.reverse ++ before) 0 rest := by
  rw [readWords_drop, List.take_left, List.drop_left]

/-- A word that takes the words `ws` along. -/
theorem readWords_cons {r r' : Reading} {w : Word} {before rest : List Word} (ws : List Word)
    (h : readWord clock? r w before (ws ++ rest) = .ok (r', ws.length)) :
    readWords clock? r before 0 (w :: (ws ++ rest)) = readWords clock? r' (ws.reverse ++ w :: before) 0 rest := by
  rw [readWords]
  simp only [h]
  exact readWords_skip r' (w :: before) ws rest

/-- What has been read after the date. -/
def Reading.ofDate (d : Date) : Reading :=
  { Reading.empty with parts := ⟨[⟨d.year, some .year⟩, ⟨d.month, none⟩, ⟨d.day, none⟩], true⟩ }

/-- What has been read after the time. -/
def Reading.ofWallTime (d : Date) (t : Time) : Reading :=
  { Reading.ofDate d with
    hour := some t.hour
    minute := some t.minute
    second := some t.second
    microsecond := some t.microsecond }

def Reading.withZone (r : Reading) : IsoZone → Reading
  | .unsaid => r
  | .universal => { r with zoneName := some ['Z'], zoneOffset := none }
  | .offset negative hours minutes => { r with zoneOffset := some (IsoZone.offset negative hours minutes).seconds }

theorem addWord_digits_four {n : Nat} (h : n < 10000) (p : Parts) : p.addWord (digits 4 n) = p.addYear n := by
  rw [Parts.addWord, natural?_digits (by decide) (by decide) h, length_digits]
  rfl

theorem addWord_digits_two {n : Nat} (h : n < 100) (p : Parts) : p.addWord (digits 2 n) = p.add n none := by
  rw [Parts.addWord, natural?_digits (by decide) (by decide) h, length_digits]
  rfl

/-- The four digits of the year and the two of month and day, between dashes, are the parts of the date. -/
theorem readSeparated_isoDate (d : Date) (rest : List Word) :
    readSeparated .empty (digits 4 d.year) ['-'] (digits 2 d.month :: ['-'] :: digits 2 d.day :: rest) =
      .ok (.ofDate d, 4) := by
  obtain ⟨hyear, hmonth, hday⟩ := d.lt_of_valid
  have hmonthWord : DigitWord (digits 2 d.month) := digitWord_digits (by decide)
  have hdayWord : DigitWord (digits 2 d.day) := digitWord_digits (by decide)
  have hfirst : Parts.empty.addWord (digits 4 d.year) = some ⟨[⟨d.year, some .year⟩], true⟩ :=
    addWord_digits_four hyear .empty
  have hsecond : (⟨[⟨d.year, some .year⟩], true⟩ : Parts).addDigitsOrMonth (digits 2 d.month) =
      some ⟨[⟨d.year, some .year⟩, ⟨d.month, none⟩], true⟩ := by
    rw [Parts.addDigitsOrMonth, hmonthWord.all_isDigit, addWord_digits_two hmonth]
    rfl
  have hthird : (⟨[⟨d.year, some .year⟩, ⟨d.month, none⟩], true⟩ : Parts).addMonthOrWord (digits 2 d.day) =
      some ⟨[⟨d.year, some .year⟩, ⟨d.month, none⟩, ⟨d.day, none⟩], true⟩ := by
    rw [Parts.addMonthOrWord, hdayWord.month?_eq_none, addWord_digits_two hday]
    rfl
  simp [readSeparated, Reading.empty, Reading.ofDate, hfirst, hsecond, hthird, hmonthWord.isFiller_eq_false]

theorem readWord_isoDate (d : Date) (rest : List Word) :
    readWord clock? .empty (digits 4 d.year) [] (['-'] :: digits 2 d.month :: ['-'] :: digits 2 d.day :: rest) =
      .ok (.ofDate d, 4) := by
  have hunit : unitBeside? [] (['-'] :: digits 2 d.month :: ['-'] :: digits 2 d.day :: rest) = none := by
    have hdash : clockUnit? ['-'] = none := by decide
    simp [unitBeside?, behindBlank?, hdash]
  have hrule : numeralRule .empty (digits 4 d.year) ⟨d.year, 0, 0⟩ []
      (['-'] :: digits 2 d.month :: ['-'] :: digits 2 d.day :: rest) =
        .separated ['-'] (digits 2 d.month :: ['-'] :: digits 2 d.day :: rest) := by
    simp [numeralRule, hunit, Reading.empty, Parts.empty, isSeparator]
  rw [readWord, of?_digits (by decide) d.lt_of_valid.1]
  simp only
  rw [readNumeral, hrule]
  exact readSeparated_isoDate d rest

/-- The separator between date and time is a filler. -/
theorem readWord_separator {r : Reading} (hhour : r.hour = none) {separator : Char}
    (hseparator : separator = 'T' ∨ separator = ' ') (before rest : List Word) :
    readWord clock? r [separator] before rest = .ok (r, 0) := by
  have hplain : IsPlain [separator] := by rcases hseparator with rfl | rfl <;> decide
  have hfiller : isFiller [separator] = true := by rcases hseparator with rfl | rfl <;> decide
  rw [readWord_of_isPlain hplain]
  simp [Reading.awaitsZone, hhour, hfiller]

/-- Between colons, hour, minutes and seconds are the time. -/
theorem readWord_isoTime (r : Reading) (t : Time) {separator : Char}
    (hseparator : separator = 'T' ∨ separator = ' ') (before rest : List Word) :
    readWord clock? r (digits 2 t.hour) ([separator] :: before)
        ([':'] :: digits 2 t.minute :: [':'] :: t.isoSeconds :: rest) =
      .ok ({ r with hour := some t.hour, minute := some t.minute, second := some t.second,
                    microsecond := some t.microsecond }, 4) := by
  obtain ⟨hhour, hminute, hsecond, hmicrosecond⟩ := t.lt_of_valid
  have hunit : unitBeside? ([separator] :: before) ([':'] :: digits 2 t.minute :: [':'] :: t.isoSeconds :: rest) =
      none := by
    have hcolon : clockUnit? [':'] = none := by decide
    have hbefore : clockUnit? [separator] = none := by rcases hseparator with rfl | rfl <;> decide
    simp [unitBeside?, behindBlank?, hcolon, hbefore]
  have hminutes : Numeral.of? (digits 2 t.minute) = some ⟨t.minute, 0, 0⟩ := of?_digits (by decide) hminute
  have hseconds : secondsOf? t.isoSeconds = some (t.second, t.microsecond) := by
    unfold Time.isoSeconds
    split
    · next hzero =>
      rw [List.append_nil, secondsOf?_digits (by decide) (by decide) hsecond, hzero]
    · exact secondsOf?_digits_fraction (by decide) (by decide) hsecond hmicrosecond
  have hrule : numeralRule r (digits 2 t.hour) ⟨t.hour, 0, 0⟩ ([separator] :: before)
      ([':'] :: digits 2 t.minute :: [':'] :: t.isoSeconds :: rest) =
        .colon (digits 2 t.minute) ([':'] :: t.isoSeconds :: rest) := by
    simp [numeralRule, hunit]
  rw [readWord, of?_digits (by decide) hhour]
  simp only
  rw [readNumeral, hrule]
  simp [readBy, readColon, hminutes, sixtieths?_whole (Nat.lt_trans hminute (by decide)), hseconds,
    Reading.setMinutes, Reading.setSeconds]

theorem readOffset_isoOffset (r : Reading) (negative : Bool) {hours minutes : Nat} (hhours : hours < 100)
    (hminutes : minutes < 100) :
    readOffset r negative [digits 2 hours, [':'], digits 2 minutes] =
      .ok (r.withZone (.offset negative hours minutes), 3) := by
  have hseconds : offsetSeconds? [digits 2 hours, [':'], digits 2 minutes] =
      some (3600 * hours + 60 * minutes, 3) := by
    simp [offsetSeconds?, natural?_digits (by decide : 0 < 2) (by decide) hhours,
      natural?_digits (by decide : 0 < 2) (by decide) hminutes]
  simp [readOffset, hseconds, Reading.withZone, IsoZone.seconds, pure, Except.pure]

theorem readWord_universal {r : Reading} (hhour : r.hour.isSome = true) (hname : r.zoneName = none)
    (hoffset : r.zoneOffset = none) (before : List Word) :
    readWord clock? r ['Z'] before [] = .ok (r.withZone .universal, 0) := by
  have hplain : IsPlain ['Z'] := by decide
  have hzone : isZoneName ['Z'] = true := by decide
  rw [readWord_of_isPlain hplain]
  simp [Reading.awaitsZone, hhour, hname, hoffset, hzone, readZoneName, Reading.withZone]

/-- After the hour, a sign opens an offset. -/
theorem readWord_sign {r : Reading} (hhour : r.hour.isSome = true) (negative : Bool) (before rest : List Word) :
    readWord clock? r [IsoZone.sign negative] before rest = readOffset r negative rest := by
  have hplain : IsPlain [IsoZone.sign negative] := by cases negative <;> decide
  have hzone : isZoneName [IsoZone.sign negative] = false := by cases negative <;> decide
  rw [readWord_of_isPlain hplain]
  cases negative <;> simp_all [IsoZone.sign, Reading.awaitsZone]

theorem readWords_zone {r : Reading} (hhour : r.hour.isSome = true) (hname : r.zoneName = none)
    (hoffset : r.zoneOffset = none) {zone : IsoZone} (hfits : zone.Fits) (before : List Word) :
    readWords clock? r before 0 zone.words = .ok (r.withZone zone) := by
  cases zone with
  | unsaid => rfl
  | universal => exact readWords_cons [] (readWord_universal hhour hname hoffset before)
  | offset negative hours minutes =>
    have hword : readWord clock? r [IsoZone.sign negative] before [digits 2 hours, [':'], digits 2 minutes] =
        .ok (r.withZone (.offset negative hours minutes), 3) := by
      rw [readWord_sign hhour, readOffset_isoOffset r negative hfits.1 hfits.2]
    exact readWords_cons [digits 2 hours, [':'], digits 2 minutes] hword

theorem readWords_isoText (m : Moment) {separator : Char} (hseparator : separator = 'T' ∨ separator = ' ')
    {zone : IsoZone} (hfits : zone.Fits) :
    readWords clock? .empty [] 0 (m.date.isoWords ++ [separator] :: m.time.isoWords ++ zone.words) =
      .ok ((Reading.ofWallTime m.date m.time).withZone zone) := by
  have hdate : ∀ rest, readWords clock? .empty [] 0 (m.date.isoWords ++ rest) =
      readWords clock? (.ofDate m.date) m.date.isoWords.reverse 0 rest :=
    fun rest => readWords_cons [['-'], digits 2 m.date.month, ['-'], digits 2 m.date.day]
      (readWord_isoDate m.date rest)
  have hseparated : ∀ before rest, readWords clock? (.ofDate m.date) before 0 ([separator] :: rest) =
      readWords clock? (.ofDate m.date) ([separator] :: before) 0 rest :=
    fun before rest => readWords_cons [] (readWord_separator rfl hseparator before rest)
  have htime : ∀ before rest, readWords clock? (.ofDate m.date) ([separator] :: before) 0 (m.time.isoWords ++ rest) =
      readWords clock? (.ofWallTime m.date m.time) (m.time.isoWords.reverse ++ [separator] :: before) 0 rest :=
    fun before rest => readWords_cons [[':'], digits 2 m.time.minute, [':'], m.time.isoSeconds]
      (readWord_isoTime (.ofDate m.date) m.time hseparator before rest)
  rw [List.append_assoc, hdate, List.cons_append, hseparated, htime]
  exact readWords_zone rfl rfl rfl hfits _

theorem offset?_withZone (d : Date) (t : Time) {zone : IsoZone} (hfits : zone.Fits) :
    ((Reading.ofWallTime d t).withZone zone).offset? = some zone.seconds := by
  cases zone with
  | unsaid => rfl
  | universal => rfl
  | offset negative hours minutes =>
    obtain ⟨hhours, hminutes⟩ := hfits
    have hlimit : ((IsoZone.offset negative hours minutes).seconds / 86400).natAbs ≤ Reading.offsetLimit := by
      simp only [IsoZone.seconds, Number.signed, Reading.offsetLimit]
      split <;> omega
    exact if_pos hlimit

/-- The year is known, so that month and day keep their places. -/
theorem date?_ofDate (d : Date) : (Reading.ofDate d).parts.date? clock? none = some d := by
  have hstated : (Reading.ofDate d).parts.resolve = some ⟨some d.year, some d.month, some d.day⟩ := by
    simp [Parts.resolve, Reading.ofDate, Parts.find?, Parts.byPosition]
  rw [Parts.date?, Parts.stated?, hstated]
  simp [Reading.ofDate, StatedDate.meant?, d.of?_self]

theorem moment?_withZone (d : Date) (t : Time) {zone : IsoZone} (hfits : zone.Fits) :
    ((Reading.ofWallTime d t).withZone zone).moment? clock? = some ⟨d, t, zone.seconds⟩ := by
  have hwall : ((Reading.ofWallTime d t).withZone zone).parts = (Reading.ofDate d).parts ∧
      ((Reading.ofWallTime d t).withZone zone).weekday = none ∧
      ((Reading.ofWallTime d t).withZone zone).hour = some t.hour ∧
      ((Reading.ofWallTime d t).withZone zone).minute = some t.minute ∧
      ((Reading.ofWallTime d t).withZone zone).second = some t.second ∧
      ((Reading.ofWallTime d t).withZone zone).microsecond = some t.microsecond := by
    cases zone <;> exact ⟨rfl, rfl, rfl, rfl, rfl, rfl⟩
  have htime : Time.of? t.hour t.minute t.second t.microsecond = some t := dif_pos t.valid
  have hsaid : (Reading.ofWallTime d t).withZone zone ≠ .empty := by
    cases zone <;> simp [Reading.withZone, Reading.ofWallTime, Reading.empty]
  obtain ⟨hparts, hweekday, hhour, hminute, hsecond, hmicrosecond⟩ := hwall
  simp [Reading.moment?, hsaid, hparts, hweekday, date?_ofDate, hhour, hminute, hsecond, hmicrosecond, htime,
    offset?_withZone d t hfits]

end DateText

/-- The ISO text of a wall time with a zone stands for that wall time on a clock with the offset of the zone. -/
theorem convert_isoTextIn (m : Moment) {separator : Char} (hseparator : separator = 'T' ∨ separator = ' ')
    {zone : IsoZone} (hfits : zone.Fits) (field : String) :
    DataType.datetime.convert field (m.isoTextIn separator zone) =
      (some (.moment { m with offset := zone.seconds }), []) := by
  have hcolon : ':' ∈ (m.isoTextIn separator zone).toList := by
    simp [Moment.isoTextIn, Time.isoChars]
  have hmoment : DateText.read none (m.isoTextIn separator zone) = .ok { m with offset := zone.seconds } := by
    rw [DateText.read, DateText.words_isoTextIn m hseparator, DateText.readWords_isoText m hseparator hfits,
      ok_bind, DateText.moment?_withZone m.date m.time hfits, DateText.required_some]
  have hread : DataType.datetime.convert? (m.isoTextIn separator zone) =
      some (.moment { m with offset := zone.seconds }) := by
    rw [DataType.convert?, DataType.read, readMoment, if_pos hcolon, hmoment]
    rfl
  rw [DataType.convert, hread]

/-- A moment with an offset in whole minutes, less than a day either way, is what its ISO text stands for.  Without
the offset, or with the letter of universal time in its place, the text stands for the same wall time on a clock of
offset 0. -/
theorem convert_isoText (m : Moment) {separator : Char} (hseparator : separator = 'T' ∨ separator = ' ')
    (hminutes : m.offset % 60 = 0) (hday : m.offset.natAbs < 86400) (field : String) :
    DataType.datetime.convert field (m.isoText separator) = (some (.moment m), []) ∧
      ∀ zone ∈ [IsoZone.unsaid, IsoZone.universal],
        DataType.datetime.convert field (m.isoTextIn separator zone) =
          (some (.moment { m with offset := 0 }), []) := by
  constructor
  · rw [Moment.isoText, convert_isoTextIn m hseparator (IsoZone.fits_ofSeconds hday),
      IsoZone.seconds_ofSeconds hminutes]
  · intro zone hzone
    simp only [List.mem_cons, List.not_mem_nil, or_false] at hzone
    rcases hzone with rfl | rfl
    · exact convert_isoTextIn m hseparator IsoZone.fits_unsaid field
    · exact convert_isoTextIn m hseparator IsoZone.fits_universal field

/-- The third of February of the year 1, which has small numbers in every place. -/
def thirdOfFebruary (offset : Int) : Moment :=
  ⟨⟨1, 2, 3, by decide⟩, ⟨4, 5, 6, 7, by decide⟩, offset⟩

theorem convert_isoText_thirdOfFebruary :
    DataType.datetime.convert "born" "0001-02-03T04:05:06.000007-05:30" =
        (some (.moment (thirdOfFebruary (-19800))), []) ∧
      DataType.datetime.convert "born" "0001-02-03T04:05:06.000007" = (some (.moment (thirdOfFebruary 0)), []) ∧
      DataType.datetime.convert "born" "0001-02-03T04:05:06.000007Z" =
        (some (.moment (thirdOfFebruary 0)), []) := by
  have hseparator : 'T' = 'T' ∨ 'T' = ' ' := .inl rfl
  have h := convert_isoText (thirdOfFebruary (-19800)) hseparator (by decide) (by decide) "born"
  have htext : (thirdOfFebruary (-19800)).isoText 'T' = "0001-02-03T04:05:06.000007-05:30" := by decide
  have hunsaid : (thirdOfFebruary (-19800)).isoTextIn 'T' .unsaid = "0001-02-03T04:05:06.000007" := by decide
  have huniversal : (thirdOfFebruary (-19800)).isoTextIn 'T' .universal = "0001-02-03T04:05:06.000007Z" := by
    decide
  rw [htext] at h
  refine ⟨h.1, ?_, ?_⟩
  · rw [← hunsaid]
    exact h.2 .unsaid (by simp)
  · rw [← huniversal]
    exact h.2 .universal (by simp)

end ParamQuery
