import ParamQuery.DateText.WordRule
import ParamQuery.Proofs.DateText.NumeralFailures

/-!
# Where a word makes no sense

`WordFails` lists why a word is not read where it stands: a numeral that fails its rule, a word that is taken for a
number and is none, a second month, a month with a day or a year behind it that is none, a half of the day without an
hour, a sign or the name of a zone with no offset behind it, or a word that is not known.

`readWord_eq_error_iff` is the result.
-/

namespace ParamQuery.DateText

variable {clock? : Option Clock} {r : Reading} {w : Word} {before rest : List Word} {failure : Failure}

/-! ### Offsets -/

/-- The words open with an offset of so many seconds: four digits, hours and minutes with a colon, or hours. -/
inductive OffsetWords : List Word → Nat → Prop
  | compact {w : Word} {rest : List Word} {hours minutes : Nat} (hlength : w.length = 4)
      (hhours : natural? (w.take 2) = some hours) (hminutes : natural? (w.drop 2) = some minutes) :
      OffsetWords (w :: rest) (3600 * hours + 60 * minutes)
  | colon {w w' : Word} {rest : List Word} {hours minutes : Nat} (hlength : w.length ≠ 4)
      (hhours : natural? w = some hours) (hminutes : natural? w' = some minutes) :
      OffsetWords (w :: [':'] :: w' :: rest) (3600 * hours + 60 * minutes)
  | hours {w : Word} {rest : List Word} {hours : Nat} (hlength : w.length ≤ 2) (hrest : rest.head? ≠ some [':'])
      (hhours : natural? w = some hours) : OffsetWords (w :: rest) (3600 * hours)

theorem offsetWords_of_offsetSeconds? {ws : List Word} {seconds used : Nat}
    (h : offsetSeconds? ws = some (seconds, used)) : OffsetWords ws seconds := by
  cases ws with
  | nil => cases h
  | cons w rest =>
    rw [offsetSeconds?] at h
    split at h
    · next hlength =>
      obtain ⟨hours, hhours, h⟩ := Option.bind_eq_some_iff.1 h
      obtain ⟨minutes, hminutes, ⟨⟩⟩ := Option.bind_eq_some_iff.1 h
      exact .compact hlength hhours hminutes
    next hlength =>
    split at h
    · next hcolon =>
      obtain ⟨rest, rfl⟩ := List.head?_eq_some_iff.1 hcolon
      obtain ⟨hours, hhours, h⟩ := Option.bind_eq_some_iff.1 h
      obtain ⟨w', hw', h⟩ := Option.bind_eq_some_iff.1 h
      obtain ⟨minutes, hminutes, ⟨⟩⟩ := Option.bind_eq_some_iff.1 h
      cases rest with
      | nil => cases hw'
      | cons w' rest =>
        cases hw'
        exact .colon hlength hhours hminutes
    next hcolon =>
    split at h
    · next hshort =>
      obtain ⟨hours, hhours, ⟨⟩⟩ := Option.bind_eq_some_iff.1 h
      exact .hours hshort hcolon hhours
    · cases h

theorem offsetSeconds?_eq_some_iff {ws : List Word} {seconds : Nat} :
    (∃ used, offsetSeconds? ws = some (seconds, used)) ↔ OffsetWords ws seconds := by
  refine ⟨fun ⟨_, h⟩ => offsetWords_of_offsetSeconds? h, fun h => ?_⟩
  cases h with
  | compact hlength hhours hminutes => exact ⟨1, by simp [offsetSeconds?, hlength, hhours, hminutes]⟩
  | colon hlength hhours hminutes => exact ⟨3, by simp [offsetSeconds?, hlength, hhours, hminutes]⟩
  | hours hlength hrest hhours =>
    have hfour : ¬ _ = 4 := Nat.ne_of_lt (Nat.lt_of_le_of_lt hlength (by decide))
    exact ⟨1, by simp [offsetSeconds?, hlength, hrest, hhours, hfour]⟩

theorem offsetSeconds?_eq_none_iff {ws : List Word} :
    offsetSeconds? ws = none ↔ ¬ ∃ seconds, OffsetWords ws seconds := by
  simp only [← offsetSeconds?_eq_some_iff]
  cases offsetSeconds? ws with
  | none => simp
  | some outcome => exact iff_of_false nofun fun h => h ⟨outcome.1, outcome.2, rfl⟩

theorem readOffset_eq_error_iff {negative : Bool} :
    readOffset r negative rest = .error failure ↔ (¬ ∃ seconds, OffsetWords rest seconds) ∧ failure = .noValue := by
  rw [← offsetSeconds?_eq_none_iff, readOffset, bind_eq_error_iff, required_eq_error_iff]
  refine or_iff_left ?_
  rintro ⟨⟨seconds, used⟩, -, h⟩
  dsimp only at h
  split at h
  · split at h
    · cases h
    · cases h
  · cases h

/-- The name of a zone may have an offset behind it, which opens with a sign. -/
inductive NoZoneOffset : List Word → Prop
  | behindSign {sign : Word} {rest : List Word} (hsign : sign = ['+'] ∨ sign = ['-'])
      (h : ¬ ∃ seconds, OffsetWords rest seconds) : NoZoneOffset (sign :: rest)

theorem readZoneOffset_eq_error_iff {name : Word} {negative : Bool} :
    readZoneOffset r name negative rest = .error failure ↔
      (¬ ∃ seconds, OffsetWords rest seconds) ∧ failure = .noValue := by
  rw [readZoneOffset, map_eq_error_iff, readOffset_eq_error_iff]

theorem readZoneName_eq_error_iff {name : Word} :
    readZoneName r name rest = .error failure ↔ NoZoneOffset rest ∧ failure = .noValue := by
  unfold readZoneName
  split
  · next rest =>
    rw [readZoneOffset_eq_error_iff]
    refine and_congr_left fun _ => ⟨.behindSign (.inl rfl), ?_⟩
    rintro ⟨-, h⟩
    exact h
  · next rest =>
    rw [readZoneOffset_eq_error_iff]
    refine and_congr_left fun _ => ⟨.behindSign (.inr rfl), ?_⟩
    rintro ⟨-, h⟩
    exact h
  · next hplus hminus =>
    refine iff_of_false nofun ?_
    rintro ⟨⟨rfl | rfl, -⟩, -⟩
    · exact hplus _ rfl
    · exact hminus _ rfl

/-! ### Months and halves of the day -/

/-- A month with a separator behind it is followed by a day and maybe a year, and one with `of` behind it by a year;
a year of two digits takes a clock. -/
inductive MonthFails (clock? : Option Clock) (p : Parts) : List Word → Prop
  | day {separator : Word} {rest : List Word} (hseparator : separator = ['-'] ∨ separator = ['/'])
      (h : ∀ day ∈ rest.head?, p.Refuses day) : MonthFails clock? p (separator :: rest)
  | year {separator day : Word} {rest : List Word} {p' : Parts} (hseparator : separator = ['-'] ∨ separator = ['/'])
      (hday : p.addWord day = some p') (h : ∀ year ∈ rest.head?, p'.Refuses year) :
      MonthFails clock? p (separator :: day :: separator :: rest)
  | secondYear {between year : Word} {rest : List Word} (hof : isOf between = true)
      (hdigits : year.all Text.isDigit = true) (h : p.Has .year) :
      MonthFails clock? p ([' '] :: between :: [' '] :: year :: rest)
  | noYear {between year : Word} {rest : List Word} (hof : isOf between = true)
      (hdigits : year.all Text.isDigit = true) (h : natural? year = none) :
      MonthFails clock? p ([' '] :: between :: [' '] :: year :: rest)
  | noCentury {between year : Word} {rest : List Word} {value : Nat} (hof : isOf between = true)
      (hdigits : year.all Text.isDigit = true) (hvalue : natural? year = some value) (hshort : value < 100)
      (hclock : clock? = none) : MonthFails clock? p ([' '] :: between :: [' '] :: year :: rest)

theorem head?_bind_addWord_eq_none_iff {p : Parts} {w? : Option Word} :
    w?.bind p.addWord = none ↔ ∀ w ∈ w?, p.Refuses w := by
  cases w? with
  | none => simp
  | some w => simp [Parts.addWord_eq_none_iff]

theorem fullYear?_eq_none_iff {year : Nat} : fullYear? clock? year = none ↔ year < 100 ∧ clock? = none := by
  unfold fullYear?
  split
  · next hshort => rw [Option.map_eq_none_iff, and_iff_right hshort]
  · next hlong => exact iff_of_false nofun fun h => hlong h.1

theorem monthFails_of_readMonth {month : Nat} {p : Parts} (hp : r.parts.addMonth month = some p)
    (h : readMonth clock? r month rest = .error failure) : MonthFails clock? p rest ∧ failure = .noValue := by
  rw [readMonth, hp, required_some, ok_bind] at h
  split at h
  · next separator rest =>
    split at h
    · next hseparator =>
      rw [bind_eq_error_iff, required_eq_error_iff, head?_bind_addWord_eq_none_iff] at h
      rcases h with ⟨hday, hfailure⟩ | ⟨p', hread, h⟩
      · exact ⟨.day hseparator hday, hfailure⟩
      obtain ⟨day, hhead, hday⟩ := Option.bind_eq_some_iff.1 (required_eq_ok_iff.1 hread)
      obtain ⟨rest, rfl⟩ := List.head?_eq_some_iff.1 hhead
      split at h
      · next again rest htail =>
        rw [List.tail_cons] at htail
        rw [htail]
        split at h
        · next hagain =>
          rw [bind_eq_error_iff, required_eq_error_iff, head?_bind_addWord_eq_none_iff] at h
          rcases h with ⟨hyear, hfailure⟩ | ⟨p'', -, h⟩
          · rw [hagain]
            exact ⟨.year hseparator hday hyear, hfailure⟩
          · cases h
        · cases h
      · cases h
    · split at h
      · next between year rest _ =>
        split at h
        · cases h
        next hbetween =>
        have hof : isOf between = true := by simpa using hbetween
        split at h
        · next hdigits =>
          rw [bind_eq_error_iff, required_eq_error_iff] at h
          rcases h with ⟨hnone, hfailure⟩ | ⟨full, -, h⟩
          · cases hvalue : natural? year with
            | none => exact ⟨.noYear hof hdigits hvalue, hfailure⟩
            | some value =>
              rw [hvalue, Option.bind_some, fullYear?_eq_none_iff] at hnone
              exact ⟨.noCentury hof hdigits hvalue hnone.1 hnone.2, hfailure⟩
          · rw [bind_eq_error_iff, required_eq_error_iff, Parts.addYear_eq_none_iff] at h
            rcases h with ⟨hyear, hfailure⟩ | ⟨p', -, h⟩
            · exact ⟨.secondYear hof hdigits hyear, hfailure⟩
            · cases h
        · cases h
      · cases h
  · cases h

theorem readMonth_of_monthFails {month : Nat} {p : Parts} (hp : r.parts.addMonth month = some p)
    (h : MonthFails clock? p rest) : readMonth clock? r month rest = .error .noValue := by
  rw [readMonth, hp, required_some, ok_bind]
  cases h with
  | day hseparator h =>
    dsimp only
    rw [if_pos hseparator, head?_bind_addWord_eq_none_iff.2 h, required_none, error_bind]
  | year hseparator hday h =>
    dsimp only
    rw [if_pos hseparator, List.head?_cons, Option.bind_some, hday, required_some, ok_bind, List.tail_cons]
    dsimp only
    rw [if_pos rfl, head?_bind_addWord_eq_none_iff.2 h, required_none, error_bind]
  | @secondYear between year rest hof hdigits h =>
    cases hvalue : (natural? year).bind (fullYear? clock?) with
    | none => simp [hof, hdigits, hvalue]
    | some full => simp [hof, hdigits, hvalue, Parts.addYear_eq_none_iff.2 h]
  | noYear hof hdigits h =>
    simp [hof, hdigits, h]
  | noCentury hof hdigits hvalue hshort hclock =>
    simp [hof, hdigits, hvalue, fullYear?_eq_none_iff.2 ⟨hshort, hclock⟩]

theorem readMonth_eq_error_iff {month : Nat} :
    readMonth clock? r month rest = .error failure ↔
      (r.parts.Has .month ∨ ∃ p, r.parts.addMonth month = some p ∧ MonthFails clock? p rest) ∧
        failure = .noValue := by
  cases hp : r.parts.addMonth month with
  | none =>
    have hmonth := Parts.addMonth_eq_none_iff.1 hp
    rw [readMonth, hp, required_none, error_bind]
    simp [hmonth, eq_comm]
  | some p =>
    have hmonth : ¬ r.parts.Has .month := by
      intro hknown
      rw [Parts.addMonth_eq_none_iff.2 hknown] at hp
      cases hp
    constructor
    · intro h
      obtain ⟨hfails, hfailure⟩ := monthFails_of_readMonth hp h
      exact ⟨.inr ⟨p, rfl, hfails⟩, hfailure⟩
    · rintro ⟨hmonth' | ⟨p', hp', hfails⟩, rfl⟩
      · exact absurd hmonth' hmonth
      · cases hp'
        exact readMonth_of_monthFails hp hfails

theorem readHalf_eq_error_iff {half : Half} :
    readHalf r half = .error failure ↔ (∀ hour ∈ r.hour, 12 < hour) ∧ failure = .noValue := by
  unfold readHalf
  cases r.hour with
  | none => simp [eq_comm]
  | some hour =>
    dsimp only
    split
    · next hle => exact iff_of_false nofun fun h => absurd (h.1 hour rfl) (Nat.not_lt.2 hle)
    · next hgt => simp [Nat.not_le.1 hgt, eq_comm]

/-! ### Words -/

/-- The word is no number, and no name of a day, a month or a half of the day. -/
def IsPlain (w : Word) : Prop :=
  Numeral.of? w = none ∧ isNonFinite w = false ∧ weekday? w = none ∧ month? w = none ∧ half? w = none

instance (w : Word) : Decidable (IsPlain w) :=
  inferInstanceAs (Decidable (_ ∧ _ ∧ _ ∧ _ ∧ _))

/-- A plain word is about the time zone, or a filler. -/
theorem readWord_of_isPlain {w : Word} (h : IsPlain w) (r : Reading) (before rest : List Word) :
    readWord clock? r w before rest =
      if r.zoneOffset.isNone ∧ r.awaitsZone w then readZoneName r w rest
      else if r.hour.isSome ∧ w = ['+'] then readOffset r false rest
      else if r.hour.isSome ∧ w = ['-'] then readOffset r true rest
      else if isFiller w then .ok (r, 0)
      else .error .noValue := by
  obtain ⟨hnumeral, hnonFinite, hweekday, hmonth, hhalf⟩ := h
  rw [readWord, hnumeral, hnonFinite, hweekday, hmonth, hhalf]
  rfl

/-- The word is no number, and neither of the words that is taken for one. -/
def IsName (w : Word) : Prop :=
  Numeral.of? w = none ∧ isNonFinite w = false

/-- The word is a sign that opens an offset. -/
abbrev Reading.AwaitsOffset (r : Reading) (w : Word) : Prop :=
  r.hour.isSome = true ∧ (w = ['+'] ∨ w = ['-'])

/-- The word is the name of the time zone. -/
abbrev Reading.TakesZone (r : Reading) (w : Word) : Prop :=
  r.zoneOffset.isNone = true ∧ r.awaitsZone w = true

/-- Why a word makes no sense where it stands, or is too long. -/
inductive WordFails (clock? : Option Clock) (r : Reading) (w : Word) (before rest : List Word) : Failure → Prop
  | numeral {n : Numeral} {failure : Failure} (hn : Numeral.of? w = some n)
      (h : NumeralFails r w n (numeralRule r w n before rest) failure) : WordFails clock? r w before rest failure
  | nonFinite (hn : Numeral.of? w = none) (h : isNonFinite w = true) : WordFails clock? r w before rest .noValue
  | secondMonth {month : Nat} (hname : IsName w) (hweekday : weekday? w = none) (hmonth : month? w = some month)
      (h : r.parts.Has .month) : WordFails clock? r w before rest .noValue
  | month {month : Nat} {p : Parts} (hname : IsName w) (hweekday : weekday? w = none) (hmonth : month? w = some month)
      (hp : r.parts.addMonth month = some p) (h : MonthFails clock? p rest) :
      WordFails clock? r w before rest .noValue
  | half {half : Half} (hname : IsName w) (hweekday : weekday? w = none) (hmonth : month? w = none)
      (hhalf : half? w = some half) (h : ∀ hour ∈ r.hour, 12 < hour) : WordFails clock? r w before rest .noValue
  | zone (hplain : IsPlain w) (hzone : r.TakesZone w) (h : NoZoneOffset rest) :
      WordFails clock? r w before rest .noValue
  | offset (hsign : r.AwaitsOffset w) (h : ¬ ∃ seconds, OffsetWords rest seconds) :
      WordFails clock? r w before rest .noValue
  | unknown (hplain : IsPlain w) (hzone : ¬ r.TakesZone w) (hsign : ¬ r.AwaitsOffset w) (h : isFiller w = false) :
      WordFails clock? r w before rest .noValue

theorem wordFails_of_isPlain (hplain : IsPlain w) (h : readWord clock? r w before rest = .error failure) :
    WordFails clock? r w before rest failure := by
  rw [readWord_of_isPlain hplain] at h
  split at h
  · next hzone =>
    obtain ⟨hfails, rfl⟩ := readZoneName_eq_error_iff.1 h
    exact .zone hplain hzone hfails
  next hzone =>
  split at h
  · next hplus =>
    obtain ⟨hfails, rfl⟩ := readOffset_eq_error_iff.1 h
    exact .offset ⟨hplus.1, .inl hplus.2⟩ hfails
  next hplus =>
  split at h
  · next hminus =>
    obtain ⟨hfails, rfl⟩ := readOffset_eq_error_iff.1 h
    exact .offset ⟨hminus.1, .inr hminus.2⟩ hfails
  next hminus =>
  split at h
  · cases h
  next hfiller =>
  cases h
  refine .unknown hplain hzone ?_ (by simpa using hfiller)
  rintro ⟨hhour, hsign | hsign⟩
  · exact hplus ⟨hhour, hsign⟩
  · exact hminus ⟨hhour, hsign⟩

theorem wordFails_of_readWord (h : readWord clock? r w before rest = .error failure) :
    WordFails clock? r w before rest failure := by
  cases hn : Numeral.of? w with
  | some n =>
    rw [readWord, hn] at h
    exact .numeral hn ((readNumeral_eq_error_iff hn).1 h)
  | none =>
    cases hnonFinite : isNonFinite w with
    | true =>
      rw [readWord, hn, hnonFinite] at h
      cases h
      exact .nonFinite hn hnonFinite
    | false =>
      cases hweekday : weekday? w with
      | some weekday =>
        rw [readWord, hn, hnonFinite, hweekday] at h
        cases h
      | none =>
        cases hmonth : month? w with
        | some month =>
          rw [readWord, hn, hnonFinite, hweekday, hmonth] at h
          obtain ⟨hsecond | ⟨p, hp, hfails⟩, rfl⟩ := readMonth_eq_error_iff.1 h
          · exact .secondMonth ⟨hn, hnonFinite⟩ hweekday hmonth hsecond
          · exact .month ⟨hn, hnonFinite⟩ hweekday hmonth hp hfails
        | none =>
          cases hhalf : half? w with
          | some half =>
            rw [readWord, hn, hnonFinite, hweekday, hmonth, hhalf] at h
            obtain ⟨hfails, rfl⟩ := readHalf_eq_error_iff.1 h
            exact .half ⟨hn, hnonFinite⟩ hweekday hmonth hhalf hfails
          | none => exact wordFails_of_isPlain ⟨hn, hnonFinite, hweekday, hmonth, hhalf⟩ h

theorem Reading.AwaitsOffset.isPlain (h : r.AwaitsOffset w) : IsPlain w := by
  obtain ⟨-, rfl | rfl⟩ := h
  · decide
  · decide

/-- A sign is not the name of a zone. -/
theorem Reading.AwaitsOffset.not_takesZone (h : r.AwaitsOffset w) : ¬ r.TakesZone w := by
  have hplus : isZoneName ['+'] = false := by decide
  have hminus : isZoneName ['-'] = false := by decide
  obtain ⟨-, rfl | rfl⟩ := h
  · simp [awaitsZone, hplus]
  · simp [awaitsZone, hminus]

theorem readWord_of_wordFails (h : WordFails clock? r w before rest failure) :
    readWord clock? r w before rest = .error failure := by
  cases h with
  | numeral hn h =>
    rw [readWord, hn]
    exact (readNumeral_eq_error_iff hn).2 h
  | nonFinite hn h =>
    rw [readWord, hn, h]
    rfl
  | secondMonth hname hweekday hmonth h =>
    rw [readWord, hname.1, hname.2, hweekday, hmonth]
    exact readMonth_eq_error_iff.2 ⟨.inl h, rfl⟩
  | month hname hweekday hmonth hp h =>
    rw [readWord, hname.1, hname.2, hweekday, hmonth]
    exact readMonth_eq_error_iff.2 ⟨.inr ⟨_, hp, h⟩, rfl⟩
  | half hname hweekday hmonth hhalf h =>
    rw [readWord, hname.1, hname.2, hweekday, hmonth, hhalf]
    exact readHalf_eq_error_iff.2 ⟨h, rfl⟩
  | zone hplain hzone h =>
    rw [readWord_of_isPlain hplain, if_pos hzone]
    exact readZoneName_eq_error_iff.2 ⟨h, rfl⟩
  | offset hsign h =>
    rw [readWord_of_isPlain hsign.isPlain, if_neg hsign.not_takesZone]
    obtain ⟨hhour, rfl | rfl⟩ := hsign
    · rw [if_pos ⟨hhour, rfl⟩]
      exact readOffset_eq_error_iff.2 ⟨h, rfl⟩
    · rw [if_neg (by simp), if_pos ⟨hhour, rfl⟩]
      exact readOffset_eq_error_iff.2 ⟨h, rfl⟩
  | unknown hplain hzone hsign h =>
    have hplus : ¬ (r.hour.isSome = true ∧ w = ['+']) := fun h => hsign ⟨h.1, .inl h.2⟩
    have hminus : ¬ (r.hour.isSome = true ∧ w = ['-']) := fun h => hsign ⟨h.1, .inr h.2⟩
    rw [readWord_of_isPlain hplain, if_neg hzone, if_neg hplus, if_neg hminus, h]
    rfl

theorem readWord_eq_error_iff :
    readWord clock? r w before rest = .error failure ↔ WordFails clock? r w before rest failure :=
  ⟨wordFails_of_readWord, readWord_of_wordFails⟩

/-- Only a numeral is too long: the word itself, or the minutes behind it. -/
theorem WordFails.exists_overlong (h : WordFails clock? r w before rest .beyondPrecision) :
    ∃ w' ∈ w :: rest, NumeralWord w' ∧ Numeral.precision < w'.length := by
  cases h with
  | @numeral n _ hn h =>
    generalize hrule : numeralRule r w n before rest = rule at h
    cases h with
    | overlong _ hlong => exact ⟨w, List.mem_cons_self, numeralWord_of_of? hn, hlong.lt_length hn⟩
    | overlongMinutes hm hlong =>
      rw [eq_of_colon hrule]
      exact ⟨_, by simp, numeralWord_of_of? hm, hlong.lt_length hm⟩

end ParamQuery.DateText
