import ParamQuery.DateText.WordRule
import ParamQuery.Proofs.DateText.Scanning

/-!
# ISO texts of moments

`Moment.isoText` writes a moment in the extended format of ISO 8601: the date, a separator, the wall time, with a
fraction of six digits unless it is zero, and the offset.  `Moment.isoTextIn` puts another zone in the place of the
offset.  The words of such a text are its numbers and the marks between them (`words_isoTextIn`).
-/

namespace ParamQuery

open Calendar DateText
open Calendar.Moment.wallText (digits)

/-- What ends an ISO text: nothing, the letter of universal time, or an offset behind its sign. -/
inductive IsoZone where
  | unsaid
  | universal
  | offset (negative : Bool) (hours minutes : Nat)
  deriving DecidableEq, Repr

namespace IsoZone

def sign (negative : Bool) : Char :=
  if negative then '-' else '+'

def chars : IsoZone → List Char
  | unsaid => []
  | universal => ['Z']
  | offset negative hours minutes => sign negative :: digits 2 hours ++ ':' :: digits 2 minutes

def words : IsoZone → List Word
  | unsaid => []
  | universal => [['Z']]
  | offset negative hours minutes => [[sign negative], digits 2 hours, [':'], digits 2 minutes]

/-- The offset that the zone states, in seconds. -/
def seconds : IsoZone → Int
  | unsaid => 0
  | universal => 0
  | offset negative hours minutes => Number.signed negative (3600 * hours + 60 * minutes)

/-- The hours and minutes of an offset in seconds. -/
def ofSeconds (seconds : Int) : IsoZone :=
  .offset (decide (seconds < 0)) (seconds.natAbs / 3600) (seconds.natAbs / 60 % 60)

/-- Hours and minutes have two digits. -/
def Fits : IsoZone → Prop
  | unsaid => True
  | universal => True
  | offset _ hours minutes => hours < 100 ∧ minutes < 100

theorem seconds_ofSeconds {seconds : Int} (h : seconds % 60 = 0) : (ofSeconds seconds).seconds = seconds := by
  simp only [ofSeconds, IsoZone.seconds, Number.signed]
  split <;> (simp only [decide_eq_true_eq] at *; omega)

theorem fits_unsaid : unsaid.Fits :=
  trivial

theorem fits_universal : universal.Fits :=
  trivial

theorem fits_ofSeconds {seconds : Int} (h : seconds.natAbs < 86400) : (ofSeconds seconds).Fits := by
  simp only [ofSeconds, Fits]
  omega

end IsoZone

namespace Calendar

def Date.isoChars (d : Date) : List Char :=
  digits 4 d.year ++ '-' :: digits 2 d.month ++ '-' :: digits 2 d.day

def Date.isoWords (d : Date) : List Word :=
  [digits 4 d.year, ['-'], digits 2 d.month, ['-'], digits 2 d.day]

namespace Time

/-- The seconds, with their fraction unless it is zero. -/
def isoSeconds (t : Time) : Word :=
  digits 2 t.second ++ if t.microsecond = 0 then [] else '.' :: digits 6 t.microsecond

def isoChars (t : Time) : List Char :=
  digits 2 t.hour ++ ':' :: digits 2 t.minute ++ ':' :: t.isoSeconds

def isoWords (t : Time) : List Word :=
  [digits 2 t.hour, [':'], digits 2 t.minute, [':'], t.isoSeconds]

end Time

namespace Moment

/-- The ISO text of the wall time, with this zone. -/
def isoTextIn (m : Moment) (separator : Char) (zone : IsoZone) : String :=
  String.ofList (m.date.isoChars ++ separator :: m.time.isoChars ++ zone.chars)

/-- The ISO text of a moment, with its offset. -/
def isoText (m : Moment) (separator : Char) : String :=
  m.isoTextIn separator (.ofSeconds m.offset)

end Moment

end Calendar

namespace DateText

variable {cs : List Char}

/-- A padded number is a word, before anything that does not go on with it. -/
theorem scan_digits {width n : Nat} (hwidth : 0 < width) (hcs : EndsNumber cs) :
    scan none (digits width n ++ cs) = digits width n :: scan none cs :=
  scan_digitWord (digitWord_digits hwidth) hcs

theorem endsNumber_zone (zone : IsoZone) : EndsNumber zone.chars := by
  cases zone with
  | unsaid => exact endsNumber_nil
  | universal => exact endsNumber_cons (by decide) (by decide)
  | offset negative hours minutes =>
    cases negative with
    | false => exact endsNumber_cons (by decide) (by decide)
    | true => exact endsNumber_cons (by decide) (by decide)

theorem scan_zone (zone : IsoZone) : scan none zone.chars = zone.words := by
  cases zone with
  | unsaid => rfl
  | universal => rfl
  | offset negative hours minutes =>
    have hhours : scan none (digits 2 hours ++ ':' :: digits 2 minutes) =
        [digits 2 hours, [':'], digits 2 minutes] := by
      rw [scan_digits (by decide) (endsNumber_cons (by decide) (by decide)),
        scan_mark (by decide) (by decide) (by decide)]
      have hminutes := scan_digits (n := minutes) (by decide : 0 < 2) endsNumber_nil
      rw [List.append_nil] at hminutes
      rw [hminutes]
      rfl
    have hsign : ∀ cs, scan none (IsoZone.sign negative :: cs) = [IsoZone.sign negative] :: scan none cs := by
      intro cs
      cases negative with
      | false => exact scan_mark (by decide) (by decide) (by decide) cs
      | true => exact scan_mark (by decide) (by decide) (by decide) cs
    rw [IsoZone.chars, List.cons_append, hsign, hhours]
    rfl

theorem scan_isoSeconds (t : Time) (hcs : EndsNumber cs) :
    scan none (t.isoSeconds ++ cs) = t.isoSeconds :: scan none cs := by
  unfold Time.isoSeconds
  split
  · rw [List.append_nil]
    exact scan_digits (by decide) hcs
  · exact scan_decimal (digitWord_digits (by decide)) (digitWord_digits (by decide)) hcs

theorem scan_isoTime (t : Time) (hcs : EndsNumber cs) :
    scan none (t.isoChars ++ cs) = t.isoWords ++ scan none cs := by
  have hcolon : ∀ cs, scan none (':' :: cs) = [':'] :: scan none cs :=
    scan_mark (by decide) (by decide) (by decide)
  have hends : ∀ cs, EndsNumber (':' :: cs) := fun cs => endsNumber_cons (by decide) (by decide)
  simp only [Time.isoChars, Time.isoWords, List.append_assoc, List.cons_append, List.nil_append]
  rw [scan_digits (by decide) (hends _), hcolon, scan_digits (by decide) (hends _), hcolon, scan_isoSeconds t hcs]

theorem scan_isoDate (d : Date) (hcs : EndsNumber cs) :
    scan none (d.isoChars ++ cs) = d.isoWords ++ scan none cs := by
  have hdash : ∀ cs, scan none ('-' :: cs) = ['-'] :: scan none cs :=
    scan_mark (by decide) (by decide) (by decide)
  have hends : ∀ cs, EndsNumber ('-' :: cs) := fun cs => endsNumber_cons (by decide) (by decide)
  simp only [Date.isoChars, Date.isoWords, List.append_assoc, List.cons_append, List.nil_append]
  rw [scan_digits (by decide) (hends _), hdash, scan_digits (by decide) (hends _), hdash,
    scan_digits (by decide) hcs]

/-- The letter or the space between date and time stands alone, as a digit follows. -/
theorem scan_separator {separator : Char} (hseparator : separator = 'T' ∨ separator = ' ') {w : Word}
    (hw : DigitWord w) (cs : List Char) :
    scan none (separator :: (w ++ cs)) = [separator] :: scan none (w ++ cs) := by
  rcases hseparator with rfl | rfl
  · obtain ⟨c, w, rfl⟩ := List.exists_cons_of_ne_nil hw.ne_nil
    have hc : c.isDigit = true := hw.isDigit c List.mem_cons_self
    refine scan_letter (by decide) ?_
    intro d hd
    cases hd
    exact ⟨Text.isLetter_of_asciiDigit hc, by rintro rfl; cases hc⟩
  · exact scan_mark (by decide) (by decide) (by decide) _

theorem words_ofList {cs : List Char} (h : '\x00' ∉ cs) : words (String.ofList cs) = scan none cs := by
  have hfilter : cs.filter (· ≠ '\x00') = cs := by
    rw [List.filter_eq_self]
    intro c hc
    rw [decide_eq_true_eq]
    rintro rfl
    exact h hc
  rw [words, String.toList_ofList, hfilter]

theorem null_not_mem_isoText (m : Moment) {separator : Char} (hseparator : separator = 'T' ∨ separator = ' ')
    (zone : IsoZone) : '\x00' ∉ m.date.isoChars ++ separator :: m.time.isoChars ++ zone.chars := by
  have hdigits : ∀ width n, '\x00' ∉ digits width n := by
    intro width n h
    exact absurd (isDigit_of_mem_digits h) (by decide)
  have hseconds : '\x00' ∉ m.time.isoSeconds := by
    unfold Time.isoSeconds
    split <;> simp [hdigits]
  have hzone : '\x00' ∉ zone.chars := by
    cases zone with
    | unsaid => simp [IsoZone.chars]
    | universal => simp [IsoZone.chars]
    | offset negative hours minutes => cases negative <;> simp [IsoZone.chars, IsoZone.sign, hdigits]
  rcases hseparator with rfl | rfl <;>
    simp [Date.isoChars, Time.isoChars, hdigits, hseconds, hzone]

theorem words_isoTextIn (m : Moment) {separator : Char} (hseparator : separator = 'T' ∨ separator = ' ')
    (zone : IsoZone) :
    words (m.isoTextIn separator zone) = m.date.isoWords ++ [separator] :: m.time.isoWords ++ zone.words := by
  have hends : EndsNumber (separator :: m.time.isoChars ++ zone.chars) := by
    rcases hseparator with rfl | rfl <;> exact endsNumber_cons (by decide) (by decide)
  have htime : scan none (separator :: (m.time.isoChars ++ zone.chars)) =
      [separator] :: scan none (m.time.isoChars ++ zone.chars) := by
    simp only [Time.isoChars, List.append_assoc]
    exact scan_separator hseparator (digitWord_digits (by decide)) _
  rw [Moment.isoTextIn, words_ofList (null_not_mem_isoText m hseparator zone), List.append_assoc,
    scan_isoDate _ hends, List.cons_append, htime, scan_isoTime _ (endsNumber_zone zone), scan_zone]
  simp only [List.append_assoc, List.cons_append]

end DateText

end ParamQuery
