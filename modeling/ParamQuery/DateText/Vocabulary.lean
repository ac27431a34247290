import ParamQuery.DateText.Word
import ParamQuery.Text.Case

/-!
# The words that a date text knows

All but the time zone names are recognised in any case.
-/

namespace ParamQuery.DateText

open ParamQuery.Text

def lowerCase (w : Word) : String :=
  String.ofList (w.flatMap lowerChar)

/-- Words without meaning, which may stand between the others. -/
def fillers : List String :=
  [" ", ".", ",", ";", "-", "/", "'", "at", "on", "and", "ad", "m", "t", "of", "st", "nd", "rd", "th"]

def isFiller (w : Word) : Bool :=
  lowerCase w ∈ fillers

/-- The days of the week, counted from Monday on. -/
def weekdays : List (String × Nat) :=
  [("mon", 0), ("monday", 0), ("tue", 1), ("tuesday", 1), ("wed", 2), ("wednesday", 2), ("thu", 3), ("thursday", 3),
    ("fri", 4), ("friday", 4), ("sat", 5), ("saturday", 5), ("sun", 6), ("sunday", 6)]

def weekday? (w : Word) : Option Nat :=
  weekdays.lookup (lowerCase w)

def months : List (String × Nat) :=
  [("jan", 1), ("january", 1), ("feb", 2), ("february", 2), ("mar", 3), ("march", 3), ("apr", 4), ("april", 4),
    ("may", 5), ("jun", 6), ("june", 6), ("jul", 7), ("july", 7), ("aug", 8), ("august", 8), ("sep", 9),
    ("sept", 9), ("september", 9), ("oct", 10), ("october", 10), ("nov", 11), ("november", 11), ("dec", 12),
    ("december", 12)]

def month? (w : Word) : Option Nat :=
  months.lookup (lowerCase w)

inductive ClockUnit where
  | hour
  | minute
  | second
  deriving DecidableEq, Repr

def clockUnits : List (String × ClockUnit) :=
  [("h", .hour), ("hour", .hour), ("hours", .hour), ("m", .minute), ("minute", .minute), ("minutes", .minute),
    ("s", .second), ("second", .second), ("seconds", .second)]

def clockUnit? (w : Word) : Option ClockUnit :=
  clockUnits.lookup (lowerCase w)

/-- The next smaller unit. -/
def ClockUnit.next? : ClockUnit → Option ClockUnit
  | .hour => some .minute
  | .minute => some .second
  | .second => none

/-- The half of the day. -/
inductive Half where
  | morning
  | afternoon
  deriving DecidableEq, Repr

def halves : List (String × Half) :=
  [("am", .morning), ("a", .morning), ("pm", .afternoon), ("p", .afternoon)]

def half? (w : Word) : Option Half :=
  halves.lookup (lowerCase w)

/-- The hour of the day for an hour of this half. -/
def Half.hour (half : Half) (hour : Nat) : Nat :=
  match half with
  | .morning => if hour = 12 then 0 else hour
  | .afternoon => if hour < 12 then hour + 12 else hour

/-- The word between a month and its year. -/
def isOf (w : Word) : Bool :=
  lowerCase w = "of"

/-- Words that name no finite number, where a number is looked for first. -/
def isNonFinite (w : Word) : Bool :=
  lowerCase w ∈ ["nan", "inf", "infinity"]

def universalZones : List String :=
  ["UTC", "GMT", "Z", "z"]

def isUniversal (w : Word) : Bool :=
  String.ofList w ∈ universalZones

/-- The names of universal time, and any five ASCII capitals or fewer. -/
def isZoneName (w : Word) : Bool :=
  w.length ≤ 5 && (w.all Char.isUpper || isUniversal w)

end ParamQuery.DateText
