import ParamQuery.Calendar.Date
import ParamQuery.DateText.Numeral
import ParamQuery.DateText.Vocabulary

/-!
# Year, month and day

The parts of a date are collected in the order of the text.  A part written with more than two digits is the year
and states its century; a month name is the month.  `Parts.resolve` finds out which part is which:

* parts known to be the year and the month leave the day;
* a month name decides by its position and by whether a part beside it exceeds 31;
* else a first part over 31 opens year, month, day, one over 12 opens day, month, year, and the rest is month, day,
  year;
* of fewer parts, one over 31 is the year, and what is not the month by its place is the day.

What is not stated is taken from a clock: the century of a year of two digits, and the year, month or day that is
missing (`Clock.fullYear`, `Clock.complete`).
-/

namespace ParamQuery.DateText

open ParamQuery.Calendar ParamQuery.Text

inductive Role where
  | year
  | month
  deriving DecidableEq, Repr

structure Part where
  value : Nat
  role : Option Role
  deriving DecidableEq, Repr

structure Parts where
  entries : List Part
  /-- Whether a year was given with its century. -/
  century : Bool
  deriving DecidableEq, Repr

/-- A date, as far as it is stated. -/
structure StatedDate where
  year : Option Nat
  month : Option Nat
  day : Option Nat
  deriving DecidableEq, Repr

namespace Parts

def empty : Parts := ⟨[], false⟩

def find? (p : Parts) (role : Option Role) : Option Nat :=
  (p.entries.find? (·.role = role)).map (·.value)

/-- No two parts may have the same role. -/
def add (p : Parts) (value : Nat) (role : Option Role) : Option Parts :=
  if role.isSome ∧ (p.find? role).isSome then none
  else some { p with entries := p.entries ++ [⟨value, role⟩] }

def addYear (p : Parts) (value : Nat) : Option Parts :=
  { p with century := true }.add value (some .year)

def addMonth (p : Parts) (value : Nat) : Option Parts :=
  p.add value (some .month)

/-- More than two digits are a year. -/
def addWord (p : Parts) (w : Word) : Option Parts := do
  let value ← natural? w
  if 2 < w.length then p.addYear value else p.add value none

/-- A number over 100 is a year. -/
def addNumeral (p : Parts) (n : Numeral) : Option Parts :=
  if n.exceeds 100 then p.addYear n.whole else p.add n.whole none

/-- Whether the number may be a day of the month, as far as month and year are known. -/
def mayBeDay (p : Parts) (n : Numeral) : Bool :=
  let last :=
    match p.find? (some .month) with
    | none => 31
    | some month => daysInMonth ((p.find? (some .year)).getD 2000) month
  1 ≤ n.whole && !n.exceeds last

/-- A single part. -/
def alone (a : Part) : StatedDate :=
  match a.role with
  | some .year => ⟨some a.value, none, none⟩
  | some .month => ⟨none, some a.value, none⟩
  | none => if 31 < a.value then ⟨some a.value, none, none⟩ else ⟨none, none, some a.value⟩

/-- The part beside the name of a month. -/
def besideMonth (month : Nat) (a : Part) : StatedDate :=
  if a.role = some .year ∨ 31 < a.value then ⟨some a.value, some month, none⟩
  else ⟨none, some month, some a.value⟩

/-- Two parts. -/
def pair (a b : Part) : StatedDate :=
  if a.role = some .month then besideMonth a.value b
  else if b.role = some .month then besideMonth b.value a
  else if 31 < a.value then ⟨some a.value, some b.value, none⟩
  else if 31 < b.value then ⟨some b.value, some a.value, none⟩
  else ⟨none, some a.value, some b.value⟩

/-- Year, month and day by position, of three parts of which at most one has a role. -/
def byPosition (a b c : Part) : Nat × Nat × Nat :=
  if a.role = some .month then
    if 31 < b.value then (b.value, a.value, c.value) else (c.value, a.value, b.value)
  else if b.role = some .month then
    if 31 < a.value then (a.value, b.value, c.value) else (c.value, b.value, a.value)
  else if c.role = some .month then
    if 31 < b.value then (b.value, c.value, a.value) else (a.value, c.value, b.value)
  else if 31 < a.value ∨ a.role = some .year then (a.value, b.value, c.value)
  else if 12 < a.value then (c.value, b.value, a.value)
  else (c.value, a.value, b.value)

/-- Three parts are a whole date; there may be no more. -/
def resolve (p : Parts) : Option StatedDate :=
  match p.entries with
  | [] => some ⟨none, none, none⟩
  | [a] => some (alone a)
  | [a, b] => some (pair a b)
  | [a, b, c] =>
    let (year, month, day) :=
      match p.find? (some .year), p.find? (some .month), p.find? none with
      | some year, some month, some day => (year, month, day)
      | _, _, _ => byPosition a b c
    some ⟨some year, some month, some day⟩
  | _ => none

end Parts

/-- What is known of the time at which a text is read. -/
structure Clock where
  today : Date
  /-- The year around which years of two digits lie. -/
  year : Nat
  /-- Clocks count from 1970 on. -/
  started : 1970 ≤ year
  deriving DecidableEq, Repr

namespace Clock

/-- The year that is meant by its last two digits: less than fifty years ahead, and at most fifty years back. -/
def fullYear (c : Clock) (year : Nat) : Nat :=
  let near := c.year / 100 * 100 + year
  if c.year + 50 ≤ near then near - 100 else if near + 50 < c.year then near + 100 else near

/-- Year, month and day that are meant.  Year and month are the present ones if they are not stated, and so is the
day, or else it is the last one of its month. -/
def complete (c : Clock) (stated : StatedDate) : Nat × Nat × Nat :=
  let year := stated.year.getD c.today.year
  let month := stated.month.getD c.today.month
  (year, month, stated.day.getD (min c.today.day (daysInMonth year month)))

end Clock

/-- The year with its century, for which two digits need a clock. -/
def fullYear? (clock? : Option Clock) (year : Nat) : Option Nat :=
  if year < 100 then clock?.map (·.fullYear year) else some year

/-- The year, month and day that the parts state. -/
def Parts.stated? (clock? : Option Clock) (p : Parts) : Option StatedDate := do
  let stated ← p.resolve
  let year ← stated.year.mapM (if p.century then some else fullYear? clock?)
  return { stated with year }

/-- Year, month and day that are meant; if not all of them are stated, it takes a clock to tell. -/
def StatedDate.meant? (clock? : Option Clock) (stated : StatedDate) : Option (Nat × Nat × Nat) :=
  match stated with
  | ⟨some year, some month, some day⟩ => some (year, month, day)
  | _ => clock?.map (·.complete stated)

/-- The date that the parts state.  If they do not state the day, a day of the week moves it forward. -/
def Parts.date? (clock? : Option Clock) (p : Parts) (weekday : Option Nat) : Option Date := do
  let stated ← p.stated? clock?
  let (year, month, day) ← stated.meant? clock?
  let date ← Date.of? year month day
  match stated.day, weekday with
  | none, some weekday => date.onOrAfter? weekday
  | _, _ => some date

end ParamQuery.DateText
