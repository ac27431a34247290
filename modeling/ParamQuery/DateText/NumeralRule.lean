import ParamQuery.DateText.Reading

/-!
# What a numeral says

A numeral is read by the first rule that fits it and the words around it.  A rule gives the reading and how many of
the following words it has used up, or fails, which fails the whole text.

* after three date parts, two or four digits are the time;
* six digits are a short date at the start and a time elsewhere; eight, twelve or fourteen are a date and a time;
* a unit of the clock beside the numeral says what it is; a colon follows an hour;
* a dash, slash or point continues a date; a blank or another filler ends a part of it;
* `am` or `pm` makes it an hour, and what else may be a day is one.
-/

namespace ParamQuery.DateText

/-- A reading and the number of words used up after the current one. -/
abbrev Outcome := Except Failure (Reading × Nat)

/-- Two or four digits after a date: hours, or hours and minutes. -/
def readClock (r : Reading) (w : Word) : Outcome := do
  let hour ← required (natural? (w.take 2))
  if w.length = 4 then
    let minute ← required (natural? (w.drop 2))
    return ({ r with hour := some hour, minute := some minute }, 0)
  else return ({ r with hour := some hour }, 0)

/-- Two digits each for year, month and day, or for hour, minute and second. -/
def readSix (r : Reading) (w : Word) : Outcome := do
  if r.parts.entries.isEmpty ∧ '.' ∉ w then
    let parts ← required (r.parts.addWord (w.take 2))
    let parts ← required (parts.addWord ((w.drop 2).take 2))
    let parts ← required (parts.addWord (w.drop 4))
    return ({ r with parts }, 0)
  else
    let hour ← required (natural? (w.take 2))
    let minute ← required (natural? ((w.drop 2).take 2))
    let seconds ← required (secondsOf? (w.drop 4))
    return ({ r with hour := some hour, minute := some minute }.setSeconds seconds, 0)

/-- Four digits for the year and two each for month, day, hour, minute and second, as far as there are digits. -/
def readEight (r : Reading) (w : Word) : Outcome := do
  let parts ← required (r.parts.addWord (w.take 4))
  let parts ← required (parts.addWord ((w.drop 4).take 2))
  let parts ← required (parts.addWord ((w.drop 6).take 2))
  let r := { r with parts }
  if w.length = 8 then return (r, 0)
  let hour ← required (natural? ((w.drop 8).take 2))
  let minute ← required (natural? ((w.drop 10).take 2))
  let r := { r with hour := some hour, minute := some minute }
  if w.length = 12 then return (r, 0)
  let second ← required (natural? (w.drop 12))
  return ({ r with second := some second }, 0)

/-- The word behind a blank. -/
def behindBlank? : List Word → Option Word
  | [' '] :: w :: _ => some w
  | _ => none

/-- The unit of the clock that belongs to a numeral, and the number of words up to it: a unit behind the numeral
or behind one blank, else the unit next smaller to one before the numeral.  Before a last numeral there may be a
blank. -/
def unitBeside? (before rest : List Word) : Option (Option ClockUnit × Nat) :=
  if let some unit := rest.head?.bind clockUnit? then some (some unit, 1)
  else if let some unit := (behindBlank? rest).bind clockUnit? then some (some unit, 2)
  else if let some unit := before.head?.bind clockUnit? then some (unit.next?, 0)
  else if rest.isEmpty then ((behindBlank? before).bind clockUnit?).map fun unit => (unit.next?, 0)
  else none

/-- Minutes after a colon, and seconds after another. -/
def readColon (r : Reading) (n : Numeral) (minutes : Word) (rest : List Word) : Outcome := do
  let m ← required (Numeral.of? minutes)
  let r ← { r with hour := some n.whole }.setMinutes m
  match rest with
  | [':'] :: seconds :: _ => do
    let s ← required (secondsOf? seconds)
    return (r.setSeconds s, 4)
  | _ => return (r, 2)

/-- A month name or a number as a part of the date. -/
def Parts.addMonthOrWord (p : Parts) (w : Word) : Option Parts :=
  match month? w with
  | some month => p.addMonth month
  | none => p.addWord w

/-- A digit word or a month name as a part of the date. -/
def Parts.addDigitsOrMonth (p : Parts) (w : Word) : Option Parts :=
  if w.all Text.isDigit then p.addWord w else (month? w).bind p.addMonth

/-- The parts of a date between separators; `rest` stands behind the first separator. -/
def readSeparated (r : Reading) (w : Word) (separator : Word) (rest : List Word) : Outcome := do
  let parts ← required (r.parts.addWord w)
  match rest with
  | [] => return ({ r with parts }, 1)
  | second :: rest =>
    if isFiller second then return ({ r with parts }, 1)
    let parts ← required (parts.addDigitsOrMonth second)
    match rest with
    | again :: rest =>
      if again = separator then
        let parts ← required (rest.head?.bind parts.addMonthOrWord)
        return ({ r with parts }, 4)
      else return ({ r with parts }, 2)
    | [] => return ({ r with parts }, 2)

def isSeparator (w : Word) : Bool :=
  w = ['-'] || w = ['/'] || w = ['.']

/-- A numeral that nothing explains: a day, if it may be one. -/
def readDay (r : Reading) (n : Numeral) : Outcome :=
  required <| if r.parts.mayBeDay n then (r.parts.addNumeral n).map fun parts => ({ r with parts }, 0) else none

/-- How a numeral is read. -/
inductive NumeralRule where
  /-- The time after a date. -/
  | clock
  /-- A short date or a time. -/
  | six
  /-- A date, and as much of a time as there is. -/
  | eight
  /-- A number of the unit, none if the units are at an end; so many of the next words belong to it. -/
  | unit (unit? : Option ClockUnit) (used : Nat)
  /-- The hour before minutes. -/
  | colon (minutes : Word) (rest : List Word)
  /-- The first part of a date, before a separator. -/
  | separated (separator : Word) (rest : List Word)
  /-- A numeral before a filler or at the end: an hour of a half of the day, or a part of a date. -/
  | last (half? : Option Half)
  /-- The hour before its half of the day. -/
  | half (half : Half)
  /-- A day. -/
  | day
  deriving DecidableEq, Repr

/-- The first rule that fits the numeral `n`, written `w`, with the words before it, the nearest first, and the words
behind it. -/
def numeralRule (r : Reading) (w : Word) (n : Numeral) (before rest : List Word) : NumeralRule :=
  let next := rest.headD []
  if r.parts.entries.length = 3 ∧ (w.length = 2 ∨ w.length = 4) ∧ r.hour.isNone ∧ next ≠ [':'] ∧
      (clockUnit? next).isNone then .clock
  else if w.length = 6 ∨ (6 < w.length ∧ w.idxOf '.' = 6) then .six
  else if w.length = 8 ∨ w.length = 12 ∨ w.length = 14 then .eight
  else
    match unitBeside? before rest, rest with
    | some (unit?, used), _ => .unit unit? used
    | none, [] => .last none
    | none, [':'] :: minutes :: rest => .colon minutes rest
    | none, next :: rest =>
      if isSeparator next then .separated next rest
      else if isFiller next then .last (rest.head?.bind half?)
      else
        match half? next with
        | some half => if n.whole < 24 then .half half else .day
        | none => .day

def readBy (rule : NumeralRule) (r : Reading) (w : Word) (n : Numeral) : Outcome :=
  match rule with
  | .clock => readClock r w
  | .six => readSix r w
  | .eight => readEight r w
  | .unit (some unit) used => (r.setUnit unit w n).map fun r => (r, used)
  | .unit none used => .ok (r, used)
  | .colon minutes rest => readColon r n minutes rest
  | .separated separator rest => readSeparated r w separator rest
  | .last (some half) => .ok ({ r with hour := some (half.hour n.whole) }, 2)
  | .last none => required ((r.parts.addNumeral n).map fun parts => ({ r with parts }, 1))
  | .half half => .ok ({ r with hour := some (half.hour n.whole) }, 1)
  | .day => readDay r n

def readNumeral (r : Reading) (w : Word) (n : Numeral) (before rest : List Word) : Outcome :=
  readBy (numeralRule r w n before rest) r w n

end ParamQuery.DateText
