import ParamQuery.DateText.NumeralRule

/-!
# What the other words say

Each rule gives the reading and how many of the following words it has used up.

* a month name, which may be followed by a separated day and year, or by `of` and a year;
* `am` or `pm` after an hour up to 12;
* a time zone by its name, by its offset, or by an offset with a name in parentheses; an offset behind a name is
  what has to be added for universal time, so its sign is reversed.
-/

namespace ParamQuery.DateText

/-- A month name, with the words behind it. -/
def readMonth (clock? : Option Clock) (r : Reading) (month : Nat) (rest : List Word) : Outcome := do
  let parts ← required (r.parts.addMonth month)
  match rest with
  | separator :: rest =>
    if separator = ['-'] ∨ separator = ['/'] then
      let parts ← required (rest.head?.bind parts.addWord)
      match rest.tail with
      | again :: rest =>
        if again = separator then
          let parts ← required (rest.head?.bind parts.addWord)
          return ({ r with parts }, 4)
        else return ({ r with parts }, 2)
      | [] => return ({ r with parts }, 2)
    else
      match separator, rest with
      | [' '], between :: [' '] :: year :: _ =>
        if !isOf between then return ({ r with parts }, 0)
        else if year.all Text.isDigit then
          let value ← required ((natural? year).bind (fullYear? clock?))
          return ({ r with parts := ← required (parts.addYear value) }, 4)
        else return ({ r with parts }, 4)
      | _, _ => return ({ r with parts }, 0)
  | [] => return ({ r with parts }, 0)

def readHalf (r : Reading) (half : Half) : Outcome :=
  match r.hour with
  | some hour => if hour ≤ 12 then .ok ({ r with hour := some (half.hour hour) }, 0) else .error .noValue
  | none => .error .noValue

/-- The seconds of an offset and the words it takes: four digits, hours and minutes with a colon, or hours. -/
def offsetSeconds? : List Word → Option (Nat × Nat)
  | [] => none
  | w :: rest => do
    if w.length = 4 then
      return (3600 * (← natural? (w.take 2)) + 60 * (← natural? (w.drop 2)), 1)
    else if rest.head? = some [':'] then
      return (3600 * (← natural? w) + 60 * (← natural? (← rest[1]?)), 3)
    else if w.length ≤ 2 then
      return (3600 * (← natural? w), 1)
    else none

/-- An offset behind its sign, with the name of the zone in parentheses, if there is one. -/
def readOffset (r : Reading) (negative : Bool) (rest : List Word) : Outcome := do
  let (seconds, used) ← required (offsetSeconds? rest)
  let r := { r with zoneOffset := some (Number.signed negative seconds) }
  match rest.drop used with
  | filler :: ['('] :: name :: [')'] :: _ =>
    if isFiller filler ∧ 3 ≤ name.length ∧ r.awaitsZone name then
      return ({ r with zoneName := some name }, used + 4)
    else return (r, used)
  | _ => return (r, used)

/-- An offset behind the name of a zone, with its sign reversed; it is not the offset of universal time. -/
def readZoneOffset (r : Reading) (name : Word) (negative : Bool) (rest : List Word) : Outcome :=
  let r := { r with zoneName := if isUniversal name then none else some name, zoneOffset := none }
  (readOffset r negative rest).map fun (r, used) => (r, used + 1)

/-- The name of a time zone, with the words behind it. -/
def readZoneName (r : Reading) (name : Word) (rest : List Word) : Outcome :=
  match rest with
  | ['+'] :: rest => readZoneOffset r name true rest
  | ['-'] :: rest => readZoneOffset r name false rest
  | _ => .ok ({ r with zoneName := some name, zoneOffset := if name = ['z'] then some 0 else none }, 0)

/-- Reads the word `w`, with the words before it, the nearest first, and the words behind it. -/
def readWord (clock? : Option Clock) (r : Reading) (w : Word) (before rest : List Word) : Outcome :=
  match Numeral.of? w with
  | some n => readNumeral r w n before rest
  | none =>
    if isNonFinite w then .error .noValue
    else
      match weekday? w, month? w, half? w with
      | some weekday, _, _ => .ok ({ r with weekday := some weekday }, 0)
      | none, some month, _ => readMonth clock? r month rest
      | none, none, some half => readHalf r half
      | none, none, none =>
        if r.zoneOffset.isNone ∧ r.awaitsZone w then readZoneName r w rest
        else if r.hour.isSome ∧ w = ['+'] then readOffset r false rest
        else if r.hour.isSome ∧ w = ['-'] then readOffset r true rest
        else if isFiller w then .ok (r, 0)
        else .error .noValue

/-- Reads the words in turn, except the next `skip` ones, which were used up already. -/
def readWords (clock? : Option Clock) (r : Reading) (before : List Word) (skip : Nat) :
    List Word → Except Failure Reading
  | [] => .ok r
  | w :: rest =>
    match skip with
    | skip + 1 => readWords clock? r (w :: before) skip rest
    | 0 =>
      match readWord clock? r w before rest with
      | .ok (r, used) => readWords clock? r (w :: before) used rest
      | .error failure => .error failure

/-- The moment that a date text states.  Without a clock, a text whose moment depends on the day on which it is read
is refused. -/
def read (clock? : Option Clock) (s : String) : Except Failure Calendar.Moment := do
  let r ← readWords clock? .empty [] 0 (words s)
  required (r.moment? clock?)

end ParamQuery.DateText
