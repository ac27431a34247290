import ParamQuery.Text.Blank
import ParamQuery.Text.Letter

/-!
# Words of a date text

A date text is read as a sequence of words:

* a run of letters or a run of digits;
* one space for each blank character;
* any other character alone.

A point joins runs, as in `a.m.` or `10.5`; so does a comma after two digits or more, as in `10,5`.  Such a
compound is taken apart again at its points and commas when it turns out not to be a plain decimal: when a
letter was followed by a further character, when there are two points, or when it ends in a point or comma.  In
a decimal that stays whole the comma becomes a point.
-/

namespace ParamQuery.DateText

open ParamQuery.Text

abbrev Word := List Char

/-- What kind of characters the word being read ends in, and whether it is a compound. -/
inductive Mode where
  | letters
  | digits
  | compoundLetters
  | compoundDigits
  deriving DecidableEq, Repr

/-- A word being read: its characters, the last one first, and whether a character followed one of its letters. -/
structure Run where
  mode : Mode
  lettered : Bool
  chars : List Char
  deriving DecidableEq, Repr

def isMark (c : Char) : Bool :=
  c = '.' || c = ','

/-- The stretches between points and commas, and the points and commas. -/
def splitMarks : Word → List Word
  | [] => []
  | c :: cs =>
    if isMark c then [c] :: splitMarks cs
    else
      match splitMarks cs with
      | (d :: w) :: ws => if isMark d then [c] :: (d :: w) :: ws else (c :: d :: w) :: ws
      | ws => [c] :: ws

namespace Run

def push (r : Run) (mode : Mode) (lettered : Bool) (c : Char) : Option Run :=
  some ⟨mode, lettered, c :: r.chars⟩

/-- The run with one more character, none if the character does not belong to it. -/
def advance (r : Run) (c : Char) : Option Run :=
  match r.mode with
  | .letters =>
    if isLetter c then r.push .letters true c
    else if c = '.' then r.push .compoundLetters true c
    else none
  | .digits =>
    if isDigit c then r.push .digits r.lettered c
    else if c = '.' ∨ (c = ',' ∧ 2 ≤ r.chars.length) then r.push .compoundDigits r.lettered c
    else none
  | .compoundLetters =>
    if c = '.' ∨ isLetter c then r.push .compoundLetters true c
    else if isDigit c ∧ r.chars.head? = some '.' then r.push .compoundDigits true c
    else none
  | .compoundDigits =>
    if c = '.' ∨ isDigit c then r.push .compoundDigits r.lettered c
    else if isLetter c ∧ r.chars.head? = some '.' then r.push .compoundLetters r.lettered c
    else none

/-- The words of a run that has ended, before a further character or at the end of the text. -/
def words (r : Run) (further : Bool) : List Word :=
  let word := r.chars.reverse
  let compound := r.mode = .compoundLetters ∨ r.mode = .compoundDigits
  let lettered := r.lettered ∨ (further ∧ r.mode = .compoundLetters)
  if compound ∧ (lettered ∨ 1 < word.count '.' ∨ r.chars.head?.any isMark) then splitMarks word
  else if r.mode = .compoundDigits ∧ '.' ∉ word then [word.map fun c => if c = ',' then '.' else c]
  else [word]

end Run

/-- A character after the end of a run: a word by itself, or the start of the next run. -/
def opening (c : Char) : List Word × Option Run :=
  if isLetter c then ([], some ⟨.letters, false, [c]⟩)
  else if isDigit c then ([], some ⟨.digits, false, [c]⟩)
  else if isBlank c then ([[' ']], none)
  else ([[c]], none)

def scan : Option Run → List Char → List Word
  | none, [] => []
  | some r, [] => r.words false
  | none, c :: cs => (opening c).1 ++ scan (opening c).2 cs
  | some r, c :: cs =>
    match r.advance c with
    | some r' => scan (some r') cs
    | none => r.words true ++ (opening c).1 ++ scan (opening c).2 cs

/-- The words of a text; null characters are not seen at all. -/
def words (s : String) : List Word :=
  scan none (s.toList.filter (· ≠ '\x00'))

end ParamQuery.DateText
