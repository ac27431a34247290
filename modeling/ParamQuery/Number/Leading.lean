import ParamQuery.Number.Binary64

/-!
# The number at the start of a text

A text is read leniently: a run of ASCII white space, then the longest number, then anything.

* `leadingInt`: a sign and digits, at most `maxDigits` of them;
* `leadingFloat`: a sign and either the word `Infinity` or digits with a point and a power of ten.

Only the ASCII digits count.
-/

namespace ParamQuery.Number

/-- The ASCII white space: the space and the characters from tab to carriage return. -/
def isGap (c : Char) : Bool :=
  c = ' ' || (9 ≤ c.toNat && c.toNat ≤ 13)

/-- An integer is read from, and written in, at most this many decimal digits, leading zeros included. -/
def maxDigits : Nat := 4300

/-- Takes a sign off; the result says whether it was a minus. -/
def takeSign : List Char → Bool × List Char
  | '-' :: cs => (true, cs)
  | '+' :: cs => (false, cs)
  | cs => (false, cs)

/-- The number that a run of ASCII digits writes. -/
def digitsValue (digits : List Char) : Nat :=
  digits.foldl (fun n c => 10 * n + (c.toNat - '0'.toNat)) 0

def signed (negative : Bool) (n : Nat) : Int :=
  if negative then -(n : Int) else n

def leadingInt (s : String) : Option Int :=
  let (negative, cs) := takeSign (s.toList.dropWhile isGap)
  let digits := cs.takeWhile Char.isDigit
  if digits.isEmpty ∨ maxDigits < digits.length then none else some (signed negative (digitsValue digits))

/-- A written magnitude: the word for infinity, or digits times a power of ten. -/
inductive Magnitude where
  | infinite
  | decimal (digits : List Char) (exponent : Int)
  deriving DecidableEq, Repr

/-- The power of ten at the start of a text, zero where none is written in full. -/
def leadingExponent : List Char → Int
  | [] => 0
  | c :: cs =>
    if c = 'e' ∨ c = 'E' then
      let (negative, rest) := takeSign cs
      signed negative (digitsValue (rest.takeWhile Char.isDigit))
    else 0

def leadingMagnitude (cs : List Char) : Option Magnitude :=
  if "Infinity".toList.isPrefixOf cs then some .infinite
  else
    let whole := cs.takeWhile Char.isDigit
    let rest := cs.dropWhile Char.isDigit
    match rest with
    | '.' :: tail =>
      let fraction := tail.takeWhile Char.isDigit
      if whole.isEmpty ∧ fraction.isEmpty then none
      else some (.decimal (whole ++ fraction)
        (leadingExponent (tail.dropWhile Char.isDigit) - fraction.length))
    | _ => if whole.isEmpty then none else some (.decimal whole (leadingExponent rest))

def Magnitude.toBinary64 (negative : Bool) : Magnitude → Binary64
  | .infinite => .infinite negative
  | .decimal digits exponent => .ofDecimal negative (digitsValue digits) digits.length exponent

def leadingFloat (s : String) : Option Binary64 :=
  let (negative, cs) := takeSign (s.toList.dropWhile isGap)
  (leadingMagnitude cs).map (Magnitude.toBinary64 negative)

end ParamQuery.Number
