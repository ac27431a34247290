import ParamQuery.DateText.Failure
import ParamQuery.DateText.Word
import ParamQuery.Number.Binary64
import ParamQuery.Number.Leading
import ParamQuery.Text.Pieces

/-!
# Numerals in a date text

The digits are those of any script that writes numbers in decimal.

* `natural?` reads a word of digits;
* `Numeral.of?` reads digits with at most one point among them, exactly;
* `Numeral.sixtieths?` turns a fraction into sixtieths, in decimal arithmetic of limited precision;
* `secondsOf?` reads seconds with their fraction cut to microseconds.
-/

namespace ParamQuery.DateText

open ParamQuery.Text

/-- The number that the digits write; none when there are no digits, or when a character is no decimal digit. -/
def valueOf? (w : Word) : Option Nat :=
  if w.isEmpty then none else (w.mapM decimalDigit?).map (·.foldl (fun n d => 10 * n + d) 0)

/-- A natural number of at most `maxDigits` digits. -/
def natural? (w : Word) : Option Nat :=
  if Number.maxDigits < w.length then none else valueOf? w

/-- The number `whole + fraction / 10 ^ places`. -/
structure Numeral where
  whole : Nat
  fraction : Nat
  places : Nat
  deriving DecidableEq, Repr

namespace Numeral

def of? (w : Word) : Option Numeral :=
  match pieces '.' w with
  | [whole] => (valueOf? whole).map fun n => ⟨n, 0, 0⟩
  | [whole, fraction] => do return ⟨← valueOf? whole, ← valueOf? fraction, fraction.length⟩
  | _ => none

/-- The digits of a number in decimal arithmetic. -/
def precision : Nat := 28

/-- The places behind the point in decimal arithmetic. -/
def maxPlaces : Nat := 1000026

/-- The fraction `n / 10 ^ places` with as many digits and places as there may be; a tie goes to the even digit. -/
def rounded (n places : Nat) : Nat × Nat :=
  let excess := max ((Nat.toDigits 10 n).length - precision) (places - maxPlaces)
  (Number.roundHalfEven n (Nat.pow 10 excess), places - excess)

/-- The whole sixtieths in the fraction, none if it is zero.  The fraction is what is left of a division by one, whose
quotient must have no more digits than there are. -/
def sixtieths? (n : Numeral) : Except Failure (Option Nat) :=
  if Nat.pow 10 precision ≤ n.whole then .error .beyondPrecision
  else
    let (fraction, places) := rounded n.fraction n.places
    if fraction = 0 then .ok none
    else
      let (sixtieths, places) := rounded (60 * fraction) places
      .ok (some (sixtieths / Nat.pow 10 places))

def exceeds (n : Numeral) (bound : Nat) : Bool :=
  bound < n.whole || (n.whole = bound && n.fraction ≠ 0)

end Numeral

/-- Seconds and microseconds; digits of the fraction after the sixth do not count. -/
def secondsOf? (w : Word) : Option (Nat × Nat) :=
  match pieces '.' w with
  | [whole] => (natural? whole).map fun n => (n, 0)
  | [whole, fraction] => do
    return (← natural? whole, ← natural? ((fraction ++ List.replicate 6 '0').take 6))
  | _ => none

end ParamQuery.DateText
