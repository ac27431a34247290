/-!
# Binary floating-point numbers of 64 bits

Every finite number is a multiple of the unit `2 ^ -1074`: the number `⟨negative, significand, scale⟩` has the
magnitude `significand * 2 ^ scale` units.  There is no not-a-number, since no operation here yields one.

* `ofUnits` rounds an exact quotient of naturals to the nearest number, a tie to the even significand, and to
  infinity above the largest finite number;
* `ofDecimal` does this for decimal digits with a power of ten, of any size;
* `bits` is the interchange encoding.
-/

namespace ParamQuery.Number

/-- Significands have 53 bits, exactly 53 unless the scale is the least one. -/
def Canonical (significand scale : Nat) : Prop :=
  significand < Nat.pow 2 53 ∧ scale ≤ 2045 ∧ (scale = 0 ∨ Nat.pow 2 52 ≤ significand)

instance (significand scale : Nat) : Decidable (Canonical significand scale) :=
  inferInstanceAs (Decidable (_ ∧ _ ∧ _))

inductive Binary64 where
  | finite (negative : Bool) (significand scale : Nat) (canonical : Canonical significand scale)
  | infinite (negative : Bool)
  deriving DecidableEq, Repr

/-- The natural number nearest to `num / den`, a tie going to the even one. -/
def roundHalfEven (num den : Nat) : Nat :=
  let quotient := num / den
  let twice := 2 * (num % den)
  if twice < den ∨ (twice = den ∧ quotient % 2 = 0) then quotient else quotient + 1

namespace Binary64

/-- The units in one. -/
def unitsPerOne : Nat := Nat.pow 2 1074

/-- The number with this significand and scale, infinity when the scale is beyond the largest one. -/
def pack (negative : Bool) (significand scale : Nat) : Binary64 :=
  if h : Canonical significand scale then .finite negative significand scale h else .infinite negative

/-- The number nearest to `num / den` units. -/
def ofUnits (negative : Bool) (num den : Nat) : Binary64 :=
  let scale := (num / den).log2 - 52
  let significand := roundHalfEven num (den * Nat.pow 2 scale)
  if significand = Nat.pow 2 53 then pack negative (Nat.pow 2 52) (scale + 1) else pack negative significand scale

/-- The number nearest to `num / den`. -/
def ofRatio (negative : Bool) (num den : Nat) : Binary64 :=
  ofUnits negative (num * unitsPerOne) den

/-- The number nearest to `digits * 10 ^ exponent`, where `digits` is written with `count` digits.  A power of ten
that makes the magnitude at least `10 ^ 310`, or less than `10 ^ -330`, is not computed. -/
def ofDecimal (negative : Bool) (digits count : Nat) (exponent : Int) : Binary64 :=
  if digits = 0 then pack negative 0 0
  else if 310 < exponent then .infinite negative
  else if exponent + count < -330 then pack negative 0 0
  else ofRatio negative (digits * Nat.pow 10 exponent.toNat) (Nat.pow 10 (-exponent).toNat)

/-- The magnitude in units; none for an infinity. -/
def units? : Binary64 → Option Nat
  | .finite _ significand scale _ => some (significand * Nat.pow 2 scale)
  | .infinite _ => none

def isNegative : Binary64 → Bool
  | .finite negative .. => negative
  | .infinite negative => negative

/-- The number nearest to the quotient by a natural number. -/
def divNat (x : Binary64) (divisor : Nat) : Binary64 :=
  match x.units? with
  | some units => ofUnits x.isNegative units divisor
  | none => x

/-- The interchange encoding: sign, biased exponent, fraction.  A full significand carries its leading bit into the
exponent field, which is why adding `scale * 2 ^ 52` gives both fields at once. -/
def bits (x : Binary64) : Nat :=
  (if x.isNegative then Nat.pow 2 63 else 0) +
    match x with
    | .finite _ significand scale _ => scale * Nat.pow 2 52 + significand
    | .infinite _ => 2047 * Nat.pow 2 52

end Binary64

end ParamQuery.Number
