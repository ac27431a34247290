import ParamQuery.Number.Leading

/-!
# Numbers as text

* `intText?`: an integer in decimal, refused beyond `maxDigits` digits;
* `floatText`: the fewest digits that read back as the same number, the nearest of those, a tie going to the even
  last digit; positional where the first digit stands for a power from `10 ^ -4` to `10 ^ 15` and with a power of ten
  elsewhere.
-/

namespace ParamQuery.Number

/-- A minus for a negative integer, and its decimal digits. -/
def intDigits (n : Int) : List Char :=
  (if n < 0 then ['-'] else []) ++ Nat.toDigits 10 n.natAbs

def intText? (n : Int) : Option String :=
  if Nat.pow 10 maxDigits ≤ n.natAbs then none else some (String.ofList (intDigits n))

namespace Binary64

/-- The `p` with `10 ^ (p - 1) ≤ x < 10 ^ p`, for a nonzero magnitude in units. -/
def decimalPoint (units : Nat) : Int :=
  if unitsPerOne ≤ units then (Nat.toDigits 10 (units / unitsPerOne)).length
  else
    match (List.range 324).find? fun k => unitsPerOne ≤ units * Nat.pow 10 (k + 1) with
    | some k => -(k : Int)
    | none => -323

/-- The multiples of `10 ^ exponent` next to the magnitude that read back as `x`, the nearer one first, of two as
near as each other the even one. -/
def readBack (x : Binary64) (units : Nat) (exponent : Int) : List Nat :=
  let num := units * Nat.pow 10 (-exponent).toNat
  let den := unitsPerOne * Nat.pow 10 exponent.toNat
  let below := num / den
  let nearest := roundHalfEven num den
  let other := if nearest = below then below + 1 else below
  [nearest, other].filter fun digits => decide (ofDecimal x.isNegative digits 18 exponent = x)

/-- The digits of the shortest decimal that reads back, as a multiple of a power of ten. -/
def shortest (x : Binary64) (units : Nat) : Nat × Int :=
  let point := decimalPoint units
  let hits := (List.range 17).filterMap fun k =>
    let exponent := point - (k + 1 : Nat)
    (readBack x units exponent).head?.map fun digits => (digits, exponent)
  hits.headD (0, 0)

/-- Digits without the zeros at their end. -/
def trimZeros (digits : List Char) : List Char :=
  (digits.reverse.dropWhile (· = '0')).reverse

/-- A point after the first `point` digits, with zeros where digits are missing. -/
def positional (digits : List Char) (point : Int) : List Char :=
  if point ≤ 0 then '0' :: '.' :: (List.replicate (-point).toNat '0' ++ digits)
  else
    let whole := digits.take point.toNat ++ List.replicate (point.toNat - digits.length) '0'
    let fraction := digits.drop point.toNat
    whole ++ '.' :: (if fraction.isEmpty then ['0'] else fraction)

/-- One digit before the point, and the power of ten with a sign and two digits at least. -/
def scientific (digits : List Char) (power : Int) : List Char :=
  let fraction := digits.drop 1
  let exponent := Nat.toDigits 10 power.natAbs
  digits.take 1 ++ (if fraction.isEmpty then [] else '.' :: fraction) ++
    'e' :: (if power < 0 then '-' else '+') :: (List.replicate (2 - exponent.length) '0' ++ exponent)

def floatText (x : Binary64) : String :=
  let sign := if x.isNegative then ['-'] else []
  match x.units? with
  | none => String.ofList (sign ++ "inf".toList)
  | some 0 => String.ofList (sign ++ "0.0".toList)
  | some units =>
    let (n, exponent) := shortest x units
    let digits := Nat.toDigits 10 n
    let power := exponent + digits.length - 1
    let body := if -4 ≤ power ∧ power < 16 then positional (trimZeros digits) (power + 1)
      else scientific (trimZeros digits) power
    String.ofList (sign ++ body)

end Binary64

end ParamQuery.Number
