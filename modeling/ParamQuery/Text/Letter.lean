import ParamQuery.Text.DigitTable
import ParamQuery.Text.LetterTable
import ParamQuery.Text.Ranges

/-!
# Letters and digits

* `isLetter`: the letters of all scripts;
* `decimalDigit?`: the value of a digit of a script that writes numbers in decimal;
* `isDigit`: those digits, and the superscripts and circled digits, which have no decimal value.
-/

namespace ParamQuery.Text

def isLetter (c : Char) : Bool :=
  if c.toNat < 128 then c.isAlpha else inRanges letterRanges c.toNat

def decimalDigit? (c : Char) : Option Nat :=
  if c.toNat < 128 then
    if c.isDigit then some (c.toNat - '0'.toNat) else none
  else
    (decimalZeros.find? fun z => z ≤ c.toNat && c.toNat < z + 10).map (c.toNat - ·)

def isDigit (c : Char) : Bool :=
  (decimalDigit? c).isSome || inRanges ornamentalDigitRanges c.toNat

theorem decimalDigit?_lt_ten {c : Char} {d : Nat} (h : decimalDigit? c = some d) : d < 10 := by
  unfold decimalDigit? at h
  split at h
  · split at h
    · next hd =>
      simp only [Char.isDigit, Bool.and_eq_true, decide_eq_true_eq, UInt32.le_iff_toNat_le] at hd
      have h9 : c.toNat ≤ 57 := hd.2
      have h0 : '0'.toNat = 48 := rfl
      cases h
      omega
    · cases h
  · obtain ⟨z, hz, rfl⟩ := Option.map_eq_some_iff.1 h
    have := List.find?_some hz
    simp only [Bool.and_eq_true, decide_eq_true_eq] at this
    omega

end ParamQuery.Text
