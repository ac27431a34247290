import ParamQuery.Text.HiddenTable
import ParamQuery.Text.Ranges

/-!
# Quoted texts

`quoted` writes a text between quote marks, on one line of visible characters.  The mark is the single one,
unless the text has single marks and no double one.  The mark and the backslash get a backslash, line feed,
carriage return and tab are `\n`, `\r`, `\t`, and any other character without a visible form is its code point
in hexadecimal.
-/

namespace ParamQuery.Text

def isVisible (c : Char) : Bool :=
  if c.toNat < 128 then 32 ≤ c.toNat && c.toNat < 127 else !inRanges hiddenRanges c.toNat

/-- The hexadecimal digits of `n`, at least `width` of them. -/
def hexDigits (width n : Nat) : List Char :=
  let digits := Nat.toDigits 16 n
  List.replicate (width - digits.length) '0' ++ digits

def singleMark : Char := '\x27'

def doubleMark : Char := '\x22'

def quoteMark (cs : List Char) : Char :=
  if singleMark ∈ cs ∧ doubleMark ∉ cs then doubleMark else singleMark

def escape (mark c : Char) : List Char :=
  if c = mark ∨ c = '\\' then ['\\', c]
  else if c = '\n' then ['\\', 'n']
  else if c = '\r' then ['\\', 'r']
  else if c = '\t' then ['\\', 't']
  else if isVisible c then [c]
  else if c.toNat < 0x100 then '\\' :: 'x' :: hexDigits 2 c.toNat
  else if c.toNat < 0x10000 then '\\' :: 'u' :: hexDigits 4 c.toNat
  else '\\' :: 'U' :: hexDigits 8 c.toNat

def quoted (s : String) : String :=
  let mark := quoteMark s.toList
  String.ofList (mark :: s.toList.flatMap (escape mark) ++ [mark])

end ParamQuery.Text
