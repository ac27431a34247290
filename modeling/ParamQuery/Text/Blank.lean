import ParamQuery.Text.Ranges

/-!
# White space around a text

* `isBlank`: the white space of the character database, without the zero-width characters;
* `trim` removes the longest blank runs at both ends.
-/

namespace ParamQuery.Text

def blankRanges : List (Nat × Nat) :=
  [(0x09, 0x0D), (0x1C, 0x20), (0x85, 0x85), (0xA0, 0xA0), (0x1680, 0x1680), (0x2000, 0x200A), (0x2028, 0x2029),
    (0x202F, 0x202F), (0x205F, 0x205F), (0x3000, 0x3000)]

def isBlank (c : Char) : Bool :=
  inRanges blankRanges c.toNat

def trimStart (cs : List Char) : List Char :=
  cs.dropWhile isBlank

def trimEnd (cs : List Char) : List Char :=
  (cs.reverse.dropWhile isBlank).reverse

def trim (s : String) : String :=
  String.ofList (trimEnd (trimStart s.toList))

@[simp] theorem toList_trim (s : String) : (trim s).toList = trimEnd (trimStart s.toList) := by
  simp [trim]

end ParamQuery.Text
