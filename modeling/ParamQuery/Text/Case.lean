import ParamQuery.Text.CaseTable

/-!
# Upper and lower case

The full case mappings, character by character: one character may become several, as `ß` becomes `SS`.  The
lower case of a character does not depend on its neighbours, so a capital sigma is `σ` also at the end of a word.
-/

namespace ParamQuery.Text

/-- Where the runs send the code point `n`, if one of them holds it. -/
def caseTarget? (runs : List CaseRun) (n : Nat) : Option Nat :=
  runs.findSome? fun r =>
    if r.first ≤ n ∧ n ≤ r.last ∧ (n - r.first) % r.step = 0 then some (r.target + (n - r.first)) else none

def mapCase (expansions : List (Nat × List Nat)) (runs : List CaseRun) (c : Char) : List Char :=
  match expansions.lookup c.toNat with
  | some codes => codes.map Char.ofNat
  | none => [((caseTarget? runs c.toNat).map Char.ofNat).getD c]

def upperChar (c : Char) : List Char :=
  if c.toNat < 128 then [c.toUpper] else mapCase upperExpansions upperRuns c

def lowerChar (c : Char) : List Char :=
  if c.toNat < 128 then [c.toLower] else mapCase lowerExpansions lowerRuns c

def upper (s : String) : String :=
  String.ofList (s.toList.flatMap upperChar)

def lower (s : String) : String :=
  String.ofList (s.toList.flatMap lowerChar)

@[simp] theorem toList_upper (s : String) : (upper s).toList = s.toList.flatMap upperChar := by
  simp [upper]

@[simp] theorem toList_lower (s : String) : (lower s).toList = s.toList.flatMap lowerChar := by
  simp [lower]

end ParamQuery.Text
