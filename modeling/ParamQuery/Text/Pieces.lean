/-!
# Pieces of a text between separators

`pieces sep cs` are the stretches of `cs` between the occurrences of `sep`, in order: one more than there are
occurrences, and `pieces sep [] = [[]]`.  Joined with `sep` they give `cs` back (`intercalate_pieces`).
-/

namespace ParamQuery.Text

def pieces (sep : Char) : List Char → List (List Char)
  | [] => [[]]
  | c :: cs =>
    if c = sep then [] :: pieces sep cs
    else
      match pieces sep cs with
      | [] => [[c]]
      | p :: ps => (c :: p) :: ps

/-- The texts between the commas of `s`. -/
def splitAtCommas (s : String) : List String :=
  (pieces ',' s.toList).map String.ofList

theorem pieces_ne_nil (sep : Char) (cs : List Char) : pieces sep cs ≠ [] := by
  cases cs with
  | nil => simp [pieces]
  | cons c cs =>
    unfold pieces
    split
    · simp
    · split <;> simp

theorem intercalate_pieces (sep : Char) (cs : List Char) : [sep].intercalate (pieces sep cs) = cs := by
  induction cs with
  | nil => rfl
  | cons c cs ih =>
    have hne := pieces_ne_nil sep cs
    unfold pieces
    cases hp : pieces sep cs with
    | nil => exact absurd hp hne
    | cons p ps =>
      rw [hp] at ih
      split
      · next h =>
        subst h
        simp only [List.intercalate_cons_cons, List.nil_append, List.cons_append]
        rw [ih]
      · cases ps with
        | nil => simpa using ih
        | cons q qs => simpa [List.intercalate_cons_cons] using ih

end ParamQuery.Text
