import ParamQuery.Number.Leading

/-!
# Signs and digits at the front of a text

A run of digits ends where no digit follows (`NoDigit`), and the digits taken from the front of a text are the longest
run there (`prefix_takeWhile`).  A sign is taken off if there is one (`takeSign_append`).
-/

namespace ParamQuery.Number

variable {cs ds fs : List Char}

/-- Digits only. -/
def Digits (ds : List Char) : Prop :=
  ∀ d ∈ ds, d.isDigit = true

theorem digits_takeWhile (cs : List Char) : Digits (cs.takeWhile Char.isDigit) :=
  List.all_eq_true.1 List.all_takeWhile

/-- The text does not go on with a digit. -/
def NoDigit (cs : List Char) : Prop :=
  ∀ c ∈ cs.head?, c.isDigit = false

theorem noDigit_dropWhile (cs : List Char) : NoDigit (cs.dropWhile Char.isDigit) := by
  intro c hc
  have hnot := List.head?_dropWhile_not Char.isDigit cs
  rw [Option.mem_def.1 hc] at hnot
  simpa using hnot

theorem takeWhile_eq_nil_of_noDigit (h : NoDigit cs) : cs.takeWhile Char.isDigit = [] := by
  cases cs with
  | nil => rfl
  | cons c cs => exact List.takeWhile_cons_of_neg (by simp [h c rfl])

theorem dropWhile_eq_self_of_noDigit (h : NoDigit cs) : cs.dropWhile Char.isDigit = cs := by
  cases cs with
  | nil => rfl
  | cons c cs => exact List.dropWhile_cons_of_neg (by simp [h c rfl])

theorem takeWhile_digits_append (hds : Digits ds) (hcs : NoDigit cs) :
    (ds ++ cs).takeWhile Char.isDigit = ds := by
  rw [List.takeWhile_append_of_pos hds, takeWhile_eq_nil_of_noDigit hcs, List.append_nil]

theorem dropWhile_digits_append (hds : Digits ds) (hcs : NoDigit cs) :
    (ds ++ cs).dropWhile Char.isDigit = cs := by
  rw [List.dropWhile_append_of_pos hds, dropWhile_eq_self_of_noDigit hcs]

/-- The digits at the front are the longest run there. -/
theorem prefix_takeWhile (hds : Digits ds) (h : ds <+: cs) : ds <+: cs.takeWhile Char.isDigit := by
  obtain ⟨rest, rfl⟩ := h
  rw [List.takeWhile_append_of_pos hds]
  exact List.prefix_append _ _

theorem digits_front (hds : Digits ds) (hcs : NoDigit cs) (hfs : Digits fs) (h : fs <+: ds ++ cs) : fs <+: ds := by
  have hfront := prefix_takeWhile hfs h
  rwa [takeWhile_digits_append hds hcs] at hfront

/-- What is at the front is all of it, or shorter. -/
theorem eq_or_length_lt (h : fs <+: ds) : fs = ds ∨ fs.length < ds.length := by
  rcases Nat.lt_or_eq_of_le h.length_le with hlt | heq
  · exact .inr hlt
  · exact .inl (h.eq_of_length heq)

theorem exists_digits_append (cs : List Char) : ∃ ds rest, cs = ds ++ rest ∧ Digits ds ∧ NoDigit rest :=
  ⟨_, _, List.takeWhile_append_dropWhile.symm, digits_takeWhile cs, noDigit_dropWhile cs⟩

theorem digits_append (hds : Digits ds) (hfs : Digits fs) : Digits (ds ++ fs) :=
  fun d hd => (List.mem_append.1 hd).elim (hds d) (hfs d)

inductive IsSign : List Char → Bool → Prop
  | none : IsSign [] false
  | plus : IsSign ['+'] false
  | minus : IsSign ['-'] true

def NoSign (cs : List Char) : Prop :=
  ∀ c ∈ cs.head?, c ≠ '+' ∧ c ≠ '-'

theorem exists_sign (cs : List Char) : ∃ sign, IsSign sign (takeSign cs).1 ∧ cs = sign ++ (takeSign cs).2 := by
  unfold takeSign
  split
  · exact ⟨_, .minus, rfl⟩
  · exact ⟨_, .plus, rfl⟩
  · exact ⟨_, .none, rfl⟩

theorem takeSign_append {sign : List Char} {negative : Bool} (hsign : IsSign sign negative) (hcs : NoSign cs) :
    takeSign (sign ++ cs) = (negative, cs) := by
  cases hsign with
  | plus => rfl
  | minus => rfl
  | none =>
    rw [List.nil_append]
    unfold takeSign
    split
    · exact absurd rfl (hcs _ rfl).2
    · exact absurd rfl (hcs _ rfl).1
    · rfl

theorem noSign_of_digits (hds : Digits ds) (hne : ds ≠ []) (cs : List Char) : NoSign (ds ++ cs) := by
  obtain ⟨d, ds, rfl⟩ := List.exists_cons_of_ne_nil hne
  intro c hc
  cases hc
  constructor <;> (rintro rfl; exact absurd (hds _ List.mem_cons_self) (by decide))

/-- A text has one reading as a sign before something else. -/
theorem sign_unique {sign sign' body : List Char} {negative' : Bool} (hcs : cs = sign ++ (takeSign cs).2)
    (hsign : IsSign sign' negative') (hbody : NoSign body) (h : sign' ++ body = cs) :
    sign' = sign ∧ negative' = (takeSign cs).1 ∧ body = (takeSign cs).2 := by
  have htake : takeSign cs = (negative', body) := by rw [← h, takeSign_append hsign hbody]
  rw [htake] at hcs ⊢
  exact ⟨List.append_cancel_right (h.trans hcs), rfl, rfl⟩

end ParamQuery.Number
