import ParamQuery.Text.Case
import ParamQuery.Text.Letter

/-!
# ASCII digits

What holds of the ten digits holds of every ASCII digit (`forall_asciiDigit`), so the character classes and the case
mappings are evaluated on them.
-/

namespace ParamQuery.Text

variable {c : Char}

/-- What holds of the ten digits holds of every digit. -/
theorem forall_asciiDigit {p : Char → Prop} (h : ∀ d < 10, p (Nat.digitChar d)) (hc : c.isDigit = true) : p c := by
  obtain ⟨hlow, hhigh⟩ := Char.isDigit_iff_toNat.1 hc
  have hzero : '0'.toNat = 48 := rfl
  have hnine : '9'.toNat = 57 := rfl
  have hdigit : c = Nat.digitChar (c.toNat - 48) := by
    rw [← Char.toNat_inj, Nat.toNat_digitChar_of_lt_ten (by omega)]
    omega
  rw [hdigit]
  exact h _ (by omega)

theorem isDigit_of_asciiDigit (h : c.isDigit = true) : isDigit c = true :=
  forall_asciiDigit (p := fun c => isDigit c = true) (by decide) h

theorem isLetter_of_asciiDigit (h : c.isDigit = true) : isLetter c = false :=
  forall_asciiDigit (p := fun c => isLetter c = false) (by decide) h

theorem lowerChar_of_asciiDigit (h : c.isDigit = true) : lowerChar c = [c] :=
  forall_asciiDigit (p := fun c => lowerChar c = [c]) (by decide) h

theorem decimalDigit?_digitChar : ∀ d < 10, decimalDigit? (Nat.digitChar d) = some d := by
  decide

end ParamQuery.Text
