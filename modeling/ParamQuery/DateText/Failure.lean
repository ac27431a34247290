/-!
# Reading that may fail

A date text has no moment for one of two reasons (`DateText.Failure`): it makes no sense, or its numbers are too long
to be computed with.  A part of a text that is looked for and not there fails the text for the first reason
(`required`).
-/

namespace ParamQuery

@[simp]
theorem ok_bind {ε α β : Type} (a : α) (f : α → Except ε β) : (Except.ok a >>= f) = f a :=
  rfl

@[simp]
theorem error_bind {ε α β : Type} (e : ε) (f : α → Except ε β) : ((Except.error e : Except ε α) >>= f) = .error e :=
  rfl

@[simp]
theorem map_ok {ε α β : Type} (f : α → β) (a : α) : f <$> (Except.ok a : Except ε α) = .ok (f a) :=
  rfl

@[simp]
theorem map_error {ε α β : Type} (f : α → β) (e : ε) : f <$> (Except.error e : Except ε α) = .error e :=
  rfl

theorem bind_eq_ok_iff {ε α β : Type} {x : Except ε α} {f : α → Except ε β} {b : β} :
    (x >>= f) = .ok b ↔ ∃ a, x = .ok a ∧ f a = .ok b := by
  cases x <;> simp [bind, Except.bind]

theorem bind_eq_error_iff {ε α β : Type} {x : Except ε α} {f : α → Except ε β} {e : ε} :
    (x >>= f) = .error e ↔ x = .error e ∨ ∃ a, x = .ok a ∧ f a = .error e := by
  cases x <;> simp [bind, Except.bind]

theorem map_eq_error_iff {ε α β : Type} {x : Except ε α} {f : α → β} {e : ε} :
    x.map f = .error e ↔ x = .error e := by
  cases x <;> simp [Except.map]

namespace DateText

/-- Why a text is no moment. -/
inductive Failure where
  /-- The words of the text make no sense, or there is no such date or time. -/
  | noValue
  /-- A number of the text has too many digits to be computed with. -/
  | beyondPrecision
  deriving DecidableEq, Repr

/-- What the text has to give. -/
def required {α : Type} : Option α → Except Failure α
  | some a => .ok a
  | none => .error .noValue

section Required

variable {α : Type} {x : Option α}

@[simp]
theorem required_some (a : α) : required (some a) = .ok a :=
  rfl

@[simp]
theorem required_none : required (none : Option α) = .error .noValue :=
  rfl

@[simp]
theorem required_eq_ok_iff {a : α} : required x = .ok a ↔ x = some a := by
  cases x <;> simp

@[simp]
theorem required_eq_error_iff {failure : Failure} : required x = .error failure ↔ x = none ∧ failure = .noValue := by
  cases x <;> simp [eq_comm]

theorem toOption_required (x : Option α) : (required x).toOption = x := by
  cases x <;> rfl

end Required

end DateText

end ParamQuery
