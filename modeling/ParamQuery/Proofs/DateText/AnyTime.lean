import ParamQuery.Conversion

/-!
# What is read at any time

Without a clock a text is read as at any time.  Reading looks at the clock where it completes a date, and there it
gives up without one.  So what is read without a clock is read at every time (`Agrees`), step by step: by a word
(`readWord_agrees`), by the words one after another (`readWords_agrees`), and in the end (`moment?_of_none`).

A value that a request is compiled with is therefore the value of its text whenever it is converted
(`convertNoting_of_convert`).
-/

namespace ParamQuery

namespace DateText

open Calendar

variable {α β : Type} (clock? : Option Clock)

/-- The second outcome is the first one, unless the first one is that there is no value. -/
def Agrees (x y : Except Failure α) : Prop :=
  x ≠ .error .noValue → y = x

namespace Agrees

variable {x y : Except Failure α} {f g : α → Except Failure β}

theorem refl (x : Except Failure α) : Agrees x x :=
  fun _ => rfl

theorem bind (hx : Agrees x y) (hf : ∀ a, x = .ok a → Agrees (f a) (g a)) : Agrees (x >>= f) (y >>= g) := by
  intro hne
  cases x with
  | ok a =>
    rw [hx nofun]
    exact hf a rfl hne
  | error failure =>
    rw [hx fun h => hne (by rw [h]; rfl)]
    rfl

theorem map {f : α → β} (h : Agrees x y) : Agrees (x.map f) (y.map f) := by
  intro hne
  rw [h fun hx => hne (by rw [hx]; rfl)]

theorem required {x y : Option α} (h : ∀ a, x = some a → y = some a) :
    Agrees (DateText.required x) (DateText.required y) := by
  intro hne
  cases x with
  | none => exact absurd rfl hne
  | some a => rw [h a rfl]

end Agrees

theorem fullYear?_of_none {year full : Nat} (h : fullYear? none year = some full) :
    fullYear? clock? year = some full := by
  unfold fullYear? at h ⊢
  split at h
  · cases h
  · next hyear => rw [if_neg hyear, h]

theorem stated?_of_none {p : Parts} {stated : StatedDate} (h : p.stated? none = some stated) :
    p.stated? clock? = some stated := by
  obtain ⟨stated', hresolve, h⟩ := Option.bind_eq_some_iff.1 h
  obtain ⟨year?, hyear, h⟩ := Option.bind_eq_some_iff.1 h
  have hyear' : stated'.year.mapM (if p.century then some else fullYear? clock?) = some year? := by
    cases hcentury : p.century with
    | true => simpa [hcentury] using hyear
    | false =>
      cases hstated : stated'.year with
      | none => simpa [hstated] using hyear
      | some year =>
        simp only [hcentury, hstated, Option.mapM_some] at hyear ⊢
        obtain ⟨full, hfull, rfl⟩ := Option.map_eq_some_iff.1 hyear
        simp [fullYear?_of_none clock? hfull]
  simpa [Parts.stated?, hresolve, hyear'] using h

theorem meant?_of_none {stated : StatedDate} {meant : Nat × Nat × Nat} (h : stated.meant? none = some meant) :
    stated.meant? clock? = some meant := by
  unfold StatedDate.meant? at h ⊢
  split at h
  · exact h
  · cases h

theorem date?_of_none {p : Parts} {weekday : Option Nat} {date : Date} (h : p.date? none weekday = some date) :
    p.date? clock? weekday = some date := by
  obtain ⟨stated, hstated, h⟩ := Option.bind_eq_some_iff.1 h
  obtain ⟨meant, hmeant, h⟩ := Option.bind_eq_some_iff.1 h
  rw [Parts.date?, stated?_of_none clock? hstated]
  simp only [Option.bind_eq_bind, Option.bind_some]
  rw [meant?_of_none clock? hmeant]
  exact h

theorem moment?_of_none {r : Reading} {m : Moment} (h : r.moment? none = some m) : r.moment? clock? = some m := by
  unfold Reading.moment? at h ⊢
  split at h
  · cases h
  · next hsaid =>
    obtain ⟨date, hdate, h⟩ := Option.bind_eq_some_iff.1 h
    rw [if_neg hsaid, date?_of_none clock? hdate]
    exact h

/-- Of the rules for words, the one for months completes a year that follows the name. -/
theorem readMonth_agrees (r : Reading) (month : Nat) (rest : List Word) :
    Agrees (readMonth none r month rest) (readMonth clock? r month rest) := by
  unfold readMonth
  refine Agrees.bind (Agrees.refl _) fun parts _ => ?_
  split
  · split
    · exact Agrees.refl _
    · split
      · split
        · exact Agrees.refl _
        · split
          · refine Agrees.bind (Agrees.required fun full hfull => ?_) fun _ _ => Agrees.refl _
            obtain ⟨year, hyear, hfull⟩ := Option.bind_eq_some_iff.1 hfull
            rw [hyear, Option.bind_some]
            exact fullYear?_of_none clock? hfull
          · exact Agrees.refl _
      · exact Agrees.refl _
  · exact Agrees.refl _

theorem readWord_agrees (r : Reading) (w : Word) (before rest : List Word) :
    Agrees (readWord none r w before rest) (readWord clock? r w before rest) := by
  unfold readWord
  split
  · exact Agrees.refl _
  split
  · exact Agrees.refl _
  split
  · exact Agrees.refl _
  · exact readMonth_agrees clock? r _ rest
  · exact Agrees.refl _
  · exact Agrees.refl _

theorem readWords_agrees (r : Reading) (before rest : List Word) (skip : Nat) :
    Agrees (readWords none r before skip rest) (readWords clock? r before skip rest) := by
  induction rest generalizing r before skip with
  | nil => exact Agrees.refl _
  | cons w rest ih =>
    cases skip with
    | succ skip => exact ih r (w :: before) skip
    | zero =>
      have hword := readWord_agrees clock? r w before rest
      intro hne
      rw [readWords] at hne ⊢
      cases hnone : readWord none r w before rest with
      | error failure =>
        rw [hnone] at hword hne
        rw [readWords, hnone, hword fun h => hne (by cases h; rfl)]
      | ok outcome =>
        rw [hnone] at hword hne
        rw [readWords, hnone, hword nofun]
        exact ih outcome.1 (w :: before) outcome.2 hne

theorem read_agrees (s : String) : Agrees (read none s) (read clock? s) :=
  (readWords_agrees clock? .empty [] (words s) 0).bind fun _ _ => Agrees.required fun _ => moment?_of_none clock?

end DateText

open DateText

theorem DataType.read_agrees (clock? : Option Clock) (type : DataType) (s : String) :
    Agrees (type.read none s) (type.read clock? s) := by
  cases type with
  | datetime =>
    refine Agrees.map ?_
    unfold readMoment
    split
    · exact DateText.read_agrees clock? s
    · exact Agrees.refl _
  | integer => exact Agrees.refl _
  | number => exact Agrees.refl _
  | string => exact Agrees.refl _
  | boolean => exact Agrees.refl _

/-- The value with which a comparison is bound is the one that its text has at every time. -/
theorem DataType.convertNoting_of_convert {type : DataType} {field s : String} {value : BoundValue}
    (h : type.convert field s = (some value, [])) (clock? : Option Clock) (noted : List Problem) :
    type.convertNoting clock? field s noted = (noted, .ok (some value)) := by
  unfold DataType.convert DataType.convert? at h
  cases hread : type.read none s with
  | error failure =>
    rw [hread] at h
    cases h
  | ok value' =>
    rw [hread] at h
    cases h
    have hagrees := type.read_agrees clock? s
    rw [hread] at hagrees
    exact convertNoting_of_ok (hagrees (by simp)) field noted

end ParamQuery
