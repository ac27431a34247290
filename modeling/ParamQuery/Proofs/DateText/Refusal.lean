import ParamQuery.Proofs.DateText.WordFailures

/-!
# Why a date text has no moment

The words of a text are read one after another, where a word may take some of the next ones along.  `Reaches` is what
has been read on the way, and the words behind and ahead.  Reading goes on until no word is left, unless it fails at a
word (`Reaches.exists_last`), and there is one way to read (`Reaches.readWords_eq`).

So reading a text fails at one of its words, or because of what its words say together: nothing at all, or a date or a
time that does not exist, or a clock too far from universal time (`read_eq_error_iff`).
-/

namespace ParamQuery.DateText

open ParamQuery.Calendar

variable {clock? : Option Clock} {ws before rest : List Word} {r r' : Reading}

/-- Of the words `ws`, those in `before` have been read, the nearest first, and say `r`; those in `rest` are ahead. -/
inductive Reaches (clock? : Option Clock) (ws : List Word) : Reading → List Word → List Word → Prop
  | start : Reaches clock? ws .empty [] ws
  | step {r r' : Reading} {w : Word} {before rest : List Word} {used : Nat}
      (h : Reaches clock? ws r before (w :: rest)) (hword : readWord clock? r w before rest = .ok (r', used)) :
      Reaches clock? ws r' ((rest.take used).reverse ++ w :: before) (rest.drop used)

/-- The words that were used up are passed over, as far as there are any. -/
theorem readWords_drop (clock? : Option Clock) (r : Reading) (before rest : List Word) (skip : Nat) :
    readWords clock? r before skip rest =
      readWords clock? r ((rest.take skip).reverse ++ before) 0 (rest.drop skip) := by
  induction rest generalizing before skip with
  | nil => cases skip <;> simp [readWords]
  | cons w rest ih =>
    cases skip with
    | zero => rfl
    | succ skip =>
      rw [readWords, ih, List.take_succ_cons, List.reverse_cons, List.append_assoc]
      rfl

theorem readWords_step {w : Word} {used : Nat} (hword : readWord clock? r w before rest = .ok (r', used)) :
    readWords clock? r before 0 (w :: rest) =
      readWords clock? r' ((rest.take used).reverse ++ w :: before) 0 (rest.drop used) := by
  rw [readWords, hword]
  exact readWords_drop clock? r' (w :: before) rest used

/-- On the way, the rest decides what the whole comes to. -/
theorem Reaches.readWords_eq (h : Reaches clock? ws r before rest) :
    readWords clock? .empty [] 0 ws = readWords clock? r before 0 rest := by
  induction h with
  | start => rfl
  | step _ hword ih => rw [ih, readWords_step hword]

/-- No word is lost on the way. -/
theorem Reaches.reverse_append (h : Reaches clock? ws r before rest) : before.reverse ++ rest = ws := by
  induction h with
  | start => rfl
  | step _ _ ih => rw [← ih, List.reverse_append]; simp

/-- From anywhere on the way, reading comes to the end or to a word where it fails. -/
theorem Reaches.exists_last (h : Reaches clock? ws r before rest) :
    (∃ r' before', Reaches clock? ws r' before' []) ∨
      ∃ r' w before' rest' failure,
        Reaches clock? ws r' before' (w :: rest') ∧ readWord clock? r' w before' rest' = .error failure := by
  -- A word may take others along, so the induction is on the number of words ahead.
  generalize hn : rest.length = n
  induction n using Nat.strongRecOn generalizing r before rest with
  | ind n ih =>
    cases rest with
    | nil => exact .inl ⟨r, before, h⟩
    | cons w rest =>
      cases hword : readWord clock? r w before rest with
      | error failure => exact .inr ⟨r, w, before, rest, failure, h, hword⟩
      | ok outcome =>
        refine ih (rest.drop outcome.2).length ?_ (h.step hword) rfl
        rw [List.length_drop, ← hn, List.length_cons]
        omega

/-- Why parts do not state a date: there are too many of them, there is no clock to complete them, or there is no such
day. -/
inductive Parts.Undated (clock? : Option Clock) (p : Parts) (weekday : Option Nat) : Prop
  | tooMany (h : 3 < p.entries.length)
  | noCentury {stated : StatedDate} {year : Nat} (hclock : clock? = none) (hstated : p.resolve = some stated)
      (hcentury : p.century = false) (hyear : stated.year = some year) (h : year < 100)
  | incomplete {stated : StatedDate} (hclock : clock? = none) (hstated : p.stated? clock? = some stated)
      (h : stated.year = none ∨ stated.month = none ∨ stated.day = none)
  | noDate {stated : StatedDate} {year month day : Nat} (hstated : p.stated? clock? = some stated)
      (hmeant : stated.meant? clock? = some (year, month, day)) (h : ¬ IsDate year month day)
  | afterCalendar {stated : StatedDate} {date : Date} {day : Nat} (hstated : p.stated? clock? = some stated)
      (hmeant : stated.meant? clock? = some (date.year, date.month, date.day)) (hday : stated.day = none)
      (hweekday : weekday = some day) (h : date.onOrAfter? day = none)

section Dates

variable {p : Parts} {weekday : Option Nat}

theorem resolve_eq_none_iff : p.resolve = none ↔ 3 < p.entries.length := by
  rcases hentries : p.entries with _ | ⟨a, _ | ⟨b, _ | ⟨c, _ | ⟨d, rest⟩⟩⟩⟩ <;> simp [Parts.resolve, hentries]

theorem stated?_eq_none_iff :
    p.stated? clock? = none ↔ 3 < p.entries.length ∨ ∃ stated year, clock? = none ∧ p.resolve = some stated ∧
      p.century = false ∧ stated.year = some year ∧ year < 100 := by
  rw [← resolve_eq_none_iff]
  unfold Parts.stated?
  cases hresolve : p.resolve with
  | none => simp
  | some stated =>
    cases hyear : stated.year with
    | none => simp [hyear]
    | some year =>
      cases hcentury : p.century with
      | true => simp [hyear]
      | false =>
        have hfull : fullYear? clock? year = none ↔ year < 100 ∧ clock? = none := fullYear?_eq_none_iff
        cases hvalue : fullYear? clock? year with
        | none => simpa [hyear, hvalue, and_comm] using hfull
        | some full => simpa [hyear, hvalue, and_comm] using hfull

theorem meant?_eq_none_iff {stated : StatedDate} :
    stated.meant? clock? = none ↔
      clock? = none ∧ (stated.year = none ∨ stated.month = none ∨ stated.day = none) := by
  obtain ⟨year?, month?, day?⟩ := stated
  cases year? <;> cases month? <;> cases day? <;> simp [StatedDate.meant?]

/-- A date that is meant is the one that the parts state, unless it is moved forward to a day of the week. -/
theorem Parts.date?_of_meant {stated : StatedDate} {date : Date} (hstated : p.stated? clock? = some stated)
    (hmeant : stated.meant? clock? = some (date.year, date.month, date.day)) :
    p.date? clock? weekday =
      match stated.day, weekday with
      | none, some weekday => date.onOrAfter? weekday
      | _, _ => some date := by
  rw [date?, hstated, Option.bind_eq_bind, Option.bind_some, hmeant, Option.bind_eq_bind, Option.bind_some]
  dsimp only
  rw [date.of?_self]
  rfl

theorem Parts.date?_eq_none_iff : p.date? clock? weekday = none ↔ p.Undated clock? weekday := by
  constructor
  · intro h
    cases hstated : p.stated? clock? with
    | none =>
      rcases stated?_eq_none_iff.1 hstated with htoo | ⟨stated, year, hclock, hresolve, hcentury, hyear, hshort⟩
      · exact .tooMany htoo
      · exact .noCentury hclock hresolve hcentury hyear hshort
    | some stated =>
      cases hmeant : stated.meant? clock? with
      | none =>
        obtain ⟨hclock, hmissing⟩ := meant?_eq_none_iff.1 hmeant
        exact .incomplete hclock hstated hmissing
      | some meant =>
        obtain ⟨year, month, day⟩ := meant
        by_cases hvalid : IsDate year month day
        · obtain ⟨date, rfl, rfl, rfl⟩ : ∃ date : Date, date.year = year ∧ date.month = month ∧ date.day = day :=
            ⟨⟨year, month, day, hvalid⟩, rfl, rfl, rfl⟩
          rw [date?_of_meant hstated hmeant] at h
          split at h
          · next hday => exact .afterCalendar hstated hmeant hday rfl h
          · cases h
        · exact .noDate hstated hmeant hvalid
  · intro h
    cases h with
    | tooMany h => simp [date?, stated?_eq_none_iff.2 (.inl h)]
    | noCentury hclock hresolve hcentury hyear h =>
      simp [date?, stated?_eq_none_iff.2 (.inr ⟨_, _, hclock, hresolve, hcentury, hyear, h⟩)]
    | incomplete hclock hstated h => simp [date?, hstated, meant?_eq_none_iff.2 ⟨hclock, h⟩]
    | noDate hstated hmeant h => simp [date?, hstated, hmeant, Date.of?, h]
    | afterCalendar hstated hmeant hday hweekday h =>
      rw [date?_of_meant hstated hmeant, hday, hweekday]
      exact h

end Dates

/-- What the words of a whole text say is no moment. -/
inductive Reading.Impossible (clock? : Option Clock) (r : Reading) : Prop
  | nothing (h : r = .empty)
  | date (h : r.parts.Undated clock? r.weekday)
  | time (h : ¬ IsTime (r.hour.getD 0) (r.minute.getD 0) (r.second.getD 0) (r.microsecond.getD 0))
  | offset (h : r.offset? = none)

theorem Reading.moment?_eq_none_iff : r.moment? clock? = none ↔ r.Impossible clock? := by
  unfold Reading.moment?
  constructor
  · intro hnone
    by_cases hempty : r = .empty
    · exact .nothing hempty
    rw [if_neg hempty] at hnone
    cases hdate : r.parts.date? clock? r.weekday with
    | none => exact .date (Parts.date?_eq_none_iff.1 hdate)
    | some date =>
      by_cases htime : IsTime (r.hour.getD 0) (r.minute.getD 0) (r.second.getD 0) (r.microsecond.getD 0)
      · cases hoffset : r.offset? with
        | none => exact .offset hoffset
        | some offset => simp [hdate, Time.of?, htime, hoffset] at hnone
      · exact .time htime
  · intro himpossible
    cases himpossible with
    | nothing h => simp [h]
    | date h => simp [Parts.date?_eq_none_iff.2 h]
    | time h => simp [Time.of?, h]
    | offset h => simp [h]

/-- Reading fails at a word of the text, or what its words say together is no moment. -/
inductive Fails (clock? : Option Clock) (s : String) : Failure → Prop
  | word {r : Reading} {w : Word} {before rest : List Word} {failure : Failure}
      (h : Reaches clock? (words s) r before (w :: rest))
      (hword : WordFails clock? r w before rest failure) : Fails clock? s failure
  | reading {r : Reading} {before : List Word} (h : Reaches clock? (words s) r before [])
      (himpossible : r.Impossible clock?) : Fails clock? s .noValue

theorem read_of_reaches {s : String} (h : Reaches clock? (words s) r before []) :
    read clock? s = required (r.moment? clock?) := by
  rw [read, h.readWords_eq]
  rfl

theorem read_of_reaches_word {s : String} {w : Word} {failure : Failure}
    (h : Reaches clock? (words s) r before (w :: rest)) (hword : readWord clock? r w before rest = .error failure) :
    read clock? s = .error failure := by
  rw [read, h.readWords_eq, readWords, hword]
  rfl

theorem read_eq_ok_iff {s : String} {m : Moment} :
    read clock? s = .ok m ↔
      ∃ r before, Reaches clock? (words s) r before [] ∧ r.moment? clock? = some m := by
  constructor
  · intro hread
    have hstart : Reaches clock? (words s) .empty [] (words s) := .start
    rcases hstart.exists_last with ⟨r, before, hlast⟩ | ⟨r, w, before, rest, failure, hlast, hword⟩
    · rw [read_of_reaches hlast, required_eq_ok_iff] at hread
      exact ⟨r, before, hlast, hread⟩
    · rw [read_of_reaches_word hlast hword] at hread
      cases hread
  · rintro ⟨r, before, hlast, hmoment⟩
    rw [read_of_reaches hlast, hmoment, required_some]

theorem read_eq_error_iff {s : String} {failure : Failure} :
    read clock? s = .error failure ↔ Fails clock? s failure := by
  constructor
  · intro herror
    have hstart : Reaches clock? (words s) .empty [] (words s) := .start
    rcases hstart.exists_last with ⟨r, before, hlast⟩ | ⟨r, w, before, rest, failure', hlast, hword⟩
    · rw [read_of_reaches hlast, required_eq_error_iff] at herror
      obtain ⟨hmoment, rfl⟩ := herror
      exact .reading hlast (Reading.moment?_eq_none_iff.1 hmoment)
    · rw [read_of_reaches_word hlast hword] at herror
      cases herror
      exact .word hlast (readWord_eq_error_iff.1 hword)
  · intro hfails
    cases hfails with
    | word h hword => exact read_of_reaches_word h (readWord_eq_error_iff.2 hword)
    | reading h himpossible => rw [read_of_reaches h, Reading.moment?_eq_none_iff.2 himpossible, required]

/-- A text that is too long to be computed with has a numeral with too many digits. -/
theorem Fails.exists_overlong {s : String} (h : Fails clock? s .beyondPrecision) :
    ∃ w ∈ words s, NumeralWord w ∧ Numeral.precision < w.length := by
  cases h with
  | word h hword =>
    obtain ⟨w, hw, hnumeral, hlong⟩ := hword.exists_overlong
    exact ⟨w, h.reverse_append ▸ List.mem_append_right _ hw, hnumeral, hlong⟩

end ParamQuery.DateText
