import Mathlib.Data.List.Basic
import ParamQuery.Proofs.DateText.NumeralWords

/-!
# Numerals of a fixed width

Some numerals are cut into stretches of two or four characters, which are the parts of a date or a time.  Such a numeral
makes sense unless it has a point in it, or names a second year: after a date (`readable_readClock_iff`), in six digits,
which may have a fraction behind them (`readable_readSix_iff`), and in eight, twelve or fourteen digits
(`readable_readEight_iff`).
-/

namespace ParamQuery.DateText

open Number (maxDigits)

/-! ### Outcomes -/

section Outcomes

variable {α β : Type}

/-- Nothing is computed that could be too long. -/
def Precise (x : Except Failure α) : Prop :=
  x ≠ .error .beyondPrecision

theorem precise_ok (a : α) : Precise (.ok a) :=
  nofun

theorem precise_required (x : Option α) : Precise (required x) := by
  cases x <;> simp [Precise]

theorem Precise.bind {x : Except Failure α} {f : α → Except Failure β} (hx : Precise x) (hf : ∀ a, Precise (f a)) :
    Precise (x >>= f) := by
  intro h
  rcases bind_eq_error_iff.1 h with h | ⟨a, -, h⟩
  · exact hx h
  · exact hf a h

/-- There is an outcome. -/
def Readable (x : Except Failure α) : Prop :=
  ∃ a, x = .ok a

theorem readable_ok (a : α) : Readable (.ok a) :=
  ⟨a, rfl⟩

theorem readable_pure (a : α) : Readable (pure a) :=
  ⟨a, rfl⟩

theorem readable_required_iff {x : Option α} : Readable (required x) ↔ x ≠ none := by
  cases x <;> simp [Readable]

theorem Readable.bind {x : Except Failure α} {f : α → Except Failure β} (hx : Readable x) (hf : ∀ a, Readable (f a)) :
    Readable (x >>= f) := by
  obtain ⟨a, rfl⟩ := hx
  exact hf a

/-- What comes next may depend on what has been read, but not whether there is an outcome. -/
theorem readable_bind_iff {x : Except Failure α} {f : α → Except Failure β} {Q : Prop}
    (h : ∀ a, Readable (f a) ↔ Q) : Readable (x >>= f) ↔ Readable x ∧ Q := by
  cases x with
  | error failure => exact iff_of_false (fun ⟨_, h⟩ => nomatch h) (fun ⟨⟨_, h⟩, _⟩ => nomatch h)
  | ok a => exact (h a).trans (and_iff_right (readable_ok a)).symm

theorem Precise.eq_error_iff {x : Except Failure α} (h : Precise x) {failure : Failure} :
    x = .error failure ↔ ¬ Readable x ∧ failure = .noValue := by
  cases x with
  | ok a => simp [Readable]
  | error failure' =>
    cases failure' with
    | noValue => simp [Readable, eq_comm]
    | beyondPrecision => exact absurd rfl h

end Outcomes

/-! ### Parts of a date -/

/-- A part of the date is known to be the year, or the month. -/
def Parts.Has (p : Parts) (role : Role) : Prop :=
  ∃ part ∈ p.entries, part.role = some role

namespace Parts

variable {p : Parts} {w : Word}

theorem isSome_find?_iff {role : Role} : (p.find? (some role)).isSome = true ↔ p.Has role := by
  simp [find?, Has]

theorem add_none_ne_none (value : Nat) : p.add value none ≠ none := by
  simp [add]

theorem add_eq_none_iff {value : Nat} {role : Role} : p.add value (some role) = none ↔ p.Has role := by
  rw [← isSome_find?_iff, add]
  split
  · next h => exact iff_of_true rfl h.2
  · next h => exact iff_of_false nofun fun hknown => h ⟨rfl, hknown⟩

theorem addYear_eq_none_iff {value : Nat} : p.addYear value = none ↔ p.Has .year :=
  add_eq_none_iff

theorem addMonth_eq_none_iff {month : Nat} : p.addMonth month = none ↔ p.Has .month :=
  add_eq_none_iff

theorem addNumeral_eq_none_iff {n : Numeral} : p.addNumeral n = none ↔ n.exceeds 100 = true ∧ p.Has .year := by
  unfold addNumeral
  split
  · next hexceeds => simp [addYear_eq_none_iff, hexceeds]
  · next hexceeds => simp [add_none_ne_none, hexceeds]

/-- The word is no part of the date: it is no natural number, or it is a second year. -/
inductive Refuses (p : Parts) (w : Word) : Prop
  | notNatural (h : natural? w = none)
  | secondYear (hlength : 2 < w.length) (h : p.Has .year)

theorem addWord_eq_none_iff : p.addWord w = none ↔ p.Refuses w := by
  unfold addWord
  cases hvalue : natural? w with
  | none => exact iff_of_true rfl (.notNatural hvalue)
  | some value =>
    simp only [Option.bind_eq_bind, Option.bind_some]
    split
    · next hlength =>
      rw [addYear_eq_none_iff]
      constructor
      · exact .secondYear hlength
      · intro h
        cases h with
        | notNatural h => rw [hvalue] at h; cases h
        | secondYear _ h => exact h
    · next hlength =>
      refine iff_of_false (add_none_ne_none value) ?_
      intro h
      cases h with
      | notNatural h => rw [hvalue] at h; cases h
      | secondYear h _ => exact hlength h

/-- Two digits are a part of every date. -/
theorem refuses_iff_of_short (h : w.length ≤ 2) : p.Refuses w ↔ natural? w = none := by
  constructor
  · intro hrefuses
    cases hrefuses with
    | notNatural h => exact h
    | secondYear hlength _ => omega
  · exact .notNatural

theorem refuses_iff_of_long (h : 2 < w.length) : p.Refuses w ↔ natural? w = none ∨ p.Has .year := by
  constructor
  · intro hrefuses
    cases hrefuses with
    | notNatural h => exact .inl h
    | secondYear _ h => exact .inr h
  · rintro (hnatural | hyear)
    · exact .notNatural hnatural
    · exact .secondYear h hyear

end Parts

/-! ### Stretches -/

variable {r : Reading} {w : Word}

theorem not_mem_take_drop {c : Char} (k : Nat) : c ∉ w ↔ c ∉ w.take k ∧ c ∉ w.drop k := by
  rw [← not_or, ← List.mem_append, List.take_append_drop]

theorem readClock_precise : Precise (readClock r w) := by
  unfold readClock
  refine (precise_required _).bind fun hour => ?_
  split
  · exact (precise_required _).bind fun minute => precise_ok _
  · exact precise_ok _

theorem NumeralWord.natural?_take_iff (hw : NumeralWord w) {k j : Nat} (hk : k < w.length) (hj : 0 < j)
    (hmax : j ≤ maxDigits) : natural? ((w.drop k).take j) ≠ none ↔ '.' ∉ (w.drop k).take j := by
  have hlength : ((w.drop k).take j).length = min j (w.length - k) := by rw [List.length_take, List.length_drop]
  exact hw.natural?_ne_none_iff (fun c hc => List.mem_of_mem_drop (List.mem_of_mem_take hc))
    (List.ne_nil_of_length_pos (by omega)) (by omega)

theorem NumeralWord.natural?_drop_iff (hw : NumeralWord w) {k : Nat} (hk : k < w.length)
    (hmax : w.length ≤ k + maxDigits) : natural? (w.drop k) ≠ none ↔ '.' ∉ w.drop k := by
  have hlength : (w.drop k).length = w.length - k := List.length_drop
  exact hw.natural?_ne_none_iff (List.drop_subset k w) (List.ne_nil_of_length_pos (by omega)) (by omega)

/-- The hour, or hour and minute, after a date has no point in it. -/
theorem readable_readClock_iff (hw : NumeralWord w) (hlength : w.length = 2 ∨ w.length = 4) :
    Readable (readClock r w) ↔ '.' ∉ w := by
  have hmax : maxDigits = 4300 := rfl
  have hhour : natural? (w.take 2) ≠ none ↔ '.' ∉ w.take 2 :=
    hw.natural?_take_iff (k := 0) (by omega) (by decide) (by omega)
  rw [not_mem_take_drop 2, ← hhour, ← readable_required_iff]
  refine readable_bind_iff fun hour => ?_
  rcases hlength with hlength | hlength
  · rw [if_neg (by omega), List.drop_of_length_le (by omega)]
    exact iff_of_true (readable_pure _) List.not_mem_nil
  · rw [if_pos hlength, ← hw.natural?_drop_iff (by omega) (by omega), ← readable_required_iff,
      ← and_true (Readable (required (natural? (w.drop 2))))]
    exact readable_bind_iff fun minute => iff_true_intro (readable_pure _)

theorem readEight_precise : Precise (readEight r w) := by
  unfold readEight
  refine (precise_required _).bind fun parts => (precise_required _).bind fun parts =>
    (precise_required _).bind fun parts => ?_
  split
  · exact precise_ok _
  · refine (precise_required _).bind fun hour => (precise_required _).bind fun minute => ?_
    split
    · exact precise_ok _
    · exact (precise_required _).bind fun second => precise_ok _

theorem readable_addWord_iff {p : Parts} (h : w.length ≤ 2) :
    Readable (required (p.addWord w)) ↔ natural? w ≠ none := by
  rw [readable_required_iff, Ne, Parts.addWord_eq_none_iff, Parts.refuses_iff_of_short h]

theorem not_mem_stretches {c : Char} (k : Nat) :
    c ∉ w.drop k ↔ c ∉ (w.drop k).take 2 ∧ c ∉ w.drop (k + 2) := by
  rw [not_mem_take_drop 2, List.drop_drop]

/-- A date of eight digits, and its time, has no point in it, and its year is the only one. -/
theorem readable_readEight_iff (hw : NumeralWord w) (hlength : w.length = 8 ∨ w.length = 12 ∨ w.length = 14) :
    Readable (readEight r w) ↔ '.' ∉ w ∧ ¬ r.parts.Has .year := by
  have hmax : maxDigits = 4300 := rfl
  have hyear : Readable (required (r.parts.addWord (w.take 4))) ↔ '.' ∉ w.take 4 ∧ ¬ r.parts.Has .year := by
    have hnatural : natural? (w.take 4) ≠ none ↔ '.' ∉ w.take 4 :=
      hw.natural?_take_iff (k := 0) (by omega) (by decide) (by omega)
    have hfour : 2 < (w.take 4).length := by rw [List.length_take]; omega
    rw [readable_required_iff, Ne, Parts.addWord_eq_none_iff, Parts.refuses_iff_of_long hfour, not_or, ← hnatural]
  have htwo : ∀ k, ((w.drop k).take 2).length ≤ 2 := fun k => by rw [List.length_take]; omega
  have hpart : ∀ (p : Parts) {k : Nat}, k < w.length →
      (Readable (required (p.addWord ((w.drop k).take 2))) ↔ '.' ∉ (w.drop k).take 2) := by
    intro p k hk
    rw [readable_addWord_iff (htwo k), hw.natural?_take_iff hk (by decide) (by omega)]
  rw [not_mem_take_drop 4, not_mem_stretches 4, not_mem_stretches 6, and_right_comm, ← hyear]
  refine readable_bind_iff fun parts => ?_
  rw [← hpart parts (by omega)]
  refine readable_bind_iff fun parts => ?_
  rw [← hpart parts (by omega)]
  refine readable_bind_iff fun parts => ?_
  by_cases height : w.length = 8
  · rw [if_pos height, List.drop_of_length_le (by omega)]
    exact iff_of_true (readable_pure _) List.not_mem_nil
  rw [if_neg height, not_mem_stretches 8, not_mem_stretches 10,
    ← hw.natural?_take_iff (by omega) (by decide) (by omega), ← readable_required_iff]
  refine readable_bind_iff fun hour => ?_
  rw [← hw.natural?_take_iff (by omega) (by decide) (by omega), ← readable_required_iff]
  refine readable_bind_iff fun minute => ?_
  by_cases htwelve : w.length = 12
  · rw [if_pos htwelve, List.drop_of_length_le (by omega)]
    exact iff_of_true (readable_pure _) List.not_mem_nil
  · rw [if_neg htwelve, ← hw.natural?_drop_iff (by omega) (by omega), ← readable_required_iff,
      ← and_true (Readable (required (natural? (w.drop 12))))]
    exact readable_bind_iff fun second => iff_true_intro (readable_pure _)

theorem readSix_precise : Precise (readSix r w) := by
  unfold readSix
  split
  · exact (precise_required _).bind fun _ => (precise_required _).bind fun _ => (precise_required _).bind fun _ =>
      precise_ok _
  · exact (precise_required _).bind fun _ => (precise_required _).bind fun _ => (precise_required _).bind fun _ =>
      precise_ok _

theorem idxOf_point {fraction : Word} (h : '.' ∉ w) : (w ++ '.' :: fraction).idxOf '.' = w.length := by
  rw [List.idxOf_append, if_neg h, List.idxOf_cons_self, Nat.zero_add]

theorem le_length_of_not_mem_take {fraction : Word} {k : Nat} (h : '.' ∉ (w ++ '.' :: fraction).take k) :
    k ≤ w.length := by
  refine Nat.le_of_not_lt fun hshort => h ?_
  obtain ⟨j, rfl⟩ : ∃ j, k = w.length + (j + 1) := ⟨k - w.length - 1, by omega⟩
  rw [List.take_length_add_append, List.take_succ_cons]
  simp

/-- Behind four digits of a time, the seconds may have a fraction, but they have both of their digits. -/
theorem secondsOf?_drop_four (hw : NumeralWord w) (hlength : w.length = 6 ∨ (6 < w.length ∧ w.idxOf '.' = 6))
    (htime : '.' ∉ w.take 4) : secondsOf? (w.drop 4) ≠ none ↔ ¬ (w.length = 6 ∧ '.' ∈ w) := by
  have hmax : maxDigits = 4300 := rfl
  cases hw with
  | whole hne hw =>
    have hpoint := not_mem_of_allDigits hw
    have hsix : w.length = 6 := by
      rcases hlength with hsix | ⟨hlong, hindex⟩
      · exact hsix
      · exact absurd (List.idxOf_lt_length_iff.1 (by omega)) hpoint
    have hsecond : '.' ∉ w.drop 4 := fun h => hpoint (List.mem_of_mem_drop h)
    rw [secondsOf?_of_not_mem hsecond, Ne, Option.map_eq_none_iff,
      ← Ne, (NumeralWord.whole hne hw).natural?_drop_iff (by omega) (by omega)]
    exact iff_of_true hsecond fun h => hpoint h.2
  | @decimal whole fraction hne hw hfne hfraction =>
    have hpoint := not_mem_of_allDigits hw
    have hmem : '.' ∈ whole ++ '.' :: fraction := by simp
    have hfour : 4 ≤ whole.length := le_length_of_not_mem_take htime
    have hfpos : 0 < fraction.length := List.length_pos_iff.2 hfne
    rw [idxOf_point hpoint, List.length_append, List.length_cons] at hlength
    rw [List.length_append, List.length_cons, List.drop_append_of_le_length hfour]
    rcases hlength with hsix | ⟨-, hsix⟩
    · -- One digit is left for the seconds.
      have hnone : whole.drop 4 = [] := List.drop_of_length_le (by omega)
      rw [hnone, List.nil_append, secondsOf?_point]
      exact iff_of_false (fun h => h rfl) (fun h => h ⟨hsix, hmem⟩)
    · have hdigits : AllDigits (whole.drop 4) := fun c hc => hw c (List.mem_of_mem_drop hc)
      have hwhole : natural? (whole.drop 4) ≠ none :=
        natural?_ne_none_iff.2 ⟨List.ne_nil_of_length_pos (by rw [List.length_drop]; omega), hdigits,
          by rw [List.length_drop]; omega⟩
      obtain ⟨n, hn⟩ := Option.ne_none_iff_exists'.1 hwhole
      obtain ⟨micros, hmicros⟩ := Option.ne_none_iff_exists'.1 (natural?_fraction_ne_none hfraction)
      rw [secondsOf?_decimal (not_mem_of_allDigits hdigits) (not_mem_of_allDigits hfraction), hn, hmicros]
      exact iff_of_true (by simp) (fun h => by omega)

theorem not_mem_take_four {c : Char} : c ∉ w.take 4 ↔ c ∉ (w.drop 0).take 2 ∧ c ∉ (w.drop 2).take 2 := by
  rw [not_mem_take_drop 2, List.take_take, List.drop_take]
  rfl

/-- Six digits have no point in them, but there may be one behind them. -/
theorem readable_readSix_iff (hw : NumeralWord w)
    (hlength : w.length = 6 ∨ (6 < w.length ∧ w.idxOf '.' = 6)) :
    Readable (readSix r w) ↔ ¬ (w.length = 6 ∧ '.' ∈ w) := by
  have hmax : maxDigits = 4300 := rfl
  have hstretch : ∀ {k : Nat}, k < w.length → (natural? ((w.drop k).take 2) ≠ none ↔ '.' ∉ (w.drop k).take 2) :=
    fun hk => hw.natural?_take_iff hk (by decide) (by omega)
  unfold readSix
  split
  · next hdate =>
    have hsix : w.length = 6 := by
      rcases hlength with hsix | ⟨hlong, hindex⟩
      · exact hsix
      · exact absurd (List.idxOf_lt_length_iff.1 (by omega)) hdate.2
    have htwo : ∀ (p : Parts) {k : Nat}, k < w.length → Readable (required (p.addWord ((w.drop k).take 2))) := by
      intro p k hk
      rw [readable_addWord_iff (by rw [List.length_take]; omega), hstretch hk]
      exact fun h => hdate.2 (List.mem_of_mem_drop (List.mem_of_mem_take h))
    have hlast : ∀ p : Parts, Readable (required (p.addWord (w.drop 4))) := by
      intro p
      rw [readable_addWord_iff (by rw [List.length_drop]; omega), hw.natural?_drop_iff (by omega) (by omega)]
      exact fun h => hdate.2 (List.mem_of_mem_drop h)
    refine iff_of_true ?_ fun h => hdate.2 h.2
    exact (htwo r.parts (k := 0) (by omega)).bind fun p => (htwo p (by omega)).bind fun p => (hlast p).bind fun _ =>
      readable_pure _
  · next htime =>
    have hrest : Readable (do
        let hour ← required (natural? (w.take 2))
        let minute ← required (natural? ((w.drop 2).take 2))
        let seconds ← required (secondsOf? (w.drop 4))
        return ({ r with hour := some hour, minute := some minute }.setSeconds seconds, 0)) ↔
          '.' ∉ (w.drop 0).take 2 ∧ '.' ∉ (w.drop 2).take 2 ∧ secondsOf? (w.drop 4) ≠ none := by
      rw [← hstretch (by omega), ← readable_required_iff]
      refine readable_bind_iff fun hour => ?_
      rw [← hstretch (by omega), ← readable_required_iff]
      refine readable_bind_iff fun minute => ?_
      rw [← readable_required_iff, ← and_true (Readable (required (secondsOf? (w.drop 4))))]
      exact readable_bind_iff fun seconds => iff_true_intro (readable_pure _)
    rw [hrest, ← and_assoc, ← not_mem_take_four]
    by_cases hfour : '.' ∉ w.take 4
    · rw [and_iff_right hfour, secondsOf?_drop_four hw hlength hfour]
    · have hmem : '.' ∈ w.take 4 := Decidable.not_not.1 hfour
      refine iff_of_false (fun h => hfour h.1) (fun h => h ⟨?_, List.mem_of_mem_take hmem⟩)
      rcases hlength with hsix | ⟨-, hindex⟩
      · exact hsix
      · have hbefore := (List.mem_take_iff_idxOf_lt (List.mem_of_mem_take hmem)).1 hmem
        omega

end ParamQuery.DateText
