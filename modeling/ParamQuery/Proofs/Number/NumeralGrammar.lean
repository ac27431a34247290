import Mathlib.Algebra.Order.Field.Power
import Mathlib.Algebra.Order.Field.Rat
import Mathlib.Tactic.FieldSimp
import Mathlib.Tactic.Positivity
import ParamQuery.Proofs.Number.LeadingDigits

/-!
# The grammar of numerals

A numeral has an optional sign, and then the word for infinity or digits: with at most one point among them, and
perhaps with a power of ten behind them.  Each part of the grammar goes with the rational that is written.

`Longest` is the one longest reading at the front of a text.  It is put together from those of the parts: nothing in a
mantissa can begin a power of ten, so the longest mantissa with the longest power behind it is the longest decimal
(`Longest.decimal`), and a sign goes with the longest magnitude behind it (`Longest.signed`).
-/

namespace ParamQuery.Number

variable {α : Type} {cs ds fs m p t w : List Char}

/-- The digits before a point and behind it. -/
inductive IsMantissa : List Char → ℚ → Prop
  | whole {ds : List Char} (hds : Digits ds) (hne : ds ≠ []) : IsMantissa ds (digitsValue ds)
  | pointed {ds fs : List Char} (hds : Digits ds) (hfs : Digits fs) (hne : ds ≠ [] ∨ fs ≠ []) :
      IsMantissa (ds ++ '.' :: fs) (digitsValue ds + digitsValue fs / 10 ^ fs.length)

inductive IsPower : List Char → Int → Prop
  | none : IsPower [] 0
  | written {mark : Char} {sign ds : List Char} {negative : Bool} (hmark : mark = 'e' ∨ mark = 'E')
      (hsign : IsSign sign negative) (hds : Digits ds) (hne : ds ≠ []) :
      IsPower (mark :: (sign ++ ds)) (signed negative (digitsValue ds))

/-- Infinity has no rational value. -/
inductive IsMagnitude : List Char → Option ℚ → Prop
  | infinity : IsMagnitude "Infinity".toList none
  | decimal {m p : List Char} {q : ℚ} {e : Int} (hm : IsMantissa m q) (hp : IsPower p e) :
      IsMagnitude (m ++ p) (some (q * 10 ^ e))

structure SignedValue where
  negative : Bool
  magnitude : Option ℚ

inductive IsNumeral : List Char → SignedValue → Prop
  | mk {sign w : List Char} {negative : Bool} {magnitude : Option ℚ} (hsign : IsSign sign negative)
      (hw : IsMagnitude w magnitude) : IsNumeral (sign ++ w) ⟨negative, magnitude⟩

/-- `w` is read as `a`, and everything else that can be read at the front of the text is shorter. -/
structure Longest (P : List Char → α → Prop) (cs w : List Char) (a : α) : Prop where
  reads : P w a
  isPrefix : w <+: cs
  others : ∀ {v : List Char} {b : α}, P v b → v <+: cs → v = w ∧ b = a ∨ v.length < w.length

theorem digitsValue_append (ds fs : List Char) :
    digitsValue (ds ++ fs) = digitsValue ds * Nat.pow 10 fs.length + digitsValue fs := by
  have hsplit : digitsValue (ds ++ fs) = Nat.ofDigitChars 10 fs (digitsValue ds) :=
    Nat.ofDigitChars_append 0
  rw [hsplit, Nat.ofDigitChars_eq_ofDigitChars_zero, Nat.mul_comm]
  rfl

/-- All digits together are a multiple of the power of ten of the last place. -/
theorem pointed_value (ds fs : List Char) :
    (digitsValue ds + digitsValue fs / 10 ^ fs.length : ℚ) = digitsValue (ds ++ fs) * 10 ^ (-(fs.length : Int)) := by
  have hpow : (10 : ℚ) ^ fs.length ≠ 0 := by positivity
  have hcast : (digitsValue (ds ++ fs) : ℚ) = digitsValue ds * 10 ^ fs.length + digitsValue fs := by
    rw [digitsValue_append]
    exact_mod_cast rfl
  rw [hcast, zpow_neg, zpow_natCast]
  field_simp

theorem IsMantissa.ne_nil {q : ℚ} (h : IsMantissa m q) : m ≠ [] := by
  cases h with
  | whole _ hne => exact hne
  | pointed => simp

/-- A mantissa has digits, and perhaps a point. -/
theorem IsMantissa.digit_or_point {q : ℚ} (h : IsMantissa m q) {c : Char} (hc : c ∈ m) :
    c.isDigit = true ∨ c = '.' := by
  cases h with
  | whole hds => exact .inl (hds c hc)
  | pointed hds hfs =>
    rcases List.mem_append.1 hc with hc | hc
    · exact .inl (hds c hc)
    · rcases List.mem_cons.1 hc with hc | hc
      · exact .inr hc
      · exact .inl (hfs c hc)

theorem IsMantissa.exists_head {q : ℚ} (h : IsMantissa m q) (hfront : m <+: cs) :
    ∃ c, cs.head? = some c ∧ (c.isDigit = true ∨ c = '.') := by
  obtain ⟨c, m, rfl⟩ := List.exists_cons_of_ne_nil h.ne_nil
  obtain ⟨rest, rfl⟩ := hfront
  exact ⟨c, rfl, h.digit_or_point List.mem_cons_self⟩

theorem noDigit_point (cs : List Char) : NoDigit ('.' :: cs) := by
  intro c hc
  cases hc
  rfl

/-- A point at the front stands behind all the digits there. -/
theorem pointed_front {ds' fs' : List Char} (hds : Digits ds) (hcs : NoDigit cs) (hds' : Digits ds')
    (h : ds' ++ '.' :: fs' <+: ds ++ cs) : ds' = ds ∧ ∃ tail, cs = '.' :: tail ∧ fs' <+: tail := by
  obtain ⟨rest, hrest⟩ := h
  rw [List.append_assoc, List.cons_append] at hrest
  have hwhole : ds' = ds := by
    rw [← takeWhile_digits_append hds' (noDigit_point (fs' ++ rest)), hrest, takeWhile_digits_append hds hcs]
  subst hwhole
  exact ⟨rfl, fs' ++ rest, (List.append_cancel_left hrest).symm, List.prefix_append fs' rest⟩

/-- A point with digits on one side at least is part of the longest mantissa. -/
theorem longest_pointed (hds : Digits ds) (hfs : Digits fs) (hne : ds ≠ [] ∨ fs ≠ []) (hcs : NoDigit cs) :
    Longest IsMantissa (ds ++ '.' :: fs ++ cs) (ds ++ '.' :: fs)
      (digitsValue ds + digitsValue fs / 10 ^ fs.length) := by
  refine ⟨.pointed hds hfs hne, List.prefix_append _ _, fun {v b} hv hfront => ?_⟩
  rw [List.append_assoc, List.cons_append] at hfront
  cases hv with
  | whole hv =>
    right
    have hle := (digits_front hds (noDigit_point _) hv hfront).length_le
    rw [List.length_append, List.length_cons]
    omega
  | pointed hds' hfs' =>
    obtain ⟨rfl, tail, htail, hfraction⟩ := pointed_front hds (noDigit_point _) hds' hfront
    cases htail
    rcases eq_or_length_lt (digits_front hfs hcs hfs' hfraction) with rfl | hlt
    · exact .inl ⟨rfl, rfl⟩
    · right
      simp only [List.length_append, List.length_cons]
      omega

/-- A point without digits on either side begins no mantissa. -/
theorem not_prefix_point {q : ℚ} (hm : IsMantissa m q) (hcs : NoDigit cs) : ¬ m <+: '.' :: cs := by
  have hnil : Digits [] := fun d hd => nomatch hd
  intro hfront
  cases hm with
  | whole hds hne => exact hne (List.prefix_nil.1 (digits_front hnil (noDigit_point cs) hds hfront))
  | pointed hds hfs hne =>
    obtain ⟨rfl, tail, htail, hfraction⟩ := pointed_front hnil (noDigit_point cs) hds hfront
    cases htail
    exact hne.elim (fun h => h rfl) (fun h => h (List.prefix_nil.1 (digits_front hnil hcs hfs hfraction)))

/-- Without a point after them, the digits are the longest mantissa. -/
theorem longest_whole (hds : Digits ds) (hne : ds ≠ []) (hdigit : NoDigit cs) (hpoint : cs.head? ≠ some '.') :
    Longest IsMantissa (ds ++ cs) ds (digitsValue ds) := by
  refine ⟨.whole hds hne, List.prefix_append _ _, fun {v b} hv hfront => ?_⟩
  cases hv with
  | whole hv =>
    rcases eq_or_length_lt (digits_front hds hdigit hv hfront) with rfl | hlt
    · exact .inl ⟨rfl, rfl⟩
    · exact .inr hlt
  | pointed hds' =>
    obtain ⟨-, tail, rfl, -⟩ := pointed_front hds hdigit hds' hfront
    exact absurd rfl hpoint

/-- A signed run of digits at the front has the sign there, and no more digits than there are. -/
theorem signed_digits_front {sign sign' : List Char} {negative' : Bool} (hcs : cs = sign ++ (takeSign cs).2)
    (hsign' : IsSign sign' negative') (hds : Digits ds) (hne : ds ≠ []) (h : sign' ++ ds <+: cs) :
    sign' = sign ∧ negative' = (takeSign cs).1 ∧ ds <+: (takeSign cs).2.takeWhile Char.isDigit := by
  obtain ⟨rest, hrest⟩ := h
  rw [List.append_assoc] at hrest
  obtain ⟨heq, hnegative, hbody⟩ := sign_unique hcs hsign' (noSign_of_digits hds hne rest) hrest
  exact ⟨heq, hnegative, prefix_takeWhile hds ⟨rest, hbody⟩⟩

/-- The mark of a power of ten without digits is not part of the numeral. -/
theorem longest_power_incomplete {mark : Char} {sign : List Char} (hcs : cs = sign ++ (takeSign cs).2)
    (hempty : (takeSign cs).2.takeWhile Char.isDigit = []) : Longest IsPower (mark :: cs) [] 0 := by
  refine ⟨.none, List.nil_prefix, fun {v b} hv hfront => ?_⟩
  cases hv with
  | none => exact .inl ⟨rfl, rfl⟩
  | written hmark hsign hds hne =>
    obtain ⟨-, -, hdigits⟩ := signed_digits_front hcs hsign hds hne (List.cons_prefix_cons.1 hfront).2
    rw [hempty] at hdigits
    exact absurd (List.prefix_nil.1 hdigits) hne

theorem longest_power_written {mark : Char} {sign : List Char} (hmark : mark = 'e' ∨ mark = 'E')
    (hsign : IsSign sign (takeSign cs).1) (hcs : cs = sign ++ (takeSign cs).2)
    (hne : (takeSign cs).2.takeWhile Char.isDigit ≠ []) :
    Longest IsPower (mark :: cs) (mark :: (sign ++ (takeSign cs).2.takeWhile Char.isDigit))
      (signed (takeSign cs).1 (digitsValue ((takeSign cs).2.takeWhile Char.isDigit))) := by
  refine ⟨.written hmark hsign (digits_takeWhile _) hne, ?_, fun {v b} hv hfront => ?_⟩
  · rw [List.cons_prefix_cons]
    refine ⟨rfl, ?_⟩
    conv_rhs => rw [hcs]
    rw [List.prefix_append_right_inj]
    exact List.takeWhile_prefix _
  · cases hv with
    | none => exact .inr (Nat.zero_lt_succ _)
    | written hmark' hsign' hds hne =>
      obtain ⟨rfl, hbody⟩ := List.cons_prefix_cons.1 hfront
      obtain ⟨rfl, rfl, hdigits⟩ := signed_digits_front hcs hsign' hds hne hbody
      rcases eq_or_length_lt hdigits with rfl | hlt
      · exact .inl ⟨rfl, rfl⟩
      · right
        simp only [List.length_cons, List.length_append]
        omega

/-- Without the mark of a power of ten there is none. -/
theorem longest_power_none {c : Char} (hmark : ¬ (c = 'e' ∨ c = 'E')) (cs : List Char) :
    Longest IsPower (c :: cs) [] 0 := by
  refine ⟨.none, List.nil_prefix, fun {v b} hv hfront => ?_⟩
  cases hv with
  | none => exact .inl ⟨rfl, rfl⟩
  | written hc => exact absurd ((List.cons_prefix_cons.1 hfront).1 ▸ hc) hmark

theorem exists_longest_power (cs : List Char) : ∃ p, Longest IsPower cs p (leadingExponent cs) := by
  cases cs with
  | nil =>
    refine ⟨[], .none, List.prefix_rfl, fun {v b} hv hfront => ?_⟩
    cases List.prefix_nil.1 hfront
    cases hv
    exact .inl ⟨rfl, rfl⟩
  | cons c cs =>
    by_cases hmark : c = 'e' ∨ c = 'E'
    · obtain ⟨sign, hsign, hcs⟩ := exists_sign cs
      rw [leadingExponent, if_pos hmark]
      by_cases hempty : (takeSign cs).2.takeWhile Char.isDigit = []
      · have hzero : signed (takeSign cs).1 (digitsValue []) = 0 := by cases (takeSign cs).1 <;> rfl
        simp only [hempty, hzero]
        exact ⟨[], longest_power_incomplete hcs hempty⟩
      · exact ⟨_, longest_power_written hmark hsign hcs hempty⟩
    · rw [leadingExponent, if_neg hmark]
      exact ⟨[], longest_power_none hmark cs⟩

/-- The mark of a power of ten is in no mantissa. -/
theorem IsMantissa.not_mem {q : ℚ} (h : IsMantissa m q) {mark : Char} (hmark : mark = 'e' ∨ mark = 'E') :
    mark ∉ m := by
  intro hmem
  rcases hmark with rfl | rfl <;> rcases h.digit_or_point hmem with h | h <;> exact absurd h (by decide)

/-- The longest mantissa with the longest power of ten behind it. -/
theorem Longest.decimal {q : ℚ} {e : Int} (hm : Longest IsMantissa (m ++ t) m q) (hp : Longest IsPower t p e)
    (hinfinity : ¬ "Infinity".toList <+: m ++ t) :
    Longest IsMagnitude (m ++ t) (m ++ p) (some (q * 10 ^ e)) := by
  refine ⟨.decimal hm.reads hp.reads, (List.prefix_append_right_inj m).2 hp.isPrefix, fun {v b} hv hfront => ?_⟩
  cases hv with
  | infinity => exact absurd hfront hinfinity
  | @decimal m' p' q' e' hm' hp' =>
    rcases hm.others hm' ((List.prefix_append m' p').trans hfront) with ⟨rfl, rfl⟩ | hshorter
    · rcases hp.others hp' ((List.prefix_append_right_inj m').1 hfront) with ⟨rfl, rfl⟩ | hshorter
      · exact .inl ⟨rfl, rfl⟩
      · right
        rw [List.length_append, List.length_append]
        omega
    · right
      cases hp' with
      | none =>
        rw [List.append_nil, List.length_append]
        omega
      | @written mark sign ds _ hmark =>
        -- The longer mantissa would go on with the mark.
        have hnext : m' ++ [mark] <+: m ++ t := by
          refine List.IsPrefix.trans ?_ hfront
          rw [List.prefix_append_right_inj, List.cons_prefix_cons]
          exact ⟨rfl, List.nil_prefix⟩
        have hm' : m' ++ [mark] <+: m :=
          List.prefix_of_prefix_length_le hnext (List.prefix_append m t) (by rw [List.length_append]; exact hshorter)
        exact absurd (hm'.subset (List.mem_append_right m' List.mem_cons_self)) (hm.reads.not_mem hmark)

theorem longest_infinity (h : "Infinity".toList <+: cs) : Longest IsMagnitude cs "Infinity".toList none := by
  refine ⟨.infinity, h, fun {v b} hv hfront => ?_⟩
  cases hv with
  | infinity => exact .inl ⟨rfl, rfl⟩
  | @decimal m p _ _ hm =>
    obtain ⟨c, hc, hkind⟩ := hm.exists_head ((List.prefix_append m p).trans hfront)
    obtain ⟨rest, rfl⟩ := h
    cases hc
    exact absurd hkind (by decide)

theorem IsMagnitude.noSign {v : Option ℚ} (h : IsMagnitude w v) (cs : List Char) : NoSign (w ++ cs) := by
  intro c hc
  cases h with
  | infinity =>
    cases hc
    decide
  | @decimal m p _ _ hm =>
    rw [List.append_assoc] at hc
    obtain ⟨d, hd, hkind⟩ := hm.exists_head (List.prefix_append m (p ++ cs))
    rw [Option.mem_def.1 hc] at hd
    cases hd
    constructor <;> (rintro rfl; exact absurd hkind (by decide))

/-- The sign goes with the longest magnitude behind it. -/
theorem Longest.signed {v : Option ℚ} {sign : List Char} (hsign : IsSign sign (takeSign cs).1)
    (hcs : cs = sign ++ (takeSign cs).2) (h : Longest IsMagnitude (takeSign cs).2 w v) :
    Longest IsNumeral cs (sign ++ w) ⟨(takeSign cs).1, v⟩ := by
  refine ⟨.mk hsign h.reads, ?_, fun {u b} hu hfront => ?_⟩
  · conv_rhs => rw [hcs]
    exact (List.prefix_append_right_inj sign).2 h.isPrefix
  · cases hu with
    | @mk sign' w' negative' _ hsign' hw' =>
      obtain ⟨rest, hrest⟩ := hfront
      rw [List.append_assoc] at hrest
      obtain ⟨rfl, rfl, hbody⟩ := sign_unique hcs hsign' (hw'.noSign rest) hrest
      rcases h.others hw' ⟨rest, hbody⟩ with ⟨rfl, rfl⟩ | hshorter
      · exact .inl ⟨rfl, rfl⟩
      · right
        rw [List.length_append, List.length_append]
        omega

end ParamQuery.Number
