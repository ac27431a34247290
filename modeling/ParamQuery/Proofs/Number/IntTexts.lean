import ParamQuery.Proofs.Number.LeadingInt

/-!
# The texts of an integer

An integer is written in decimal, with any number of zeros in front and a sign, which only a negative integer needs
(`IntText`).  There is no other run of digits (`exists_zeros_append_toDigits`), so these are the texts that an integer
is read from: behind white space, and before anything but a further digit (`leadingInt_exact`).  In particular an
integer is read back from what is written for it (`leadingInt_intDigits`).  What is behind the digits is not looked at,
nor is anything from the first character beyond ASCII on (`leadingInt_append_cons`).
-/

namespace ParamQuery.Number

variable {cs ds sign text : List Char} {negative : Bool} {n : Int} {s : String} {c : Char}

/-! ### Digits as zeros and a decimal -/

theorem digitChar_value (h : c.isDigit = true) : Nat.digitChar (c.toNat - '0'.toNat) = c :=
  Text.forall_asciiDigit (p := fun c => Nat.digitChar (c.toNat - '0'.toNat) = c) (by decide) h

theorem value_lt_ten (h : c.isDigit = true) : c.toNat - '0'.toNat < 10 :=
  Text.forall_asciiDigit (p := fun c => c.toNat - '0'.toNat < 10) (by decide) h

theorem toDigits_value (h : c.isDigit = true) : Nat.toDigits 10 (c.toNat - '0'.toNat) = [c] := by
  rw [Nat.toDigits_of_lt_base (value_lt_ten h), digitChar_value h]

/-- Digits behind the decimal of a positive number make a longer decimal. -/
theorem toDigits_append_digits {m : Nat} (hm : 0 < m) (hds : Digits ds) :
    Nat.toDigits 10 m ++ ds = Nat.toDigits 10 (Nat.ofDigitChars 10 ds m) := by
  induction ds generalizing m with
  | nil => rw [List.append_nil, Nat.ofDigitChars_nil]
  | cons d ds ih =>
    obtain ⟨hd, hds⟩ := List.forall_mem_cons.1 hds
    have hpos : 0 < 10 * m + (d.toNat - '0'.toNat) := by omega
    calc Nat.toDigits 10 m ++ d :: ds
        = Nat.toDigits 10 m ++ Nat.toDigits 10 (d.toNat - '0'.toNat) ++ ds := by
          rw [toDigits_value hd, List.append_assoc, List.singleton_append]
      _ = Nat.toDigits 10 (10 * m + (d.toNat - '0'.toNat)) ++ ds := by
          rw [Nat.toDigits_append_toDigits (by decide) hm (value_lt_ten hd)]
      _ = Nat.toDigits 10 (Nat.ofDigitChars 10 (d :: ds) m) := by rw [ih hpos hds, Nat.ofDigitChars_cons]

theorem digitsValue_cons (c : Char) (ds : List Char) :
    digitsValue (c :: ds) = Nat.ofDigitChars 10 ds (c.toNat - '0'.toNat) := by
  show Nat.ofDigitChars 10 (c :: ds) 0 = _
  rw [Nat.ofDigitChars_cons, Nat.mul_zero, Nat.zero_add]

/-- A run of digits is the decimal of its value behind zeros. -/
theorem exists_zeros_append_toDigits (hds : Digits ds) (hne : ds ≠ []) :
    ∃ zeros, ds = List.replicate zeros '0' ++ Nat.toDigits 10 (digitsValue ds) := by
  induction ds with
  | nil => exact absurd rfl hne
  | cons d ds ih =>
    obtain ⟨hd, hrest⟩ := List.forall_mem_cons.1 hds
    by_cases hzero : d = '0'
    · subst hzero
      by_cases hempty : ds = []
      · subst hempty
        exact ⟨0, rfl⟩
      · obtain ⟨zeros, hzeros⟩ := ih hrest hempty
        have hvalue : digitsValue ('0' :: ds) = digitsValue ds := rfl
        refine ⟨zeros + 1, ?_⟩
        rw [hvalue, List.replicate_succ, List.cons_append, ← hzeros]
    · have hpos : 0 < d.toNat - '0'.toNat := by
        refine Nat.pos_of_ne_zero fun hvalue => hzero ?_
        rw [← digitChar_value hd, hvalue]
        rfl
      refine ⟨0, ?_⟩
      rw [List.replicate_zero, List.nil_append, digitsValue_cons, ← toDigits_append_digits hpos hrest,
        toDigits_value hd, List.singleton_append]

theorem digitsValue_zeros_append (zeros m : Nat) :
    digitsValue (List.replicate zeros '0' ++ Nat.toDigits 10 m) = m := by
  show Nat.ofDigitChars 10 (List.replicate zeros '0' ++ Nat.toDigits 10 m) 0 = m
  rw [Nat.ofDigitChars_append, Nat.ofDigitChars_replicate_zero, Nat.mul_zero, Nat.ofDigitChars_ten_toDigits]

/-! ### Written integers -/

/-- A text of the integer: a sign, which only a negative integer needs, zeros, and the decimal.  With the zeros there
are `maxDigits` digits at most. -/
inductive IntText (n : Int) : List Char → Prop
  | mk {sign : List Char} {negative : Bool} (zeros : Nat) (hsign : IsSign sign negative)
      (hn : signed negative n.natAbs = n) (hlength : zeros + (Nat.toDigits 10 n.natAbs).length ≤ maxDigits) :
      IntText n (sign ++ (List.replicate zeros '0' ++ Nat.toDigits 10 n.natAbs))

theorem IntText.of_digits (hsign : IsSign sign negative) (hds : Digits ds) (hne : ds ≠ [])
    (hlength : ds.length ≤ maxDigits) : IntText (signed negative (digitsValue ds)) (sign ++ ds) := by
  obtain ⟨zeros, hzeros⟩ := exists_zeros_append_toDigits hds hne
  have habs := natAbs_signed negative (digitsValue ds)
  have hlength' : zeros + (Nat.toDigits 10 (digitsValue ds)).length ≤ maxDigits := by
    rwa [hzeros, List.length_append, List.length_replicate] at hlength
  have htext : IntText (signed negative (digitsValue ds)) _ :=
    .mk zeros hsign (by rw [habs]) (by rwa [habs])
  rwa [habs, ← hzeros] at htext

theorem IntText.exists_digits (h : IntText n text) :
    ∃ sign negative digits, text = sign ++ digits ∧ IsSign sign negative ∧ Digits digits ∧ digits ≠ [] ∧
      digits.length ≤ maxDigits ∧ n = signed negative (digitsValue digits) := by
  obtain ⟨zeros, hsign, hn, hlength⟩ := h
  refine ⟨_, _, _, rfl, hsign, digits_append ?zeros ?decimal, ?_, ?_, ?_⟩
  case zeros =>
    intro d hd
    rw [List.eq_of_mem_replicate hd]
    rfl
  case decimal => exact fun d hd => Nat.isDigit_of_mem_toDigits (by decide) (by decide) hd
  · exact List.append_ne_nil_of_right_ne_nil _ Nat.toDigits_ne_nil
  · rwa [List.length_append, List.length_replicate]
  · rw [digitsValue_zeros_append, hn]

theorem leadingInt_eq_some_iff_intText : leadingInt s = some n ↔
    ∃ gaps text rest, s.toList = gaps ++ (text ++ rest) ∧ (∀ c ∈ gaps, isGap c = true) ∧ IntText n text ∧
      NoDigit rest := by
  rw [leadingInt_eq_some_iff]
  constructor
  · rintro ⟨negative, digits, ⟨⟨gaps, sign, rest, hs, hgaps, hsign, hrest⟩, hdigits, hne⟩, hlength, rfl⟩
    have htext := IntText.of_digits hsign hdigits hne hlength
    exact ⟨gaps, sign ++ digits, rest, by rw [hs, List.append_assoc], hgaps, htext, hrest⟩
  · rintro ⟨gaps, text, rest, hs, hgaps, htext, hrest⟩
    obtain ⟨sign, negative, digits, rfl, hsign, hdigits, hne, hlength, rfl⟩ := htext.exists_digits
    rw [List.append_assoc] at hs
    exact ⟨negative, digits, ⟨⟨gaps, sign, rest, hs, hgaps, hsign, hrest⟩, hdigits, hne⟩, hlength, rfl⟩

theorem intText_intDigits (h : Writable n) : IntText n (intDigits n) := by
  unfold intDigits
  by_cases hn : n < 0
  · rw [if_pos hn]
    exact .mk 0 .minus (by show -(n.natAbs : Int) = n; omega) (by rwa [Nat.zero_add])
  · rw [if_neg hn]
    exact .mk 0 .none (by show (n.natAbs : Int) = n; omega) (by rwa [Nat.zero_add])

/-- What is written for an integer is read back. -/
theorem leadingInt_intDigits (h : Writable n) : leadingInt (String.ofList (intDigits n)) = some n := by
  refine leadingInt_eq_some_iff_intText.2 ⟨[], intDigits n, [], ?_, ?_, intText_intDigits h, ?_⟩
  · rw [String.toList_ofList, List.append_nil, List.nil_append]
  · exact fun c hc => absurd hc List.not_mem_nil
  · exact fun c hc => absurd hc (Option.not_mem_none c)

/-! ### The end of the digits -/

theorem takeSign_append_cons (h : (c ≠ '+' ∧ c ≠ '-') ∨ cs ≠ []) (rest : List Char) :
    takeSign (cs ++ c :: rest) = ((takeSign cs).1, (takeSign cs).2 ++ c :: rest) := by
  have hfirst : ∀ {d : Char}, d ≠ '+' ∧ d ≠ '-' → ∀ ds, takeSign (d :: ds) = (false, d :: ds) := by
    intro d hd ds
    exact takeSign_append .none (by rintro _ ⟨⟩; exact hd)
  cases cs with
  | nil => exact hfirst (h.resolve_right (absurd rfl)) rest
  | cons d ds =>
    by_cases hplus : d = '+'
    · subst hplus
      rfl
    by_cases hminus : d = '-'
    · subst hminus
      rfl
    rw [List.cons_append, hfirst ⟨hplus, hminus⟩, hfirst ⟨hplus, hminus⟩]
    rfl

/-- From a character on that is no digit, nothing is looked at, unless it is white space or a sign before the number. -/
theorem leadingInt_append_cons {front : List Char} (hc : c.isDigit = false)
    (h : (isGap c = false ∧ c ≠ '+' ∧ c ≠ '-') ∨ front.dropWhile isGap ≠ []) (rest : List Char) :
    leadingInt (String.ofList (front ++ c :: rest)) = leadingInt (String.ofList front) := by
  have hgaps : (front ++ c :: rest).dropWhile isGap = front.dropWhile isGap ++ c :: rest := by
    rw [List.dropWhile_append]
    split
    · next hempty =>
      rw [List.isEmpty_iff] at hempty
      obtain ⟨hgap, -⟩ := h.resolve_right (absurd hempty)
      rw [hempty, List.nil_append, List.dropWhile_cons_of_neg (by simp [hgap])]
    · rfl
  have hdigits : ∀ cs : List Char, (cs ++ c :: rest).takeWhile Char.isDigit = cs.takeWhile Char.isDigit := by
    intro cs
    obtain ⟨ds, tail, rfl, hds, htail⟩ := exists_digits_append cs
    rw [List.append_assoc, takeWhile_digits_append hds htail, takeWhile_digits_append hds]
    intro d hd
    cases tail with
    | nil => cases hd; exact hc
    | cons e tail => exact htail d hd
  unfold leadingInt
  rw [String.toList_ofList, String.toList_ofList, hgaps, takeSign_append_cons (h.imp_left (·.2))]
  simp only [hdigits]

theorem dropWhile_gaps_ne_nil {d : Char} (hd : d ∈ cs) (hdigit : d.isDigit = true) : cs.dropWhile isGap ≠ [] := by
  intro hnil
  have htake : cs.takeWhile isGap = cs := by
    conv => rhs; rw [← List.takeWhile_append_dropWhile (p := isGap) (l := cs), hnil, List.append_nil]
  rw [← htake] at hd
  have hgap : isGap d = true := List.all_eq_true.1 List.all_takeWhile d hd
  rw [isGap_of_isDigit hdigit] at hgap
  cases hgap

theorem isDigit_of_beyond (hc : 128 ≤ c.toNat) : c.isDigit = false := by
  rw [← Bool.not_eq_true, Char.isDigit_iff_toNat]
  rintro ⟨-, hnine⟩
  have hnine' : '9'.toNat = 57 := rfl
  omega

theorem isGap_of_beyond (hc : 128 ≤ c.toNat) : isGap c = false := by
  have hspace : c ≠ ' ' := by
    rintro rfl
    exact absurd hc (by decide)
  simp only [isGap, hspace, decide_false, Bool.false_or, Bool.and_eq_false_iff, decide_eq_false_iff_not]
  omega

/-- An integer is read from a text exactly if the text begins with white space and a text of the integer, and does not
go on with a digit.  None is read where there are no digits behind white space and an optional sign, or more than
`maxDigits` of them.  Characters beyond ASCII, and white space behind a digit, end what is read. -/
theorem leadingInt_exact (s : String) :
    (∀ n, leadingInt s = some n ↔ ∃ gaps text rest, s.toList = gaps ++ (text ++ rest) ∧
      (∀ c ∈ gaps, isGap c = true) ∧ IntText n text ∧ NoDigit rest) ∧
    (leadingInt s = none ↔ (¬ ∃ negative digits, SignedDigits s negative digits) ∨
      ∃ negative digits, SignedDigits s negative digits ∧ maxDigits < digits.length) ∧
    ∀ front c rest, s.toList = front ++ c :: rest →
      128 ≤ c.toNat ∨ (Text.isBlank c = true ∧ ∃ d ∈ front, d.isDigit = true) →
      leadingInt s = leadingInt (String.ofList front) := by
  refine ⟨fun n => leadingInt_eq_some_iff_intText, leadingInt_eq_none_iff, fun front c rest hs hc => ?_⟩
  rw [← String.ofList_toList (s := s), hs]
  rcases hc with hbeyond | ⟨hblank, d, hd, hdigit⟩
  · have hsign : c ≠ '+' ∧ c ≠ '-' := by
      constructor <;> (rintro rfl; exact absurd hbeyond (by decide))
    exact leadingInt_append_cons (isDigit_of_beyond hbeyond) (.inl ⟨isGap_of_beyond hbeyond, hsign⟩) rest
  · have hc : c.isDigit = false := by
      rw [← Bool.not_eq_true]
      intro hc
      rw [isBlank_of_isDigit hc] at hblank
      cases hblank
    exact leadingInt_append_cons hc (.inr (dropWhile_gaps_ne_nil hd hdigit)) rest

/-- A digit of another script ends the number. -/
theorem leadingInt_exact_arabicDigit :
    leadingInt "\t-0042\u0663" = some (-42) ∧ leadingInt "\t-0042" = some (-42) := by
  have hread : leadingInt "\t-0042" = some (-42) := by
    have htext : IntText (-42) "-0042".toList := .mk 2 .minus rfl (by decide)
    refine ((leadingInt_exact "\t-0042").1 (-42)).2
      ⟨['\t'], _, [], rfl, List.forall_mem_singleton.2 rfl, htext, ?_⟩
    intro c hc
    cases hc
  refine ⟨?_, hread⟩
  rw [← hread]
  exact (leadingInt_exact "\t-0042\u0663").2.2 "\t-0042".toList '\u0663' [] (by decide) (.inl (by decide))

end ParamQuery.Number
