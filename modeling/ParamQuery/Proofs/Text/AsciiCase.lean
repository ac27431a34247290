import Mathlib.Data.List.Forall2
import ParamQuery.Text.Case

/-!
# ASCII words under the full case mappings

The full case mappings take characters from beyond ASCII to ASCII letters: the dotless `ı` becomes `I`, the long `ſ`
becomes `S`, ligatures become `FF`, `FI` or `ST`, and the sign for kelvin becomes `k`.  According to the tables each of
these upper cases has an `F`, an `I` or an `S`, or a character beyond ASCII, and each of these lower cases has a `k` or
a character beyond ASCII.

So a word of capitals without those three letters is the upper case of nothing but its own case variants
(`upper_eq_iff`), and a word of small letters without `k` is the lower case of nothing but its own (`lower_eq_iff`).
-/

namespace ParamQuery.Text

variable {c d e : Char}

/-! ### Case variants -/

/-- A letter from `A` to `Z`. -/
def IsCapital (c : Char) : Prop :=
  65 ≤ c.toNat ∧ c.toNat ≤ 90

/-- A letter from `a` to `z`. -/
def IsSmall (c : Char) : Prop :=
  97 ≤ c.toNat ∧ c.toNat ≤ 122

instance (c : Char) : Decidable (IsCapital c) :=
  inferInstanceAs (Decidable (_ ∧ _))

instance (c : Char) : Decidable (IsSmall c) :=
  inferInstanceAs (Decidable (_ ∧ _))

/-- One and the same character, or the two forms of an ASCII letter. -/
def SameLetter (c d : Char) : Prop :=
  c = d ∨ (IsCapital c ∧ d.toNat = c.toNat + 32) ∨ (IsCapital d ∧ c.toNat = d.toNat + 32)

instance (c d : Char) : Decidable (SameLetter c d) :=
  inferInstanceAs (Decidable (_ ∨ _))

/-- The two texts differ in the case of ASCII letters at most. -/
def SameButCase (s t : String) : Prop :=
  List.Forall₂ SameLetter s.toList t.toList

instance (s t : String) : Decidable (SameButCase s t) :=
  inferInstanceAs (Decidable (List.Forall₂ _ _ _))

theorem SameLetter.ascii (h : SameLetter c d) (hd : d.toNat < 128) : c.toNat < 128 := by
  rcases h with rfl | ⟨⟨-, hc⟩, -⟩ | ⟨⟨-, hle⟩, hc⟩
  · exact hd
  · omega
  · omega

/-- A letter has one form of each case. -/
theorem SameLetter.eq_of_case (hd : SameLetter c d) (he : SameLetter c e)
    (hcase : (¬ IsSmall d ∧ ¬ IsSmall e) ∨ (¬ IsCapital d ∧ ¬ IsCapital e)) : d = e := by
  unfold SameLetter IsCapital at hd he
  unfold IsCapital IsSmall at hcase
  rw [← Char.toNat_inj] at hd he ⊢
  omega

theorem forall_ascii {p : Char → Prop} (h : ∀ n < 128, p (Char.ofNat n)) (hc : c.toNat < 128) : p c :=
  Char.ofNat_toNat c ▸ h c.toNat hc

theorem sameLetter_toUpper (hc : c.toNat < 128) : SameLetter c c.toUpper ∧ ¬ IsSmall c.toUpper :=
  forall_ascii (p := fun c => SameLetter c c.toUpper ∧ ¬ IsSmall c.toUpper) (by decide) hc

theorem sameLetter_toLower (hc : c.toNat < 128) : SameLetter c c.toLower ∧ ¬ IsCapital c.toLower :=
  forall_ascii (p := fun c => SameLetter c c.toLower ∧ ¬ IsCapital c.toLower) (by decide) hc

/-! ### Words that only their variants are mapped to -/

/-- The words of `plain` characters are safe with a case mapping: it takes an ASCII character to one character, whose
plain forms it decides, and a character beyond ASCII never to plain ones alone. -/
structure FoldsCase (f : Char → List Char) (plain : Char → Prop) : Prop where
  ascii_of_plain {d : Char} : plain d → d.toNat < 128
  ascii {c : Char} : c.toNat < 128 → ∃ d, f c = [d] ∧ ∀ e, plain e → (d = e ↔ SameLetter c e)
  beyond {c : Char} : 128 ≤ c.toNat → ∃ d ∈ f c, ¬ plain d

namespace FoldsCase

variable {f : Char → List Char} {plain : Char → Prop} {cs ds : List Char}

theorem eq_iff (h : FoldsCase f plain) (hds : ∀ d ∈ ds, plain d) :
    f c = ds ↔ ∃ d, ds = [d] ∧ SameLetter c d := by
  by_cases hc : c.toNat < 128
  · obtain ⟨d, hd, hplain⟩ := h.ascii hc
    rw [hd]
    constructor
    · rintro rfl
      exact ⟨d, rfl, (hplain d (hds d List.mem_cons_self)).1 rfl⟩
    · rintro ⟨e, rfl, he⟩
      rw [(hplain e (hds e List.mem_cons_self)).2 he]
  · obtain ⟨d, hd, hnot⟩ := h.beyond (Nat.not_lt.1 hc)
    refine iff_of_false ?_ ?_
    · rintro rfl
      exact hnot (hds d hd)
    · rintro ⟨e, rfl, he⟩
      exact hc (he.ascii (h.ascii_of_plain (hds e List.mem_cons_self)))

/-- A text is mapped to a plain word exactly if it is a case variant of the word. -/
theorem flatMap_eq_iff (h : FoldsCase f plain) (hds : ∀ d ∈ ds, plain d) :
    cs.flatMap f = ds ↔ List.Forall₂ SameLetter cs ds := by
  induction cs generalizing ds with
  | nil => rw [List.flatMap_nil, List.forall₂_nil_left_iff, eq_comm]
  | cons c cs ih =>
    rw [List.flatMap_cons, List.forall₂_cons_left_iff]
    constructor
    · rintro rfl
      obtain ⟨hhead, htail⟩ := List.forall_mem_append.1 hds
      obtain ⟨d, hd, hletter⟩ := (h.eq_iff hhead).1 rfl
      exact ⟨d, cs.flatMap f, hletter, (ih htail).1 rfl, by rw [hd, List.singleton_append]⟩
    · rintro ⟨d, ds, hletter, hrest, rfl⟩
      obtain ⟨hhead, htail⟩ := List.forall_mem_cons.1 hds
      have hd : f c = [d] := (h.eq_iff (List.forall_mem_singleton.2 hhead)).2 ⟨d, rfl, hletter⟩
      rw [hd, (ih htail).2 hrest, List.singleton_append]

/-- What has a character beyond ASCII is mapped to no plain word. -/
theorem flatMap_ne (h : FoldsCase f plain) (hds : ∀ d ∈ ds, plain d) (hcs : ∃ c ∈ cs, 128 ≤ c.toNat) :
    cs.flatMap f ≠ ds := by
  obtain ⟨c, hc, hbeyond⟩ := hcs
  obtain ⟨d, hd, hnot⟩ := h.beyond hbeyond
  rintro rfl
  exact hnot (hds d (List.mem_flatMap_of_mem hc hd))

end FoldsCase

/-! ### The tables -/

/-- All targets of the run are characters beyond ASCII. -/
def CaseRun.LeadsBeyond (r : CaseRun) : Prop :=
  128 ≤ r.target ∧ (r.target + (r.last - r.first) < 0xD800 ∨
    (0xDFFF < r.target ∧ r.target + (r.last - r.first) < 0x110000))

instance (r : CaseRun) : Decidable r.LeadsBeyond :=
  inferInstanceAs (Decidable (_ ∧ _))

private theorem toNat_ofNat_of_isValidChar {n : Nat} (h : n.isValidChar) : (Char.ofNat n).toNat = n := by
  have hchar : Char.ofNat n = Char.ofNatAux n h := dif_pos h
  rw [hchar]
  rfl

theorem CaseRun.LeadsBeyond.target {r : CaseRun} (h : r.LeadsBeyond) {k : Nat} (hk : k ≤ r.last - r.first) :
    128 ≤ (Char.ofNat (r.target + k)).toNat := by
  obtain ⟨htarget, hvalid⟩ := h
  have hchar : (r.target + k).isValidChar := by
    rcases hvalid with hbelow | ⟨habove, hend⟩
    · exact .inl (by omega)
    · exact .inr ⟨by omega, by omega⟩
  rw [toNat_ofNat_of_isValidChar hchar]
  omega

theorem exists_run_of_caseTarget? {runs : List CaseRun} {n m : Nat} (h : caseTarget? runs n = some m) :
    ∃ r ∈ runs, ∃ k ≤ r.last - r.first, m = r.target + k := by
  obtain ⟨r, hr, htarget⟩ := List.exists_of_findSome?_eq_some h
  split at htarget
  · next hrun =>
    cases htarget
    exact ⟨r, hr, n - r.first, by omega, rfl⟩
  · cases htarget

/-- Whether a mapping takes characters from beyond ASCII to plain words can be seen from its tables. -/
theorem exists_mem_mapCase {plain : Char → Prop} {expansions : List (Nat × List Nat)} {runs : List CaseRun}
    (hplain : ∀ d, plain d → d.toNat < 128)
    (hexpansions : ∀ entry ∈ expansions, ∃ code ∈ entry.2, ¬ plain (Char.ofNat code))
    (hruns : ∀ r ∈ runs, r.LeadsBeyond ∨ (r.last = r.first ∧ ¬ plain (Char.ofNat r.target)))
    (hc : 128 ≤ c.toNat) : ∃ d ∈ mapCase expansions runs c, ¬ plain d := by
  unfold mapCase
  cases hlookup : expansions.lookup c.toNat with
  | some codes =>
    obtain ⟨before, after, htable, -⟩ := List.lookup_eq_some_iff.1 hlookup
    obtain ⟨code, hcode, hnot⟩ := hexpansions (c.toNat, codes) (by simp [htable])
    exact ⟨Char.ofNat code, List.mem_map_of_mem hcode, hnot⟩
  | none =>
    refine ⟨_, List.mem_singleton_self _, ?_⟩
    cases htarget : caseTarget? runs c.toNat with
    | none => exact fun h => absurd (hplain c h) (Nat.not_lt.2 hc)
    | some m =>
      obtain ⟨r, hr, k, hk, rfl⟩ := exists_run_of_caseTarget? htarget
      rcases hruns r hr with hbeyond | ⟨hsingle, hnot⟩
      · exact fun h => absurd (hplain _ h) (Nat.not_lt.2 (hbeyond.target hk))
      · obtain rfl : k = 0 := by omega
        exact hnot

/-- An ASCII character that is no small letter, and none of the three capitals that characters beyond ASCII become. -/
def UpperPlain (d : Char) : Prop :=
  d.toNat < 128 ∧ ¬ IsSmall d ∧ d ∉ ['F', 'I', 'S']

/-- An ASCII character that is no capital, and not the small letter that the sign for kelvin becomes. -/
def LowerPlain (d : Char) : Prop :=
  d.toNat < 128 ∧ ¬ IsCapital d ∧ d ≠ 'k'

instance (d : Char) : Decidable (UpperPlain d) :=
  inferInstanceAs (Decidable (_ ∧ _))

instance (d : Char) : Decidable (LowerPlain d) :=
  inferInstanceAs (Decidable (_ ∧ _))

theorem foldsCase_upperChar : FoldsCase upperChar UpperPlain where
  ascii_of_plain h := h.1
  ascii hc := by
    obtain ⟨hletter, hcase⟩ := sameLetter_toUpper hc
    refine ⟨_, if_pos hc, fun e he => ⟨?_, fun h => hletter.eq_of_case h (.inl ⟨hcase, he.2.1⟩)⟩⟩
    rintro rfl
    exact hletter
  beyond hc := by
    have hmap : upperChar _ = mapCase upperExpansions upperRuns _ := if_neg (Nat.not_lt.2 hc)
    rw [hmap]
    exact exists_mem_mapCase (fun d h => h.1) (by decide +kernel) (by decide +kernel) hc

theorem foldsCase_lowerChar : FoldsCase lowerChar LowerPlain where
  ascii_of_plain h := h.1
  ascii hc := by
    obtain ⟨hletter, hcase⟩ := sameLetter_toLower hc
    refine ⟨_, if_pos hc, fun e he => ⟨?_, fun h => hletter.eq_of_case h (.inr ⟨hcase, he.2.1⟩)⟩⟩
    rintro rfl
    exact hletter
  beyond hc := by
    have hmap : lowerChar _ = mapCase lowerExpansions lowerRuns _ := if_neg (Nat.not_lt.2 hc)
    rw [hmap]
    exact exists_mem_mapCase (fun d h => h.1) (by decide +kernel) (by decide +kernel) hc

/-! ### Texts -/

/-- The text has such characters only. -/
def Consists (plain : Char → Prop) (s : String) : Prop :=
  ∀ c ∈ s.toList, plain c

-- Given by name, since the instance that goes through all characters may be found first.
instance (plain : Char → Prop) [DecidablePred plain] (s : String) : Decidable (Consists plain s) :=
  List.decidableBAll _ s.toList

/-- Some character of the text lies beyond ASCII. -/
def NotAscii (s : String) : Prop :=
  ∃ c ∈ s.toList, 128 ≤ c.toNat

variable {s t w : String}

theorem upper_eq_iff (hw : Consists UpperPlain w) : upper s = w ↔ SameButCase s w := by
  rw [← String.toList_inj, toList_upper]
  exact foldsCase_upperChar.flatMap_eq_iff hw

theorem lower_eq_iff (hw : Consists LowerPlain w) : lower s = w ↔ SameButCase s w := by
  rw [← String.toList_inj, toList_lower]
  exact foldsCase_lowerChar.flatMap_eq_iff hw

-- The three capitals cannot be allowed: here the first letter is a dotless one.
example : upper "\u0131nteger" = "INTEGER" ∧ ¬ SameButCase "\u0131nteger" "INTEGER" := by decide +kernel

theorem NotAscii.upper_ne (h : NotAscii s) (hw : Consists UpperPlain w) : upper s ≠ w := by
  rw [ne_eq, ← String.toList_inj, toList_upper]
  exact foldsCase_upperChar.flatMap_ne hw h

theorem NotAscii.lower_ne (h : NotAscii s) (hw : Consists LowerPlain w) : lower s ≠ w := by
  rw [ne_eq, ← String.toList_inj, toList_lower]
  exact foldsCase_lowerChar.flatMap_ne hw h

/-- The second text is the first, but small sigmas may have their final form. -/
def SigmaForm (s t : String) : Prop :=
  List.Forall₂ (fun c d => d = c ∨ (c = 'σ' ∧ d = 'ς')) s.toList t.toList

instance (s t : String) : Decidable (SigmaForm s t) :=
  inferInstanceAs (Decidable (List.Forall₂ _ _ _))

/-- The form of sigmas makes no difference to an ASCII word. -/
private theorem eq_iff_of_sigmas {cs ds ws : List Char}
    (h : List.Forall₂ (fun c d => d = c ∨ (c = 'σ' ∧ d = 'ς')) cs ds) (hws : ∀ c ∈ ws, c.toNat < 128) :
    ds = ws ↔ cs = ws := by
  induction h generalizing ws with
  | nil => rfl
  | cons hcd _ ih =>
    cases ws with
    | nil => exact iff_of_false (List.cons_ne_nil _ _) (List.cons_ne_nil _ _)
    | cons w ws =>
      obtain ⟨hw, hws⟩ := List.forall_mem_cons.1 hws
      rw [List.cons.injEq, List.cons.injEq, ih hws]
      rcases hcd with rfl | ⟨rfl, rfl⟩
      · rfl
      · have hsigma : w ≠ 'σ' ∧ w ≠ 'ς' := by
          constructor <;> (rintro rfl; exact absurd hw (by decide))
        exact iff_of_false (fun h => hsigma.2 h.1.symm) (fun h => hsigma.1 h.1.symm)

theorem SigmaForm.mem_iff {words : List String} (h : SigmaForm s t)
    (hwords : ∀ w ∈ words, Consists (·.toNat < 128) w) : t ∈ words ↔ s ∈ words := by
  have heq : ∀ w ∈ words, t = w ↔ s = w := fun w hw => by
    rw [← String.toList_inj, ← String.toList_inj]
    exact eq_iff_of_sigmas h (hwords w hw)
  constructor
  · intro ht
    rwa [(heq t ht).1 rfl]
  · intro hs
    rwa [(heq s hs).2 rfl]

end ParamQuery.Text
