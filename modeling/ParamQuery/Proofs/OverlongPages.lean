import ParamQuery.Proofs.DateText.AnyTime
import ParamQuery.Proofs.PageValues
import ParamQuery.Proofs.ProblemList
import ParamQuery.Proofs.Registrations
import ParamQuery.Proofs.StatementForm

/-!
# Pages that cannot be written

A request with which nothing is wrong has a statement for its page, unless a number of the page has more digits than can
be written (`statement_unless_tooLong`).  Texts ask for no such number, so it comes from an integer that was given: the
offset, or the greatest page size where no smaller one is asked for.

The values of such a request are converted without failure, whenever that is (`RequestTexts.ConvertsAtAnyTime`), so that
nothing but its page can keep it from having a statement.
-/

namespace ParamQuery

namespace Number

/-- The integer has too many digits to be written, and no minus. -/
def TooLong (n : Int) : Prop :=
  (Nat.pow 10 maxDigits : Nat) ≤ n

theorem Writable.not_tooLong {n : Int} (h : Writable n) : ¬ TooLong n := by
  have hlt := writable_iff.1 h
  unfold TooLong
  generalize Nat.pow 10 maxDigits = bound at *
  omega

theorem writable_iff_not_tooLong {n : Int} (hn : 0 ≤ n) : Writable n ↔ ¬ TooLong n := by
  rw [writable_iff]
  unfold TooLong
  generalize Nat.pow 10 maxDigits = bound
  omega

theorem tooLong_max {m n : Int} : TooLong (max m n) ↔ TooLong m ∨ TooLong n := by
  unfold TooLong
  omega

theorem tooLong_min {m n : Int} : TooLong (min m n) ↔ TooLong m ∧ TooLong n := by
  unfold TooLong
  omega

theorem tooLong_getD {n? : Option Int} {default : Int} :
    TooLong (n?.getD default) ↔ (∃ n, n? = some n ∧ TooLong n) ∨ n? = none ∧ TooLong default := by
  cases n? <;> simp

theorem intText?_eq_none {n : Int} (h : ¬ Writable n) : intText? n = none := by
  rw [writable_iff, Nat.not_lt] at h
  exact if_pos h

end Number

open Number (TooLong Writable)

namespace RawValue

/-- The value is an integer that is too long. -/
def IsTooLong (value : RawValue) : Prop :=
  ∃ n, value = .int n ∧ TooLong n

/-- What a text asks for can be written, so only an integer asks for too much. -/
theorem exists_asked?_tooLong_iff {value : RawValue} :
    (∃ n, value.asked? = some n ∧ TooLong n) ↔ value.IsTooLong := by
  unfold IsTooLong
  cases value with
  | text s =>
    have hnone : ∀ n, Number.leadingInt s = some n → ¬ TooLong n :=
      fun n hn => (Number.writable_of_leadingInt hn).not_tooLong
    simpa [asked?] using hnone
  | _ => simp [asked?]

end RawValue

namespace Limits

theorem tooLong_offset_iff {value : RawValue} : TooLong (offset value) ↔ value.IsTooLong := by
  have hzero : ¬ TooLong 0 := Writable.not_tooLong (by decide)
  rw [offset_eq, Number.tooLong_max, Number.tooLong_getD, RawValue.exists_asked?_tooLong_iff]
  simp [hzero]

theorem tooLong_ceilingOf_iff {greatest : Ceiling} : TooLong (ceilingOf greatest) ↔ TooLong greatest.count := by
  have hone : ¬ TooLong 1 := Writable.not_tooLong (by decide)
  have hstandard : ¬ TooLong 20 := Writable.not_tooLong (by decide)
  have hzero : ¬ TooLong 0 := Writable.not_tooLong (by decide)
  unfold ceilingOf standard
  by_cases hcount : greatest.count = 0 <;> simp [hcount, Number.tooLong_max, hone, hstandard, hzero]

/-- The page size is too long if the ceiling is, and no smaller one is asked for or is the usual one. -/
theorem tooLong_limit_iff {greatest : Ceiling} {usual value : RawValue} :
    TooLong ((ofRaw greatest usual).limit value) ↔ TooLong greatest.count ∧
      (value.IsTooLong ∨ value.asked? = none ∧ (usual.IsTooLong ∨ usual.asked? = none)) := by
  have hone : ¬ TooLong 1 := Writable.not_tooLong (by decide)
  have hceiling : TooLong (ofRaw greatest usual).ceiling ↔ TooLong greatest.count := tooLong_ceilingOf_iff
  have husual : TooLong (ofRaw greatest usual).usual ↔
      TooLong greatest.count ∧ (usual.IsTooLong ∨ usual.asked? = none ∧ TooLong greatest.count) := by
    rw [usual_ofRaw, Number.tooLong_min, Number.tooLong_max, Number.tooLong_getD,
      RawValue.exists_asked?_tooLong_iff, tooLong_ceilingOf_iff]
    simp [hone]
  rw [limit_eq (valid_ofRaw greatest usual), Number.tooLong_min, Number.tooLong_max, Number.tooLong_getD,
    RawValue.exists_asked?_tooLong_iff, hceiling, husual]
  simp only [hone, false_or]
  constructor
  · rintro ⟨hgreatest, hvalue | ⟨hnone, -, husual | ⟨husual, -⟩⟩⟩
    · exact ⟨hgreatest, .inl hvalue⟩
    · exact ⟨hgreatest, .inr ⟨hnone, .inl husual⟩⟩
    · exact ⟨hgreatest, .inr ⟨hnone, .inr husual⟩⟩
  · rintro ⟨hgreatest, hvalue | ⟨hnone, husual | husual⟩⟩
    · exact ⟨hgreatest, .inl hvalue⟩
    · exact ⟨hgreatest, .inr ⟨hnone, hgreatest, .inl husual⟩⟩
    · exact ⟨hgreatest, .inr ⟨hnone, hgreatest, .inr ⟨husual, hgreatest⟩⟩⟩

end Limits

/-- A number of the page is too long: the offset, or the page size, which is so only below a ceiling that is too long
as well, if that much is asked for or nothing is, and the usual size is no smaller one. -/
def Params.PageTooLong (greatest : Ceiling) (usual : RawValue) (params : Params) : Prop :=
  (params.get "offset").IsTooLong ∨ TooLong greatest.count ∧
    ((params.get "limit").IsTooLong ∨ (params.get "limit").asked? = none ∧ (usual.IsTooLong ∨ usual.asked? = none))

theorem Params.pageTooLong_iff {greatest : Ceiling} {usual : RawValue} {params : Params} :
    params.PageTooLong greatest usual ↔ ¬ (Writable (Limits.offset (params.get "offset")) ∧
      Writable ((Limits.ofRaw greatest usual).limit (params.get "limit"))) := by
  have hoffset := Limits.offset_nonneg (params.get "offset")
  have hlimit := (Limits.limit_mem (Limits.valid_ofRaw greatest usual) (params.get "limit")).1
  rw [Number.writable_iff_not_tooLong hoffset, Number.writable_iff_not_tooLong (by omega),
    Limits.tooLong_offset_iff, Limits.tooLong_limit_iff, ← not_or, Classical.not_not]
  rfl

/-- A value that is no problem is the one that its text is converted to at every time, and nothing is noted. -/
theorem Comparison.convertNoting_of_problem? {reg : Registry} {c : Comparison} {type : DataType}
    (hnull : isNullWord c.value = false) (htype : reg.type? c.field = some type) (h : c.problem? reg = none)
    (clock? : Option DateText.Clock) (noted : List Problem) :
    type.convertNoting clock? c.field c.value noted = (noted, .ok (some (c.bind reg).value)) := by
  have hbind : c.bind reg = c.bindValue (some type) := by
    rw [Comparison.bind, hnull, htype]
    rfl
  simp only [problem?, hnull, htype, Bool.false_eq_true, ↓reduceIte] at h
  cases hvalue : type.convert? c.value with
  | none => simp [hvalue] at h
  | some value =>
    have hconvert : type.convert c.field c.value = (some value, []) := by rw [DataType.convert, hvalue]
    have hbound : (c.bind reg).value = value := by rw [hbind, bindValue, hconvert]; rfl
    rw [hbound]
    exact DataType.convertNoting_of_convert hconvert clock? noted

/-- Whenever the value of an accepted comparison is converted, that does not fail, and gives the value that is bound. -/
def RequestTexts.ConvertsAtAnyTime (t : RequestTexts) (reg : Registry) : Prop :=
  ∀ c ∈ t.comparisons reg, isNullWord c.value = false → ∀ type, reg.type? c.field = some type →
    ∀ (clock? : Option DateText.Clock) (noted : List Problem),
      type.convertNoting clock? c.field c.value noted = (noted, .ok (some (c.bind reg).value))

theorem RequestTexts.convertsAtAnyTime {t : RequestTexts} {reg : Registry} (h : t.listedProblems reg = []) :
    t.ConvertsAtAnyTime reg := by
  intro c hc hnull type htype clock? noted
  obtain ⟨token, htoken, haccepted⟩ := List.mem_filterMap.1 hc
  have hnone := List.filterMap_eq_nil_iff.1 (List.append_eq_nil_iff.1 h).2 token htoken
  rw [haccepted, Option.bind_some] at hnone
  exact Comparison.convertNoting_of_problem? hnull htype hnone clock? noted

theorem Query.statement_of_not_writable {q : Query} (h : ¬ (Writable q.offset ∧ Writable q.limit)) :
    q.statement = .error .numeralTooLong := by
  have hpage : Statement.limitText? q.offset q.limit = none := by
    unfold Statement.limitText?
    by_cases hoffset : Writable q.offset
    · have hlimit : ¬ Writable q.limit := fun hlimit => h ⟨hoffset, hlimit⟩
      rw [Number.intText?_of_writable hoffset, Number.intText?_eq_none hlimit]
      rfl
    · rw [Number.intText?_eq_none hoffset]
      rfl
  unfold statement Statement.ofParts
  rw [hpage]

theorem Query.exists_statement_page {q : Query} (hoffset : Writable q.offset) (hlimit : Writable q.limit) :
    ∃ s, q.statement = .ok s ∧ s.offset = q.offset ∧ s.limit = q.limit ∧
      s.limitClause = "LIMIT " ++ toString q.offset ++ "," ++ toString q.limit := by
  obtain ⟨s, hs⟩ := Query.exists_statement hoffset hlimit
  obtain ⟨page, hpage, rfl⟩ := Query.statement_eq_ok_iff.1 hs
  exact ⟨_, hs, rfl, rfl, Statement.limitText?_eq_some hpage⟩

section

variable {greatest : Ceiling} {usual : RawValue} {params : Params} {t : RequestTexts} {reg : Registry}

theorem Params.HaveTexts.compile_of_pageTooLong (ht : params.HaveTexts t) (hvalid : t.listedProblems reg = [])
    (h : params.PageTooLong greatest usual) :
    compile reg (.ofRaw greatest usual) params = .error .numeralTooLong := by
  rw [ht.compile_eq, t.problems_eq_listedProblems, if_pos hvalid]
  exact Query.statement_of_not_writable (Params.pageTooLong_iff.1 h)

/-- The values of a request with which nothing is wrong are converted without failure at every time.  It has the
statement of its page, unless a number of the page is too long.  Then it fails, and there is no report on it.

A date text that depends on the day, or that the arithmetic breaks down on, counts as a problem of the request
(`DataType.convert`), so that nothing is said here of a request with one. -/
theorem statement_unless_tooLong (ht : params.HaveTexts t) (hvalid : t.listedProblems reg = []) :
    let limits := Limits.ofRaw greatest usual
    let offset := Limits.offset (params.get "offset")
    let limit := limits.limit (params.get "limit")
    t.ConvertsAtAnyTime reg ∧
    (¬ params.PageTooLong greatest usual → ∃ s, compile reg limits params = .ok s ∧ s.offset = offset ∧
      s.limit = limit ∧ s.limitClause = "LIMIT " ++ toString offset ++ "," ++ toString limit) ∧
    (params.PageTooLong greatest usual →
      compile reg limits params = .error .numeralTooLong ∧ Fault.numeralTooLong.report? = none) := by
  intro limits offset limit
  refine ⟨RequestTexts.convertsAtAnyTime hvalid, fun hpage => ?written, fun hpage => ?tooLong⟩
  case written =>
    rw [Params.pageTooLong_iff, Classical.not_not] at hpage
    rw [ht.compile_eq, t.problems_eq_listedProblems, if_pos hvalid]
    exact Query.exists_statement_page hpage.1 hpage.2
  case tooLong => exact ⟨ht.compile_of_pageTooLong hvalid hpage, rfl⟩

end

/-- The greatest offset that can be written, and a small page below a ceiling that cannot be. -/
theorem statement_unless_tooLong_people :
    ∃ (n : Int) (params : Params) (t : RequestTexts) (s : Statement BoundValue),
      n = (Nat.pow 10 Number.maxDigits : Nat) - 1 ∧
      params = [("offset", .int n), ("limit", .text "7"), ("where", .text "age>=21")] ∧ params.HaveTexts t ∧
      t.listedProblems people = [] ∧ ¬ params.PageTooLong (.int (n + 1)) .null ∧
      compile people (.ofRaw (.int (n + 1)) .null) params = .ok s ∧
      s.limitClause = "LIMIT " ++ toString n ++ "," ++ toString (7 : Int) := by
  obtain ⟨n, hn⟩ : ∃ n : Int, n = (Nat.pow 10 Number.maxDigits : Nat) - 1 := ⟨_, rfl⟩
  have hbound : (20 : Int).natAbs < Nat.pow 10 Number.maxDigits := Number.writable_iff.1 (by decide)
  have hlong : ∀ m, TooLong m ↔ n < m := by
    intro m
    unfold TooLong
    omega
  let params : Params := [("offset", .int n), ("limit", .text "7"), ("where", .text "age>=21")]
  let t : RequestTexts := ⟨[], [], ["age>=21"], [], [], []⟩
  have ht : params.HaveTexts t := ⟨.null, .null, .text "age>=21", .null, .null, .null⟩
  have hvalid : t.listedProblems people = [] := by decide +kernel
  have hseven : Number.leadingInt "7" = some 7 := by decide
  have hshort : ¬ params.PageTooLong (.int (n + 1)) .null := by
    rintro (⟨m, hm, htoo⟩ | ⟨-, ⟨m, hm, -⟩ | ⟨hnone, -⟩⟩)
    · obtain rfl : n = m := RawValue.int.inj hm
      exact absurd ((hlong n).1 htoo) (by omega)
    · cases hm
    · exact absurd (hseven.symm.trans hnone) (by decide)
  obtain ⟨s, hs, -, -, hpage⟩ := (statement_unless_tooLong ht hvalid).2.1 hshort
  have hoffset : Limits.offset (params.get "offset") = n := by
    show max 0 n = n
    omega
  have hlimit : (Limits.ofRaw (.int (n + 1)) .null).limit (params.get "limit") = 7 := by
    have hceiling : (Limits.ofRaw (.int (n + 1)) .null).ceiling = max 1 (n + 1) :=
      (Limits.ceilingOf_eq _).trans (if_neg (by show ¬ n + 1 = 0; omega))
    have hasked : (params.get "limit").asked? = some 7 := hseven
    rw [Limits.limit_eq (Limits.valid_ofRaw _ _), hceiling, hasked, Option.getD_some]
    omega
  rw [hoffset, hlimit] at hpage
  exact ⟨n, params, t, s, hn, rfl, ht, hvalid, hshort, hs, hpage⟩

/-- The least offset that is too long, asked of a registry with one field. -/
theorem compile_tooLong_offset :
    ∃ (reg : Registry) (params : Params) (t : RequestTexts),
      Registry.ofRegistrations [⟨some "id", false, false, false, none⟩] = .ok reg ∧
      params = [("offset", .int (Nat.pow 10 Number.maxDigits : Nat))] ∧
      params.HaveTexts t ∧ t.listedProblems reg = [] ∧
      (∀ s, compile reg (.ofRaw .unset .null) params ≠ .ok s) ∧
      compile reg (.ofRaw .unset .null) params = .error .numeralTooLong ∧
      Fault.numeralTooLong.report? = none := by
  let reg := Registry.ofHistory [⟨some "id", false, false, false, none⟩]
  let params : Params := [("offset", .int (Nat.pow 10 Number.maxDigits : Nat))]
  let t : RequestTexts := ⟨[], [], [], [], [], []⟩
  have ht : params.HaveTexts t := ⟨.null, .null, .null, .null, .null, .null⟩
  have hvalid : t.listedProblems reg = [] := by decide +kernel
  have hlong : params.PageTooLong .unset .null := .inl ⟨_, rfl, Int.le_refl _⟩
  have hfault := ht.compile_of_pageTooLong hvalid hlong
  refine ⟨reg, params, t, rfl, rfl, ht, hvalid, ?_, hfault, rfl⟩
  intro s hs
  rw [hfault] at hs
  cases hs

end ParamQuery
