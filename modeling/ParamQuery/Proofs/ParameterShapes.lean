import ParamQuery.Proofs.RequestTexts

/-!
# Parameters of the wrong shape

Six parameters are looked at as texts (`textParameters`).  A request is refused as unsupported exactly if one of
them is neither missing nor a text nor a sequence of texts, whatever else is wrong with it, and the report names the
kind of the first part that is to blame (`unsupported_iff_firstOffender`).  No other parameter has a say in it.
-/

namespace ParamQuery

/-- A pass that may fail fails at the first item where it does. -/
theorem mapM_eq_error_iff {α β ε : Type} {f : α → Except ε β} {as : List α} {e : ε} :
    as.mapM f = .error e ↔
      ∃ before a after, as = before ++ a :: after ∧ (∀ x ∈ before, ∃ b, f x = .ok b) ∧ f a = .error e := by
  induction as with
  | nil => simp [pure, Except.pure]
  | cons a as ih =>
    rw [List.mapM_cons]
    simp only [List.cons_eq_append_iff]
    cases ha : f a with
    | error e' =>
      constructor
      · intro h
        cases h
        exact ⟨[], a, as, .inl ⟨rfl, rfl⟩, by simp, ha⟩
      · rintro ⟨before, x, after, ⟨rfl, hx⟩ | ⟨before', rfl, -⟩, hbefore, he⟩
        · cases hx
          rw [ha] at he
          cases he
          rfl
        · obtain ⟨b, hb⟩ := hbefore a List.mem_cons_self
          rw [ha] at hb
          cases hb
    | ok b =>
      have hrest : (do let b ← Except.ok b; let bs ← as.mapM f; pure (b :: bs)) = .error e ↔
          as.mapM f = .error e := by
        cases as.mapM f <;> simp [bind, Except.bind, pure, Except.pure]
      rw [hrest, ih]
      constructor
      · rintro ⟨before, x, after, hsplit, hbefore, he⟩
        refine ⟨a :: before, x, after, .inr ⟨before, rfl, hsplit⟩, ?_, he⟩
        exact List.forall_mem_cons.2 ⟨⟨b, ha⟩, hbefore⟩
      · rintro ⟨before, x, after, ⟨rfl, hx⟩ | ⟨before', rfl, hsplit⟩, hbefore, he⟩
        · cases hx
          rw [ha] at he
          cases he
        · exact ⟨before', x, after, hsplit, (List.forall_mem_cons.1 hbefore).2, he⟩

/-- A value that should be a text or a sequence of texts has a part that is no text, and this is the first one. -/
inductive Offends : RawValue → RawValue → Prop
  | list {before after : List RawValue} {part : RawValue} (hbefore : ∀ v ∈ before, v.kind = .text)
      (hpart : part.kind ≠ .text) : Offends (.list (before ++ part :: after)) part
  | tuple {before after : List RawValue} {part : RawValue} (hbefore : ∀ v ∈ before, v.kind = .text)
      (hpart : part.kind ≠ .text) : Offends (.tuple (before ++ part :: after)) part
  | whole {value : RawValue} (hvalue : value.kind ∉ [.null, .text, .list, .tuple]) : Offends value value

namespace RawValue

theorem exists_text?_eq_ok_iff {value : RawValue} : (∃ s, value.text? = .ok s) ↔ value.kind = .text := by
  cases value <;> simp [text?, kind]

theorem text?_eq_error_iff {value : RawValue} {fault : Fault} :
    value.text? = .error fault ↔ value.kind ≠ .text ∧ fault = .unsupportedInput value.kind := by
  cases value <;> simp [text?, kind, eq_comm]

private theorem mapM_text?_eq_error_iff {items : List RawValue} {fault : Fault} :
    items.mapM text? = .error fault ↔ ∃ before part after, items = before ++ part :: after ∧
      (∀ v ∈ before, v.kind = .text) ∧ part.kind ≠ .text ∧ fault = .unsupportedInput part.kind := by
  simp only [mapM_eq_error_iff, exists_text?_eq_ok_iff, text?_eq_error_iff]

theorem texts_eq_error_iff {value : RawValue} {fault : Fault} :
    value.texts = .error fault ↔ ∃ part, Offends value part ∧ fault = .unsupportedInput part.kind := by
  constructor
  · intro h
    cases value with
    | null => cases h
    | text s => cases h
    | list items =>
      obtain ⟨before, part, after, rfl, hbefore, hpart, hfault⟩ := mapM_text?_eq_error_iff.1 h
      exact ⟨part, .list hbefore hpart, hfault⟩
    | tuple items =>
      obtain ⟨before, part, after, rfl, hbefore, hpart, hfault⟩ := mapM_text?_eq_error_iff.1 h
      exact ⟨part, .tuple hbefore hpart, hfault⟩
    | bool b => exact ⟨_, .whole (by simp [kind]), (Except.error.inj h).symm⟩
    | int n => exact ⟨_, .whole (by simp [kind]), (Except.error.inj h).symm⟩
    | float x => exact ⟨_, .whole (by simp [kind]), (Except.error.inj h).symm⟩
    | map entries => exact ⟨_, .whole (by simp [kind]), (Except.error.inj h).symm⟩
    | bytes octets => exact ⟨_, .whole (by simp [kind]), (Except.error.inj h).symm⟩
    | other className => exact ⟨_, .whole (by simp [kind]), (Except.error.inj h).symm⟩
  · rintro ⟨part, hoffends, rfl⟩
    cases hoffends with
    | list hbefore hpart => exact mapM_text?_eq_error_iff.2 ⟨_, part, _, rfl, hbefore, hpart, rfl⟩
    | tuple hbefore hpart => exact mapM_text?_eq_error_iff.2 ⟨_, part, _, rfl, hbefore, hpart, rfl⟩
    | whole hvalue => cases value <;> simp_all [kind, texts, text?, Except.map]

end RawValue

/-- The parameters that are looked at as texts, in order. -/
def textParameters : List String :=
  ["fields", "whereAnd", "where", "whereOr", "whereJoin", "orderBy"]

/-- The first part that is to blame, in the first parameter of the wrong shape. -/
def Params.FirstOffender (params : Params) (part : RawValue) : Prop :=
  ∃ before key after, textParameters = before ++ key :: after ∧
    (∀ earlier ∈ before, ∃ texts, HasTexts (params.get earlier) texts) ∧ Offends (params.get key) part

theorem Params.FirstOffender.congr {params params' : Params} {part : RawValue}
    (h : ∀ key ∈ textParameters, params'.get key = params.get key) (hpart : params.FirstOffender part) :
    params'.FirstOffender part := by
  obtain ⟨before, key, after, hsplit, hbefore, hoffends⟩ := hpart
  have hkeys : ∀ k ∈ before ++ key :: after, params'.get k = params.get k := hsplit ▸ h
  refine ⟨before, key, after, hsplit, ?_, ?_⟩
  · intro earlier hearlier
    rw [hkeys earlier (List.mem_append_left _ hearlier)]
    exact hbefore earlier hearlier
  · rw [hkeys key (List.mem_append_right _ List.mem_cons_self)]
    exact hoffends

theorem Params.texts_eq_error_iff {params : Params} {fault : Fault} :
    params.texts = .error fault ↔ ∃ part, params.FirstOffender part ∧ fault = .unsupportedInput part.kind := by
  have hpass : params.texts = .error fault ↔
      textParameters.mapM (fun key => (params.get key).texts) = .error fault := by
    simp only [Params.texts, textParameters, List.mapM_cons, List.mapM_nil, bind_eq_error_iff, pure, Except.pure,
      reduceCtorEq, and_false, exists_false, or_false]
  rw [hpass, mapM_eq_error_iff]
  simp only [RawValue.texts_eq_ok_iff, RawValue.texts_eq_error_iff, FirstOffender]
  constructor
  · rintro ⟨before, key, after, hsplit, hbefore, part, hpart, hfault⟩
    exact ⟨part, ⟨before, key, after, hsplit, hbefore, hpart⟩, hfault⟩
  · rintro ⟨part, ⟨before, key, after, hsplit, hbefore, hpart⟩, hfault⟩
    exact ⟨before, key, after, hsplit, hbefore, part, hpart, hfault⟩

theorem Params.exists_texts_eq_error_iff {params : Params} :
    (∃ fault, params.texts = .error fault) ↔
      ∃ key ∈ textParameters, ¬ ∃ texts, HasTexts (params.get key) texts := by
  have hok : (∃ t, params.texts = .ok t) ↔ ∀ key ∈ textParameters, ∃ texts, HasTexts (params.get key) texts := by
    simp only [texts_eq_ok_iff, textParameters, List.forall_mem_cons, List.not_mem_nil, false_imp_iff, implies_true,
      and_true]
    constructor
    · rintro ⟨t, h⟩
      exact ⟨⟨_, h.fields⟩, ⟨_, h.whereAnd⟩, ⟨_, h.plain⟩, ⟨_, h.whereOr⟩, ⟨_, h.join⟩, ⟨_, h.order⟩⟩
    · rintro ⟨⟨_, hfields⟩, ⟨_, hand⟩, ⟨_, hplain⟩, ⟨_, hor⟩, ⟨_, hjoin⟩, ⟨_, horder⟩⟩
      exact ⟨⟨_, _, _, _, _, _⟩, hfields, hand, hplain, hor, hjoin, horder⟩
  have hexclusive : (∃ fault, params.texts = .error fault) ↔ ¬ ∃ t, params.texts = .ok t := by
    cases params.texts <;> simp
  rw [hexclusive, hok]
  simp only [not_forall, exists_prop]

/-- There is a first part to blame exactly if a parameter has no texts. -/
theorem Params.exists_firstOffender_iff {params : Params} :
    (∃ part, params.FirstOffender part) ↔
      ∃ key ∈ textParameters, ¬ ∃ texts, HasTexts (params.get key) texts := by
  rw [← exists_texts_eq_error_iff]
  simp only [texts_eq_error_iff]
  exact ⟨fun ⟨part, hpart⟩ => ⟨_, part, hpart, rfl⟩, fun ⟨_, part, hpart, _⟩ => ⟨part, hpart⟩⟩

theorem Fault.report?_unsupportedInput (kind : Kind) :
    (unsupportedInput kind).report? = some ⟨.unsupportedInput, "unsupported query parameter type",
      "unexpected query parameter type: " ++ kind.name, none, none⟩ := by
  have hdetail : "unexpected query parameter type: " ++ kind.name ≠ "" := by simp
  simp only [report?, Report.plain, if_neg hdetail]

/-- No other fault is reported as an unsupported parameter. -/
theorem Fault.report?_unsupported_iff {fault : Fault} {report : Report} :
    fault.report? = some report ∧ report.category = .unsupportedInput ↔
      ∃ kind, fault = .unsupportedInput kind ∧ report = ⟨.unsupportedInput, "unsupported query parameter type",
        "unexpected query parameter type: " ++ kind.name, none, none⟩ := by
  constructor
  · rintro ⟨hreport, hcategory⟩
    cases fault with
    | unknownDataType label =>
      cases hreport
      cases hcategory
    | invalidQuery problems =>
      simp only [report?, Report.ofIssues?] at hreport
      split at hreport
      · cases hreport
      · cases hreport
        cases hcategory
    | numeralTooLong => cases hreport
    | unsupportedInput kind =>
      rw [report?_unsupportedInput] at hreport
      exact ⟨kind, rfl, (Option.some.inj hreport).symm⟩
  · rintro ⟨kind, rfl, rfl⟩
    exact ⟨report?_unsupportedInput kind, rfl⟩

theorem compile_eq_unsupported_iff {reg : Registry} {limits : Limits} {params : Params} {kind : Kind} :
    compile reg limits params = .error (.unsupportedInput kind) ↔
      ∃ part, params.FirstOffender part ∧ part.kind = kind := by
  have hshape : compile reg limits params = .error (.unsupportedInput kind) ↔
      params.texts = .error (.unsupportedInput kind) := by
    rw [compile_eq, bind_eq_error_iff]
    refine or_iff_left ?_
    -- Past the shapes there are other faults only.
    rintro ⟨t, -, h⟩
    split at h
    · cases Query.eq_numeralTooLong_of_statement h
    · cases h
  rw [hshape, Params.texts_eq_error_iff]
  simp only [Fault.unsupportedInput.injEq, eq_comm]

/-- What is reported of unsupported parameters. -/
theorem reports_unsupported_iff (reg : Registry) (limits : Limits) (params : Params) (report : Report) :
    (∃ fault, compile reg limits params = .error fault ∧ fault.report? = some report ∧
        report.category = .unsupportedInput) ↔
      ∃ part, params.FirstOffender part ∧ report = ⟨.unsupportedInput, "unsupported query parameter type",
        "unexpected query parameter type: " ++ part.kind.name, none, none⟩ := by
  simp only [Fault.report?_unsupported_iff]
  constructor
  · rintro ⟨fault, hfault, kind, rfl, rfl⟩
    obtain ⟨part, hpart, rfl⟩ := compile_eq_unsupported_iff.1 hfault
    exact ⟨part, hpart, rfl⟩
  · rintro ⟨part, hpart, rfl⟩
    exact ⟨_, compile_eq_unsupported_iff.2 ⟨part, hpart, rfl⟩, _, rfl, rfl⟩

/-- Ill-shaped parameters are refused whatever else is wrong, with the first part that is to blame, and nothing but
the six parameters decides about it. -/
theorem unsupported_iff_firstOffender (reg : Registry) (limits : Limits) (params : Params) :
    ((∃ fault report, compile reg limits params = .error fault ∧ fault.report? = some report ∧
        report.category = .unsupportedInput) ↔
      ∃ key ∈ textParameters, ¬ ∃ texts, HasTexts (params.get key) texts) ∧
    (∀ report, (∃ fault, compile reg limits params = .error fault ∧ fault.report? = some report ∧
        report.category = .unsupportedInput) ↔
      ∃ part, params.FirstOffender part ∧ report = ⟨.unsupportedInput, "unsupported query parameter type",
        "unexpected query parameter type: " ++ part.kind.name, none, none⟩) ∧
    ∀ (reg' : Registry) (limits' : Limits) (params' : Params),
      (∀ key ∈ textParameters, params'.get key = params.get key) →
      ∀ kind, compile reg' limits' params' = .error (.unsupportedInput kind) ↔
        compile reg limits params = .error (.unsupportedInput kind) := by
  refine ⟨?_, reports_unsupported_iff reg limits params, ?_⟩
  · rw [exists_comm, ← Params.exists_firstOffender_iff]
    simp only [reports_unsupported_iff]
    exact ⟨fun ⟨_, part, hpart, _⟩ => ⟨part, hpart⟩, fun ⟨part, hpart⟩ => ⟨_, part, hpart, rfl⟩⟩
  · intro reg' limits' params' hsame kind
    have hoffender : ∀ part, params'.FirstOffender part ↔ params.FirstOffender part := fun part =>
      ⟨.congr fun key hkey => (hsame key hkey).symm, .congr hsame⟩
    simp only [compile_eq_unsupported_iff, hoffender]

end ParamQuery
