import ParamQuery.Proofs.Number.IntTexts
import ParamQuery.Proofs.PageBounds
import ParamQuery.Proofs.RequestTexts

/-!
# The page of a request

A request asks for an offset and a page size with an integer or with a text that starts with one (`asked?`).  Its page
has these numbers, moved to the nearest ones that are allowed, and the usual ones where nothing is asked for
(`RawValue.bounded_eq`).  So the usual page size is itself one that is allowed, whatever was configured, and an
integer may as well be given in decimal (`page_of_compile`).
-/

namespace ParamQuery

namespace RawValue

/-- The integer that a value asks for: the value itself, or the one at the start of a text. -/
def asked? : RawValue → Option Int
  | .int n => some n
  | .text s => Number.leadingInt s
  | _ => none

/-- With a default within the bounds, all values are treated alike. -/
theorem bounded_eq {default minimum maximum : Int} (hmin : minimum ≤ default) (hmax : default ≤ maximum)
    (value : RawValue) : value.bounded default minimum (some maximum) =
      min maximum (max minimum (value.asked?.getD default)) := by
  have hclamp : ∀ n, clamp minimum (some maximum) n = min maximum (max minimum n) := fun n => Int.min_comm _ _
  have hdefault : default = min maximum (max minimum default) := by omega
  cases value with
  | int n => exact hclamp n
  | text s => exact hclamp _
  | null => exact hdefault
  | bool b => exact hdefault
  | float x => exact hdefault
  | list items => exact hdefault
  | tuple items => exact hdefault
  | map entries => exact hdefault
  | bytes octets => exact hdefault
  | other className => exact hdefault

theorem bounded_decimal {n : Int} (h : Number.Writable n) (default minimum : Int) (maximum : Option Int) :
    (text (String.ofList (Number.intDigits n))).bounded default minimum maximum =
      (int n).bounded default minimum maximum := by
  simp only [bounded, Number.leadingInt_intDigits h, Option.getD_some]

end RawValue

namespace Limits

/-- The greatest page size that a configured value amounts to. -/
theorem ceilingOf_eq (greatest : Ceiling) :
    ceilingOf greatest = if greatest.count = 0 then 20 else max 1 greatest.count := by
  unfold ceilingOf standard
  split <;> rfl

theorem usual_ofRaw (greatest : Ceiling) (usual : RawValue) :
    (ofRaw greatest usual).usual =
      min (ceilingOf greatest) (max 1 (usual.asked?.getD (ceilingOf greatest))) :=
  usual.bounded_eq (one_le_ceilingOf greatest) (Int.le_refl _)

theorem limit_eq {l : Limits} (h : l.Valid) (value : RawValue) :
    l.limit value = min l.ceiling (max 1 (value.asked?.getD l.usual)) :=
  value.bounded_eq h.one_le_usual h.usual_le_ceiling

theorem offset_eq (value : RawValue) : offset value = max 0 (value.asked?.getD 0) := by
  cases value <;> rfl

end Limits

namespace Compiler

/-- The page of a statement is what the request asks for, within the limits. -/
theorem page_eq_of_compile {c : Compiler} {params : Params} {s : Statement BoundValue}
    (h : (c.compile params).2 = .ok s) :
    s.offset = Limits.offset (params.get "offset") ∧ s.limit = c.limits.limit (params.get "limit") := by
  cases ht : params.texts with
  | error fault =>
    rw [compile_of_error ht] at h
    cases h
  | ok t =>
    rw [compile_of_texts ht] at h
    simp only at h
    split at h
    · obtain ⟨page, -, rfl⟩ := Query.statement_eq_ok_iff.1 h
      exact ⟨rfl, rfl⟩
    · cases h

/-- Parameters that say the same of what is selected, filtered and sorted by, and ask for the same page, are treated
alike. -/
theorem compile_eq_of_request {c : Compiler} {params params' : Params}
    (hrequest : Request.ofParams params = Request.ofParams params')
    (horder : (params.get "orderBy").tokens = (params'.get "orderBy").tokens)
    (hoffset : Limits.offset (params.get "offset") = Limits.offset (params'.get "offset"))
    (hlimit : c.limits.limit (params.get "limit") = c.limits.limit (params'.get "limit")) :
    c.compile params = c.compile params' := by
  unfold compile
  rw [hrequest, horder, hoffset]
  cases Request.ofParams params' with
  | error fault => rfl
  | ok req =>
  cases (params'.get "orderBy").tokens with
  | error fault => rfl
  | ok order =>
    have hnoted : ∀ ps qs, ((c.note ps).note qs).limits.limit (params.get "limit") =
        ((c.note ps).note qs).limits.limit (params'.get "limit") := fun _ _ => hlimit
    simp only [hnoted]

/-- Parameters that differ in the page only are treated alike if their pages are the same. -/
theorem compile_congr {c : Compiler} {params params' : Params}
    (hget : ∀ key, key ≠ "offset" → key ≠ "limit" → params.get key = params'.get key)
    (hoffset : Limits.offset (params.get "offset") = Limits.offset (params'.get "offset"))
    (hlimit : c.limits.limit (params.get "limit") = c.limits.limit (params'.get "limit")) :
    c.compile params = c.compile params' := by
  have hrequest : Request.ofParams params = Request.ofParams params' := by
    simp only [Request.ofParams, hget "fields" (by decide) (by decide), hget "whereAnd" (by decide) (by decide),
      hget "where" (by decide) (by decide), hget "whereOr" (by decide) (by decide),
      hget "whereJoin" (by decide) (by decide)]
  have horder : (params.get "orderBy").tokens = (params'.get "orderBy").tokens := by
    rw [hget "orderBy" (by decide) (by decide)]
  exact compile_eq_of_request hrequest horder hoffset hlimit

end Compiler

theorem Params.get_cons_self (key : String) (value : RawValue) (params : Params) :
    Params.get ((key, value) :: params) key = value := by
  simp [Params.get]

theorem Params.get_cons_of_ne {key key' : String} (h : key' ≠ key) (value : RawValue) (params : Params) :
    Params.get ((key, value) :: params) key' = params.get key' := by
  have hkey : (key' == key) = false := beq_false_of_ne h
  simp [Params.get, List.lookup_cons, hkey]

/-- An integer may be given in decimal. -/
theorem Compiler.compile_decimal (c : Compiler) {n : Int} (h : Number.Writable n) {key : String}
    (hkey : key ∈ ["offset", "limit"]) (params : Params) :
    c.compile ((key, .text (String.ofList (Number.intDigits n))) :: params) =
      c.compile ((key, .int n) :: params) := by
  have hbounded := RawValue.bounded_decimal h
  simp only [List.mem_cons, List.not_mem_nil, or_false] at hkey
  rcases hkey with rfl | rfl
  · apply compile_congr
    · intro key hoffset _
      rw [Params.get_cons_of_ne hoffset, Params.get_cons_of_ne hoffset]
    · rw [Params.get_cons_self, Params.get_cons_self]
      exact hbounded 0 0 none
    · rw [Params.get_cons_of_ne (by decide), Params.get_cons_of_ne (by decide)]
  · apply compile_congr
    · intro key _ hlimit
      rw [Params.get_cons_of_ne hlimit, Params.get_cons_of_ne hlimit]
    · rw [Params.get_cons_of_ne (by decide), Params.get_cons_of_ne (by decide)]
    · rw [Params.get_cons_self, Params.get_cons_self]
      exact hbounded _ 1 _

/-- Whatever is configured and asked for, a page has the numbers that were asked for, moved into the bounds of the
configuration.  An integer of at most `maxDigits` digits may be given in decimal. -/
theorem page_of_compile (greatest : Ceiling) (usual : RawValue) (reg : Registry) (problems : List Problem) :
    let ceiling := if greatest.count = 0 then 20 else max 1 greatest.count
    let limits := Limits.ofRaw greatest usual
    let c : Compiler := ⟨reg, limits, problems⟩
    (limits.usual = min ceiling (max 1 (usual.asked?.getD ceiling)) ∧
      1 ≤ limits.usual ∧ limits.usual ≤ ceiling) ∧
    (∀ params s, (c.compile params).2 = .ok s →
      (s.offset = max 0 ((params.get "offset").asked?.getD 0) ∧ 0 ≤ s.offset) ∧
      s.limit = min ceiling (max 1 ((params.get "limit").asked?.getD limits.usual)) ∧
      1 ≤ s.limit ∧ s.limit ≤ ceiling) ∧
    ∀ n, Number.Writable n → ∀ key ∈ ["offset", "limit"], ∀ params,
      c.compile ((key, .text (String.ofList (Number.intDigits n))) :: params) =
        c.compile ((key, .int n) :: params) := by
  intro ceiling limits c
  have hceiling : limits.ceiling = ceiling := Limits.ceilingOf_eq greatest
  have hvalid : limits.Valid := Limits.valid_ofRaw greatest usual
  have husual : limits.usual = min ceiling (max 1 (usual.asked?.getD ceiling)) := by
    rw [← hceiling]
    exact Limits.usual_ofRaw greatest usual
  have hlimit : ∀ value, limits.limit value = min ceiling (max 1 (value.asked?.getD limits.usual)) := by
    rw [← hceiling]
    exact Limits.limit_eq hvalid
  have hmem : ∀ value, 1 ≤ limits.limit value ∧ limits.limit value ≤ ceiling := by
    rw [← hceiling]
    exact Limits.limit_mem hvalid
  refine ⟨⟨husual, hvalid.one_le_usual, ?_⟩, ?_, ?_⟩
  · rw [← hceiling]
    exact hvalid.usual_le_ceiling
  · intro params s hs
    obtain ⟨hoffset, hpage⟩ := Compiler.page_eq_of_compile hs
    rw [hoffset, hpage]
    exact ⟨⟨Limits.offset_eq _, Limits.offset_nonneg _⟩, hlimit _, hmem _⟩
  · intro n hn key hkey params
    exact c.compile_decimal hn hkey params

/-- The usual page size is over the ceiling, the offset is negative, and the page size is over the ceiling both as an
integer and in decimal. -/
theorem page_of_compile_people :
    ∃ s : Statement BoundValue, (Limits.ofRaw (.int 50) (.text "999 rows")).usual = 50 ∧
      compile people (.ofRaw (.int 50) (.text "999 rows"))
        [("limit", .text "4000"), ("offset", .text " -3px")] = .ok s ∧
      compile people (.ofRaw (.int 50) (.text "999 rows"))
        [("limit", .int 4000), ("offset", .text " -3px")] = .ok s ∧ s.offset = 0 ∧ s.limit = 50 := by
  obtain ⟨s, hs⟩ := exists_statement_of_isOk (show (compile people (.ofRaw (.int 50) (.text "999 rows"))
    [("limit", .text "4000"), ("offset", .text " -3px")]).isOk = true by decide +kernel)
  obtain ⟨⟨husual, -⟩, hpage, hdecimal⟩ := page_of_compile (.int 50) (.text "999 rows") people []
  have hboth := congrArg Prod.snd (hdecimal 4000 (by decide) "limit" (by decide) [("offset", .text " -3px")])
  obtain ⟨⟨hoffset, -⟩, hlimit, -⟩ := hpage _ s hs
  refine ⟨s, husual.trans (by decide +kernel), hs, hboth.symm.trans hs, hoffset.trans (by decide +kernel), ?_⟩
  rw [hlimit, husual]
  decide +kernel

end ParamQuery
