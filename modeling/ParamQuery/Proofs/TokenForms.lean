import ParamQuery.Proofs.PageValues

/-!
# Tokens in normal form

Tokens are trimmed, not empty and without commas (`IsToken`), groups may have commas (`IsGroup`), and both are what
tokenizing leaves alone.  Cutting at commas can be done before or after the texts are joined with commas
(`tokensOf_intercalate`), and before or after they are trimmed as groups (`flatMap_tokensOf_trimmed`): so a list, a
tuple and one joined text of the same texts have the same tokens, and a request is compiled to the same whichever of
them it passes (`tokens_normalForm`).
-/

namespace ParamQuery

namespace Text

theorem splitAtCommas_append (s t : String) : splitAtCommas (s ++ "," ++ t) = splitAtCommas s ++ splitAtCommas t := by
  have hchars : (s ++ "," ++ t).toList = s.toList ++ ',' :: t.toList := by
    simp only [String.toList_append, List.append_assoc]
    rfl
  unfold splitAtCommas
  rw [hchars, pieces_append_cons, List.map_append]

theorem splitAtCommas_of_comma_not_mem {s : String} (h : ',' ∉ s.toList) : splitAtCommas s = [s] := by
  rw [splitAtCommas, pieces_of_not_mem h, List.map_singleton, String.ofList_toList]

theorem mem_of_mem_trim {s : String} {c : Char} (h : c ∈ (trim s).toList) : c ∈ s.toList := by
  obtain ⟨p, q, -, -, hs⟩ := exists_blank_around s
  rw [hs]
  exact List.mem_append_left q (List.mem_append_right p h)

end Text

/-- A text that can be the group of a parameter. -/
structure IsGroup (s : String) : Prop where
  ne_empty : s ≠ ""
  trim_eq : Text.trim s = s

/-- A text that can be the token of a parameter. -/
structure IsToken (s : String) : Prop extends IsGroup s where
  comma_not_mem : ',' ∉ s.toList

theorem isGroup_of_mem_trimmed {texts : List String} {s : String} (h : s ∈ trimmed texts) : IsGroup s := by
  obtain ⟨hmem, hne⟩ := List.mem_filter.1 h
  obtain ⟨text, -, rfl⟩ := List.mem_map.1 hmem
  exact ⟨by simpa using hne, Text.trim_trim text⟩

theorem isToken_of_mem_tokensOf {texts : List String} {s : String} (h : s ∈ tokensOf texts) : IsToken s := by
  refine ⟨isGroup_of_mem_trimmed h, fun hcomma => ?_⟩
  obtain ⟨piece, hpiece, rfl⟩ := List.mem_map.1 (List.mem_filter.1 h).1
  obtain ⟨text, -, hsplit⟩ := List.mem_flatMap.1 hpiece
  exact Text.comma_not_mem_of_mem_splitAtCommas hsplit (Text.mem_of_mem_trim hcomma)

theorem tokensOf_eq_self {texts : List String} (h : ∀ s ∈ texts, IsToken s) : tokensOf texts = texts := by
  have hsplit : texts.flatMap Text.splitAtCommas = texts := by
    rw [List.flatMap_congr fun s hs => Text.splitAtCommas_of_comma_not_mem (h s hs).comma_not_mem]
    exact List.flatMap_singleton' texts
  rw [tokensOf, hsplit, trimmed_eq_self fun s hs => ⟨(h s hs).trim_eq, (h s hs).ne_empty⟩]

theorem tokensOf_tokensOf (texts : List String) : tokensOf (tokensOf texts) = tokensOf texts :=
  tokensOf_eq_self fun _ => isToken_of_mem_tokensOf

theorem tokensOf_cons (s : String) (texts : List String) :
    tokensOf (s :: texts) = trimmed (Text.splitAtCommas s) ++ tokensOf texts := by
  rw [tokensOf, List.flatMap_cons, trimmed_append, tokensOf]

/-- Joining texts with commas adds no tokens and takes none away. -/
theorem tokensOf_intercalate (texts : List String) : tokensOf [",".intercalate texts] = tokensOf texts := by
  induction texts with
  | nil => rfl
  | cons s texts ih =>
    cases texts with
    | nil => rw [String.intercalate_singleton]
    | cons t texts =>
      rw [String.intercalate_cons_of_ne_nil (List.cons_ne_nil _ _), tokensOf_cons, Text.splitAtCommas_append,
        trimmed_append, List.append_assoc, ← tokensOf_cons, ih, ← tokensOf_cons]

/-- What is trimmed away from a text is trimmed away from its pieces as well. -/
theorem trimmed_splitAtCommas_trim (s : String) :
    trimmed (Text.splitAtCommas (Text.trim s)) = trimmed (Text.splitAtCommas s) := by
  rw [trimmed, Text.map_trim_splitAtCommas_trim, trimmed]

/-- A trimmed text has the tokens of the text, and a blank text has none. -/
theorem flatMap_tokensOf_trimmed_singleton (s : String) :
    (trimmed [s]).flatMap (fun group => tokensOf [group]) = trimmed (Text.splitAtCommas s) := by
  rw [← trimmed_splitAtCommas_trim]
  by_cases hblank : Text.trim s = ""
  · have hnone : trimmed [s] = [] := by simp [trimmed, hblank]
    rw [hnone, hblank]
    decide
  · have hone : trimmed [s] = [Text.trim s] := by simp [trimmed, hblank]
    rw [hone, List.flatMap_singleton, tokensOf, List.flatMap_singleton]

/-- The tokens of the groups are those of the texts. -/
theorem flatMap_tokensOf_trimmed (texts : List String) :
    (trimmed texts).flatMap (fun group => tokensOf [group]) = tokensOf texts := by
  induction texts with
  | nil => rfl
  | cons s texts ih =>
    rw [← List.singleton_append, trimmed_append, List.flatMap_append, ih, flatMap_tokensOf_trimmed_singleton,
      List.singleton_append, tokensOf_cons]

/-- The ways in which texts are passed as one parameter. -/
inductive Passing where
  | list
  | tuple
  | joined
  deriving DecidableEq, Repr

/-- The parameter for the texts. -/
def Passing.value (texts : List String) : Passing → RawValue
  | list => .list (texts.map .text)
  | tuple => .tuple (texts.map .text)
  | joined => .text (",".intercalate texts)

theorem RawValue.tokens_passing (texts : List String) (way : Passing) :
    (way.value texts).tokens = .ok (tokensOf texts) := by
  rw [RawValue.tokens_eq_ok_iff]
  cases way with
  | list => exact ⟨texts, .list texts, rfl⟩
  | tuple => exact ⟨texts, .tuple texts, rfl⟩
  | joined => exact ⟨[",".intercalate texts], .text _, (tokensOf_intercalate texts).symm⟩

theorem RawValue.groups_sequence (texts : List String) {way : Passing} (h : way ≠ .joined) :
    (way.value texts).groups = .ok (trimmed texts) := by
  rw [RawValue.groups_eq_ok_iff]
  cases way with
  | list => exact ⟨texts, .list texts, rfl⟩
  | tuple => exact ⟨texts, .tuple texts, rfl⟩
  | joined => exact absurd rfl h

/-- Each group is tokenized by itself. -/
theorem mapM_tokens_text (groups : List String) :
    groups.mapM (fun group => (RawValue.text group).tokens) = .ok (groups.map fun group => tokensOf [group]) := by
  rw [mapM_eq_ok_iff, List.forall₂_map_right_iff, List.forall₂_same]
  exact fun group _ => RawValue.tokens_eq_ok_iff.2 ⟨[group], .text group, rfl⟩

/-- What is passed as fields or as sort keys is looked at as tokens only. -/
theorem Compiler.compile_eq_of_tokens {c : Compiler} {params params' : Params}
    (hfields : (params.get "fields").tokens = (params'.get "fields").tokens)
    (horder : (params.get "orderBy").tokens = (params'.get "orderBy").tokens)
    (hother : ∀ key, key ∉ ["fields", "orderBy"] → params.get key = params'.get key) :
    c.compile params = c.compile params' := by
  have hrequest : Request.ofParams params = Request.ofParams params' := by
    simp only [Request.ofParams, hfields, hother "whereAnd" (by decide), hother "where" (by decide),
      hother "whereOr" (by decide), hother "whereJoin" (by decide)]
  apply compile_eq_of_request hrequest horder
  · rw [hother "offset" (by decide)]
  · rw [hother "limit" (by decide)]

/-- It does not matter in which way the fields or the sort keys are passed. -/
theorem Compiler.compile_passing (c : Compiler) {key : String} (hkey : key ∈ ["fields", "orderBy"])
    (texts : List String) (params : Params) (way way' : Passing) :
    c.compile ((key, way.value texts) :: params) = c.compile ((key, way'.value texts) :: params) := by
  have htokens : ∀ key', (Params.get ((key, way.value texts) :: params) key').tokens =
      (Params.get ((key, way'.value texts) :: params) key').tokens := by
    intro key'
    by_cases h : key' = key
    · rw [h, Params.get_cons_self, Params.get_cons_self, RawValue.tokens_passing, RawValue.tokens_passing]
    · rw [Params.get_cons_of_ne h, Params.get_cons_of_ne h]
  refine compile_eq_of_tokens (htokens "fields") (htokens "orderBy") fun key' hkey' => ?_
  have hne : key' ≠ key := by
    rintro rfl
    exact hkey' hkey
  rw [Params.get_cons_of_ne hne, Params.get_cons_of_ne hne]

/-- The trimmed texts between commas are the tokens of a list, of a tuple and of the joined text, and the trimmed texts
are the groups of the first two.  Tokens and groups are in normal form, in which they are their own tokens and groups,
and the tokens of the groups are those of the texts.  So a compiler answers alike in whichever way the fields and the
sort keys are passed. -/
theorem tokens_normalForm (texts : List String) :
    let tokens := ((Text.splitAtCommas (",".intercalate texts)).map Text.trim).filter (· ≠ "")
    let groups := (texts.map Text.trim).filter (· ≠ "")
    ((∀ way : Passing, (way.value texts).tokens = .ok tokens ∧ (way.value tokens).tokens = .ok tokens) ∧
      ∀ s ∈ tokens, s ≠ "" ∧ Text.trim s = s ∧ ',' ∉ s.toList) ∧
    ((∀ way : Passing, way ≠ .joined →
        (way.value texts).groups = .ok groups ∧ (way.value groups).groups = .ok groups) ∧
      ∀ s ∈ groups, s ≠ "" ∧ Text.trim s = s) ∧
    (∃ parts, groups.mapM (fun group => (RawValue.text group).tokens) = .ok parts ∧ parts.flatten = tokens) ∧
    ∀ (c : Compiler) (params : Params) (way way' : Passing),
      c.compile (("fields", way.value texts) :: params) = c.compile (("fields", way'.value texts) :: params) ∧
      c.compile (("orderBy", way.value texts) :: params) = c.compile (("orderBy", way'.value texts) :: params) := by
  intro tokens groups
  have htokens : tokens = tokensOf texts := by
    rw [← tokensOf_intercalate, tokensOf, List.flatMap_singleton]
    rfl
  have hgroups : groups = trimmed texts := rfl
  rw [htokens, hgroups]
  refine ⟨⟨fun way => ⟨?tokens, ?tokensAgain⟩, fun s hs => ?tokenForm⟩,
    ⟨fun way hway => ⟨?groups, ?groupsAgain⟩, fun s hs => ?groupForm⟩, ⟨_, mapM_tokens_text _, ?flatten⟩,
    fun c params way way' => ⟨?fields, ?order⟩⟩
  case tokens => exact RawValue.tokens_passing texts way
  case tokensAgain => rw [RawValue.tokens_passing, tokensOf_tokensOf]
  case tokenForm =>
    have h := isToken_of_mem_tokensOf hs
    exact ⟨h.ne_empty, h.trim_eq, h.comma_not_mem⟩
  case groups => exact RawValue.groups_sequence texts hway
  case groupsAgain => rw [RawValue.groups_sequence _ hway, trimmed_trimmed]
  case groupForm =>
    have h := isGroup_of_mem_trimmed hs
    exact ⟨h.ne_empty, h.trim_eq⟩
  case flatten => rw [← List.flatMap_def, flatMap_tokensOf_trimmed]
  case fields => exact c.compile_passing (by decide) texts params way way'
  case order => exact c.compile_passing (by decide) texts params way way'

example : (RawValue.text " ,a b,\u3000, c\u00A0,,").tokens = .ok ["a b", "c"] := by decide

end ParamQuery
