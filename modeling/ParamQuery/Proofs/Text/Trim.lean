import ParamQuery.Text.Blank

/-!
# Trimming

A text is its trimmed form between two blank runs, and the trimmed form is tight: neither of its ends is blank
(`exists_blank_around`, `tight_trim`).  Conversely a tight text between blank runs is what trimming leaves
(`trim_ofList_of_tight`), so a text is its own trimmed form exactly if it is tight.
-/

namespace ParamQuery.Text

/-- A run of white space. -/
def Blank (cs : List Char) : Prop :=
  ∀ c ∈ cs, isBlank c = true

-- Given by name, since the instance that goes through all characters may be found first.
instance (cs : List Char) : Decidable (Blank cs) :=
  List.decidableBAll _ cs

/-- The first and the last character, if there are any, are not blank. -/
def Tight (cs : List Char) : Prop :=
  (∀ c ∈ cs.head?, isBlank c = false) ∧ ∀ c ∈ cs.getLast?, isBlank c = false

theorem Blank.nil : Blank [] := by
  simp [Blank]

theorem Blank.reverse {cs : List Char} (h : Blank cs) : Blank cs.reverse :=
  fun c hc => h c (List.mem_reverse.1 hc)

theorem Tight.reverse {cs : List Char} (h : Tight cs) : Tight cs.reverse := by
  unfold Tight
  rw [List.head?_reverse, List.getLast?_reverse]
  exact ⟨h.2, h.1⟩

/-- Around a text without white space it is enough that the outer ends are not blank. -/
theorem Tight.append_append {as ms bs : List Char} (hne : ms ≠ []) (hm : ∀ c ∈ ms, isBlank c = false)
    (ha : ∀ c ∈ as.head?, isBlank c = false) (hb : ∀ c ∈ bs.getLast?, isBlank c = false) :
    Tight (as ++ ms ++ bs) := by
  constructor
  · intro c hc
    simp only [List.head?_append, Option.mem_def, Option.or_eq_some_iff, Option.or_eq_none_iff] at hc
    rcases hc with (h | ⟨-, h⟩) | ⟨⟨-, h⟩, -⟩
    · exact ha c h
    · exact hm c (List.mem_of_mem_head? h)
    · exact absurd (List.head?_eq_none_iff.1 h) hne
  · intro c hc
    simp only [List.getLast?_append, Option.mem_def, Option.or_eq_some_iff] at hc
    rcases hc with h | ⟨-, h | ⟨h, -⟩⟩
    · exact hb c h
    · exact hm c (List.mem_of_getLast? h)
    · exact absurd (List.getLast?_eq_none_iff.1 h) hne

theorem Tight.cons {c : Char} {cs : List Char} (hc : isBlank c = false) (h : Tight cs) : Tight (c :: cs) := by
  have happend : Tight ([] ++ [c] ++ cs) :=
    .append_append (List.cons_ne_nil c []) (by simpa using hc) (by simp) h.2
  exact happend

private theorem dropWhile_of_head {cs : List Char} (h : ∀ c ∈ cs.head?, isBlank c = false) :
    cs.dropWhile isBlank = cs := by
  cases cs with
  | nil => rfl
  | cons c cs => rw [List.dropWhile_cons_of_neg]; simp [h c rfl]

theorem trimStart_blank_append {p : List Char} (hp : Blank p) (cs : List Char) :
    trimStart (p ++ cs) = trimStart cs :=
  List.dropWhile_append_of_pos hp

theorem trimEnd_append_blank {q : List Char} (hq : Blank q) (cs : List Char) :
    trimEnd (cs ++ q) = trimEnd cs := by
  unfold trimEnd
  rw [List.reverse_append, List.dropWhile_append_of_pos hq.reverse]

theorem trimEnd_of_tight {cs : List Char} (h : Tight cs) : trimEnd cs = cs := by
  unfold trimEnd
  rw [dropWhile_of_head h.reverse.1, List.reverse_reverse]

theorem exists_blank_append_trimStart (cs : List Char) :
    ∃ p, Blank p ∧ cs = p ++ trimStart cs ∧ ∀ c ∈ (trimStart cs).head?, isBlank c = false := by
  refine ⟨cs.takeWhile isBlank, ?_, List.takeWhile_append_dropWhile.symm, ?_⟩
  · intro c hc
    exact List.all_eq_true.1 List.all_takeWhile c hc
  · intro c hc
    have h := List.head?_dropWhile_not isBlank cs
    rw [show cs.dropWhile isBlank = trimStart cs from rfl, Option.mem_def.1 hc] at h
    exact h

theorem exists_trimEnd_append_blank (cs : List Char) :
    ∃ q, Blank q ∧ cs = trimEnd cs ++ q ∧ ∀ c ∈ (trimEnd cs).getLast?, isBlank c = false := by
  obtain ⟨p, hp, he, hh⟩ := exists_blank_append_trimStart cs.reverse
  refine ⟨p.reverse, hp.reverse, ?_, ?_⟩
  · rw [show trimEnd cs = (trimStart cs.reverse).reverse from rfl, ← List.reverse_append, ← he,
      List.reverse_reverse]
  · intro c hc
    rw [show trimEnd cs = (trimStart cs.reverse).reverse from rfl, List.getLast?_reverse] at hc
    exact hh c hc

/-- A text is a blank run, its trimmed form, and a blank run. -/
theorem exists_blank_around (s : String) :
    ∃ p q, Blank p ∧ Blank q ∧ s.toList = p ++ (trim s).toList ++ q := by
  obtain ⟨p, hp, he, -⟩ := exists_blank_append_trimStart s.toList
  obtain ⟨q, hq, he', -⟩ := exists_trimEnd_append_blank (trimStart s.toList)
  refine ⟨p, q, hp, hq, ?_⟩
  rw [toList_trim, List.append_assoc, ← he', ← he]

theorem tight_trim (s : String) : Tight (trim s).toList := by
  rw [toList_trim]
  obtain ⟨p, -, -, hstart⟩ := exists_blank_append_trimStart s.toList
  obtain ⟨q, -, he, hend⟩ := exists_trimEnd_append_blank (trimStart s.toList)
  refine ⟨fun c hc => hstart c ?_, hend⟩
  rw [he]
  cases htr : trimEnd (trimStart s.toList) with
  | nil => rw [htr] at hc; simp at hc
  | cons d ds => rw [htr] at hc; simpa using hc

private theorem trimStart_blank {q : List Char} (hq : Blank q) : trimStart q = [] := by
  have h := trimStart_blank_append hq []
  rwa [List.append_nil] at h

theorem trim_ofList_of_tight {p t q : List Char} (hp : Blank p) (ht : Tight t) (hq : Blank q) :
    trim (String.ofList (p ++ t ++ q)) = String.ofList t := by
  unfold trim
  rw [String.toList_ofList, List.append_assoc, trimStart_blank_append hp]
  cases t with
  | nil =>
    rw [List.nil_append, trimStart_blank hq]
    rfl
  | cons c t =>
    have h : trimStart (c :: t ++ q) = c :: t ++ q := by
      apply dropWhile_of_head
      intro d hd
      exact ht.1 d (by simpa using hd)
    rw [h, trimEnd_append_blank hq, trimEnd_of_tight ht]

theorem trim_of_toList_eq {s : String} {p t q : List Char} (hp : Blank p) (ht : Tight t) (hq : Blank q)
    (h : s.toList = p ++ t ++ q) : trim s = String.ofList t := by
  rw [← trim_ofList_of_tight hp ht hq, ← h, String.ofList_toList]

theorem trim_eq_self_iff {s : String} : trim s = s ↔ Tight s.toList := by
  constructor
  · intro h
    rw [← h]
    exact tight_trim s
  · intro h
    rw [trim_of_toList_eq Blank.nil h Blank.nil (by simp), String.ofList_toList]

theorem trim_eq_empty_iff {s : String} : trim s = "" ↔ trimStart s.toList = [] := by
  constructor
  · intro h
    obtain ⟨p, q, hp, hq, he⟩ := exists_blank_around s
    rw [h] at he
    rw [he, List.append_assoc, trimStart_blank_append hp]
    exact trimStart_blank hq
  · intro h
    rw [trim, h]
    rfl

theorem trim_trim (s : String) : trim (trim s) = trim s :=
  trim_eq_self_iff.2 (tight_trim s)

/-- Blank runs around a text do not change its trimmed form. -/
theorem trim_ofList_blank_around {p q : List Char} (hp : Blank p) (hq : Blank q) (cs : List Char) :
    trim (String.ofList (p ++ cs ++ q)) = trim (String.ofList cs) := by
  obtain ⟨p', q', hp', hq', he⟩ := exists_blank_around (String.ofList cs)
  have hpp : Blank (p ++ p') := fun c hc => (List.mem_append.1 hc).elim (hp c) (hp' c)
  have hqq : Blank (q' ++ q) := fun c hc => (List.mem_append.1 hc).elim (hq' c) (hq c)
  rw [String.toList_ofList] at he
  have h : (String.ofList (p ++ cs ++ q)).toList = (p ++ p') ++ (trim (String.ofList cs)).toList ++ (q' ++ q) := by
    rw [String.toList_ofList]
    conv => lhs; rw [he]
    simp only [List.append_assoc]
  rw [trim_of_toList_eq hpp (tight_trim _) hqq h, String.ofList_toList]

end ParamQuery.Text
