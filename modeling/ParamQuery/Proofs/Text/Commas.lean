import ParamQuery.Proofs.Text.Trim
import ParamQuery.Text.Pieces

/-!
# Texts between commas

* `splitAtCommas` undoes joining with commas, for one or more texts without a comma;
* trimming a text first does not change the trimmed texts between its commas: the white space at its ends belongs
  to the first and the last of them.
-/

namespace ParamQuery.Text

theorem pieces_eq_splitOn (sep : Char) (cs : List Char) : pieces sep cs = cs.splitOn sep := by
  induction cs with
  | nil => rfl
  | cons c cs ih =>
    rw [List.splitOn_cons_eq_if_modifyHead, ← ih, pieces]
    by_cases h : c = sep
    · simp [h]
    · cases hp : pieces sep cs with
      | nil => exact absurd hp (pieces_ne_nil sep cs)
      | cons p ps => simp [h]

theorem pieces_of_not_mem {sep : Char} {cs : List Char} (h : sep ∉ cs) : pieces sep cs = [cs] := by
  rw [pieces_eq_splitOn, List.splitOn_eq_singleton h]

/-- A separator between two texts belongs to neither of their pieces. -/
theorem pieces_append_cons (sep : Char) (as bs : List Char) :
    pieces sep (as ++ sep :: bs) = pieces sep as ++ pieces sep bs := by
  induction as with
  | nil => simp [pieces]
  | cons a as ih =>
    rw [List.cons_append, pieces, ih, pieces]
    split
    · rfl
    · cases h : pieces sep as with
      | nil => exact absurd h (pieces_ne_nil sep as)
      | cons p ps => rfl

theorem splitAtCommas_intercalate {texts : List String} (hne : texts ≠ []) (h : ∀ t ∈ texts, ',' ∉ t.toList) :
    splitAtCommas (",".intercalate texts) = texts := by
  have hc : ",".toList = [','] := rfl
  have hp : ∀ p ∈ texts.map String.toList, ',' ∉ p := by
    intro p hp
    obtain ⟨t, ht, rfl⟩ := List.mem_map.1 hp
    exact h t ht
  unfold splitAtCommas
  rw [String.toList_intercalate, hc, pieces_eq_splitOn, List.splitOn_intercalate ',' hp (by simpa using hne),
    List.map_map]
  simp

theorem not_mem_of_mem_pieces {sep : Char} {cs p : List Char} (h : p ∈ pieces sep cs) : sep ∉ p := by
  induction cs generalizing p with
  | nil =>
    simp only [pieces, List.mem_singleton] at h
    simp [h]
  | cons c cs ih =>
    unfold pieces at h
    split at h
    · rcases List.mem_cons.1 h with rfl | h
      · simp
      · exact ih h
    · next hc =>
      split at h
      · simp only [List.mem_singleton] at h
        simp [h, Ne.symm hc]
      · next q qs hq =>
        rcases List.mem_cons.1 h with rfl | h
        · have hq' := ih (p := q) (by simp [hq])
          simp [Ne.symm hc, hq']
        · exact ih (by simp [hq, h])

theorem comma_not_mem_of_mem_splitAtCommas {s t : String} (h : t ∈ splitAtCommas s) : ',' ∉ t.toList := by
  obtain ⟨p, hp, rfl⟩ := List.mem_map.1 h
  rw [String.toList_ofList]
  exact not_mem_of_mem_pieces hp

/-- A run without the separator in front of a text goes to its first piece. -/
theorem pieces_append_left {sep : Char} {p : List Char} (hp : sep ∉ p) (cs : List Char) :
    ∃ head rest, pieces sep cs = head :: rest ∧ pieces sep (p ++ cs) = (p ++ head) :: rest := by
  induction p with
  | nil =>
    obtain ⟨head, rest, h⟩ := List.exists_cons_of_ne_nil (pieces_ne_nil sep cs)
    exact ⟨head, rest, h, h⟩
  | cons c p ih =>
    simp only [List.mem_cons, not_or] at hp
    obtain ⟨head, rest, h, h'⟩ := ih hp.2
    refine ⟨head, rest, h, ?_⟩
    simp [pieces, h', Ne.symm hp.1]

/-- A run without the separator behind a text goes to its last piece. -/
theorem pieces_append_right {sep : Char} {q : List Char} (hq : sep ∉ q) (cs : List Char) :
    ∃ front last, pieces sep cs = front ++ [last] ∧ pieces sep (cs ++ q) = front ++ [last ++ q] := by
  induction cs with
  | nil => exact ⟨[], [], rfl, pieces_of_not_mem hq⟩
  | cons c cs ih =>
    obtain ⟨front, last, h, h'⟩ := ih
    by_cases hc : c = sep
    · exact ⟨[] :: front, last, by simp [pieces, hc, h], by simp [pieces, hc, h']⟩
    · cases front with
      | nil => exact ⟨[], c :: last, by simp [pieces, hc, h], by simp [pieces, hc, h']⟩
      | cons f front => exact ⟨(c :: f) :: front, last, by simp [pieces, hc, h], by simp [pieces, hc, h']⟩

theorem comma_not_mem_of_blank {p : List Char} (hp : Blank p) : ',' ∉ p := by
  intro h
  exact absurd (hp ',' h) (by decide)

theorem map_trim_splitAtCommas_blank_around {p q : List Char} (hp : Blank p) (hq : Blank q) (cs : List Char) :
    (splitAtCommas (String.ofList (p ++ cs ++ q))).map trim = (splitAtCommas (String.ofList cs)).map trim := by
  have hleft : ∀ cs, trim (String.ofList (p ++ cs)) = trim (String.ofList cs) := by
    intro cs
    have h := trim_ofList_blank_around hp Blank.nil cs
    rwa [List.append_nil] at h
  have hright : ∀ cs, trim (String.ofList (cs ++ q)) = trim (String.ofList cs) :=
    fun cs => trim_ofList_blank_around Blank.nil hq cs
  obtain ⟨head, rest, h₁, h₂⟩ := pieces_append_left (comma_not_mem_of_blank hp) cs
  obtain ⟨front, last, h₃, h₄⟩ := pieces_append_right (comma_not_mem_of_blank hq) (p ++ cs)
  have hfirst : (pieces ',' (p ++ cs)).map (trim ∘ String.ofList) =
      (pieces ',' cs).map (trim ∘ String.ofList) := by
    rw [h₁, h₂]
    simp only [List.map_cons, Function.comp_apply, hleft]
  unfold splitAtCommas
  rw [String.toList_ofList, String.toList_ofList, List.map_map, List.map_map, ← hfirst, h₃, h₄]
  simp only [List.map_append, List.map_cons, Function.comp_apply, hright]

theorem map_trim_splitAtCommas_trim (s : String) :
    (splitAtCommas (trim s)).map trim = (splitAtCommas s).map trim := by
  obtain ⟨p, q, hp, hq, h⟩ := exists_blank_around s
  have hs := map_trim_splitAtCommas_blank_around hp hq (trim s).toList
  rw [← h, String.ofList_toList, String.ofList_toList] at hs
  exact hs.symm

end ParamQuery.Text
