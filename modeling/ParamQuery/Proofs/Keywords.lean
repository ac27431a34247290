import ParamQuery.Proofs.ProblemList
import ParamQuery.Proofs.Text.AsciiCase

/-!
# Keywords in any case

The word for `NULL`, the joins and the words for true are known by their upper or lower case.  The case mappings are
those of all scripts, yet a keyword has no variants but those in the case of its ASCII letters
(`keyword_iff_sameButCase`): its letters are not among the few that characters beyond ASCII become.
-/

namespace ParamQuery

open ParamQuery.Text

theorem consists_upperPlain_word (join : Join) : Consists UpperPlain join.word := by
  cases join <;> decide

theorem consists_lowerPlain_of_mem {word : String} (h : word ∈ affirmatives) : Consists LowerPlain word := by
  have hall : ∀ word ∈ affirmatives, Consists LowerPlain word := by decide
  exact hall word h

variable {v : String}

theorem lower_mem_affirmatives_iff : lower v ∈ affirmatives ↔ ∃ word ∈ affirmatives, SameButCase v word := by
  constructor
  · intro h
    exact ⟨lower v, h, (lower_eq_iff (consists_lowerPlain_of_mem h)).1 rfl⟩
  · rintro ⟨word, hword, hcase⟩
    rw [(lower_eq_iff (consists_lowerPlain_of_mem hword)).2 hcase]
    exact hword

/-- A value with a character beyond ASCII is never taken for `NULL`. -/
theorem Comparison.bind_of_notAscii (h : NotAscii v) (reg : Registry) (field : String) (op : Operator) :
    Comparison.bind reg ⟨field, op, v⟩ = Comparison.bindValue ⟨field, op, v⟩ (reg.type? field) := by
  have hnull : ¬ isNullWord v = true := by
    rw [isNullWord, decide_eq_true_eq]
    exact h.upper_ne (by decide)
  exact if_neg hnull

theorem readJoin_of_notAscii (h : NotAscii v) (tokens : List String) :
    readJoin (v :: tokens) = (.and, some (.unknownJoin (upper v))) := by
  have hnone : Join.ofWord? (upper v) = none := by
    rw [Join.ofWord?, List.find?_eq_none]
    intro join _
    rw [decide_eq_true_eq]
    exact (h.upper_ne (consists_upperPlain_word join)).symm
  rw [readJoin, hnone]

theorem isAffirmative_of_notAscii (h : NotAscii v) : isAffirmative v = false := by
  rw [isAffirmative, decide_eq_false_iff_not]
  exact fun hmem => h.lower_ne (consists_lowerPlain_of_mem hmem) rfl

/-- The word for `NULL`, the joins and the words for true are the texts that differ from them in the case of ASCII
letters at most, in whichever form sigmas are.  A text with a character beyond ASCII is bound by the type of its field,
is no join and is false. -/
theorem keyword_iff_sameButCase (v : String) :
    (upper v = nullWord ↔ SameButCase v "__NULL__") ∧
    (∀ join : Join, upper v = join.word ↔ SameButCase v join.word) ∧
    (lower v ∈ affirmatives ↔ ∃ word ∈ ["true", "yes", "on", "1"], SameButCase v word) ∧
    (∀ t, SigmaForm (lower v) t → (t ∈ affirmatives ↔ lower v ∈ affirmatives)) ∧
    (NotAscii v →
      (∀ (reg : Registry) (field : String) (op : Operator),
        Comparison.bind reg ⟨field, op, v⟩ = Comparison.bindValue ⟨field, op, v⟩ (reg.type? field)) ∧
      (∀ tokens, readJoin (v :: tokens) = (.and, some (.unknownJoin (upper v)))) ∧
      DataType.boolean.convert? v = some (.bool false)) := by
  refine ⟨upper_eq_iff (by decide), fun join => upper_eq_iff (consists_upperPlain_word join),
    lower_mem_affirmatives_iff, fun t ht => ht.mem_iff fun word hword c hc => ?ascii,
    fun h => ⟨Comparison.bind_of_notAscii h, readJoin_of_notAscii h, ?boolean⟩⟩
  case ascii => exact (consists_lowerPlain_of_mem hword c hc).1
  case boolean => rw [DataType.convert?_eq, isAffirmative_of_notAscii h]

theorem keyword_iff_sameButCase_capitalSigma :
    NotAscii "YE\u03A3" ∧ SigmaForm (lower "YE\u03A3") "ye\u03C2" ∧
      ("ye\u03C2" ∈ affirmatives ↔ lower "YE\u03A3" ∈ affirmatives) ∧
      readJoin ["YE\u03A3"] = (.and, some (.unknownJoin (upper "YE\u03A3"))) ∧
      DataType.boolean.convert? "YE\u03A3" = some (.bool false) := by
  have hsigma : NotAscii "YE\u03A3" := ⟨'\u03A3', by decide, by decide⟩
  have hform : SigmaForm (lower "YE\u03A3") "ye\u03C2" := by decide +kernel
  obtain ⟨-, -, -, hforms, hbeyond⟩ := keyword_iff_sameButCase "YE\u03A3"
  obtain ⟨-, hjoin, hboolean⟩ := hbeyond hsigma
  exact ⟨hsigma, hform, hforms "ye\u03C2" hform, hjoin [], hboolean⟩

end ParamQuery
