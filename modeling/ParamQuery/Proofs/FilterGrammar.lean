import ParamQuery.Filter

/-!
# The grammar of filter texts

A text is read in two steps.

* `lex` cuts it into lexemes: parentheses, placeholders, and the words between these and white space.
* `Reads` is the grammar of the lexemes.  A primary is a condition or a disjunction in parentheses, a conjunction
  has primaries with `AND` between them, and a disjunction has conjunctions with `OR` between them.

A text has at most one reading (`Reads.unique`): whatever may follow a part of it, the part ends at the same place.
-/

namespace ParamQuery

inductive Lexeme where
  | opening
  | closing
  | hole
  | word (s : String)
  deriving DecidableEq, Repr

namespace Lexeme

def ofPunctuation? : Char → Option Lexeme
  | '(' => some .opening
  | ')' => some .closing
  | '?' => some .hole
  | _ => none

/-- The word of the characters, if there are any. -/
def ofWord : List Char → List Lexeme
  | [] => []
  | cs => [.word (String.ofList cs)]

/-- The lexemes of a text behind the beginning of a word. -/
def lexFrom (word : List Char) : List Char → List Lexeme
  | [] => ofWord word
  | c :: cs =>
    if Text.isBlank c then ofWord word ++ lexFrom [] cs
    else
      match ofPunctuation? c with
      | some t => ofWord word ++ t :: lexFrom [] cs
      | none => lexFrom (word ++ [c]) cs

def lex (s : String) : List Lexeme :=
  lexFrom [] s.toList

def isWordChar (c : Char) : Bool :=
  !Text.isBlank c && (ofPunctuation? c).isNone

/-- A text that is a single word. -/
def IsWord (s : String) : Prop :=
  s ≠ "" ∧ ∀ c ∈ s.toList, isWordChar c = true

instance (s : String) : Decidable (IsWord s) :=
  have : Decidable (∀ c ∈ s.toList, isWordChar c = true) := List.decidableBAll _ s.toList
  inferInstanceAs (Decidable (_ ∧ _))

theorem isWordChar_iff {c : Char} :
    isWordChar c = true ↔ Text.isBlank c = false ∧ c ≠ '(' ∧ c ≠ ')' ∧ c ≠ '?' := by
  unfold isWordChar ofPunctuation?
  split <;> simp_all

theorem lexFrom_word (word : List Char) {w : List Char} (h : ∀ c ∈ w, isWordChar c = true) (cs : List Char) :
    lexFrom word (w ++ cs) = lexFrom (word ++ w) cs := by
  induction w generalizing word with
  | nil => simp
  | cons c w ih =>
    have hc := h c (by simp)
    simp only [isWordChar, Bool.and_eq_true, Bool.not_eq_true', Option.isNone_iff_eq_none] at hc
    rw [List.cons_append, lexFrom, hc.1, hc.2]
    simp only [Bool.false_eq_true, ↓reduceIte]
    rw [ih (word ++ [c]) fun d hd => h d (by simp [hd])]
    simp

/-- A character of no word ends the lexeme before it. -/
theorem lexFrom_append_cons (word cs : List Char) {c : Char} (hc : isWordChar c = false) (ds : List Char) :
    lexFrom word (cs ++ c :: ds) = lexFrom word cs ++ lexFrom [] (c :: ds) := by
  induction cs generalizing word with
  | nil =>
    simp only [List.nil_append, lexFrom]
    by_cases hb : Text.isBlank c = true
    · simp [hb, ofWord]
    · cases hp : ofPunctuation? c with
      | none => simp [isWordChar, hb, hp] at hc
      | some t => simp [hb, ofWord]
  | cons d cs ih =>
    simp only [List.cons_append, lexFrom, ih]
    split
    · simp
    · split
      · simp
      · rfl

theorem lex_append {s t : String} (h : ∃ c ∈ t.toList.head?, isWordChar c = false) :
    lex (s ++ t) = lex s ++ lex t := by
  obtain ⟨c, hc, hword⟩ := h
  obtain ⟨ds, hds⟩ := List.head?_eq_some_iff.1 hc
  unfold lex
  rw [String.toList_append, hds, lexFrom_append_cons [] s.toList hword ds]

theorem lex_word_append {s t : String} (hs : IsWord s) (h : ∃ c ∈ t.toList.head?, isWordChar c = false) :
    lex (s ++ t) = .word s :: lex t := by
  have hword : lex s = [.word s] := by
    have h := lexFrom_word [] hs.2 []
    rw [List.append_nil, List.nil_append] at h
    unfold lex
    rw [h, lexFrom]
    cases hc : s.toList with
    | nil => exact absurd (String.toList_eq_nil_iff.1 hc) hs.1
    | cons c cs =>
      rw [ofWord, ← hc, String.ofList_toList]
      simp
  rw [lex_append h, hword, List.singleton_append]

end Lexeme

def SqlOperator.lexemes : SqlOperator → List Lexeme
  | .compare op => [.word op.symbol]
  | .is => [.word "IS"]
  | .isNot => [.word "IS", .word "NOT"]

def Condition.lexemes (c : Condition) : List Lexeme :=
  .opening :: .word c.field :: (c.op.lexemes ++ [.hole, .closing])

/-- What a filter text says about its conditions. -/
inductive Formula where
  | atom (c : Condition)
  | join (j : Join) (e e' : Formula)
  deriving DecidableEq, Repr

/-- The syntactic classes, from the one that binds most tightly. -/
inductive Rank where
  | primary
  | conjunction
  | disjunction
  deriving DecidableEq, Repr

inductive Reads : Rank → List Lexeme → Formula → Prop where
  | condition (c : Condition) : Reads .primary c.lexemes (.atom c)
  | parentheses {ts e} (h : Reads .disjunction ts e) : Reads .primary (.opening :: (ts ++ [.closing])) e
  | primary {ts e} (h : Reads .primary ts e) : Reads .conjunction ts e
  | and {ts ts' e e'} (h : Reads .primary ts e) (h' : Reads .conjunction ts' e') :
      Reads .conjunction (ts ++ .word Join.and.word :: ts') (.join .and e e')
  | conjunction {ts e} (h : Reads .conjunction ts e) : Reads .disjunction ts e
  | or {ts ts' e e'} (h : Reads .conjunction ts e) (h' : Reads .disjunction ts' e') :
      Reads .disjunction (ts ++ .word Join.or.word :: ts') (.join .or e e')

namespace Reads

variable {l : Rank} {ts ts' rest rest' : List Lexeme} {e e' : Formula}

theorem exists_opening_cons (h : Reads l ts e) : ∃ us, ts = .opening :: us := by
  induction h with
  | condition c => exact ⟨_, rfl⟩
  | parentheses h ih => exact ⟨_, rfl⟩
  | primary h ih => exact ih
  | and h h' ih ih' =>
    obtain ⟨us, rfl⟩ := ih
    exact ⟨_, rfl⟩
  | conjunction h ih => exact ih
  | or h h' ih ih' =>
    obtain ⟨us, rfl⟩ := ih
    exact ⟨_, rfl⟩

/-- The lexemes do not go on with a join that belongs to the class. -/
def Stops : Rank → List Lexeme → Prop
  | .primary, _ => True
  | .conjunction, ts => ts.head? ≠ some (.word Join.and.word)
  | .disjunction, ts => ts.head? ≠ some (.word Join.and.word) ∧ ts.head? ≠ some (.word Join.or.word)

private theorem lexemes_append_inj {op op' : SqlOperator}
    (h : op.lexemes ++ .hole :: rest = op'.lexemes ++ .hole :: rest') : op = op' := by
  cases op with
  | compare op =>
    cases op' with
    | compare op' => cases op <;> cases op' <;> simp_all [SqlOperator.lexemes, Operator.symbol]
    | is => cases op <;> simp [SqlOperator.lexemes, Operator.symbol] at h
    | isNot => cases op <;> simp [SqlOperator.lexemes, Operator.symbol] at h
  | is =>
    cases op' with
    | compare op' => cases op' <;> simp [SqlOperator.lexemes, Operator.symbol] at h
    | is => rfl
    | isNot => simp [SqlOperator.lexemes] at h
  | isNot =>
    cases op' with
    | compare op' => cases op' <;> simp [SqlOperator.lexemes, Operator.symbol] at h
    | is => simp [SqlOperator.lexemes] at h
    | isNot => rfl

private theorem condition_eq_of_append {c c' : Condition} (h : c.lexemes ++ rest = c'.lexemes ++ rest') :
    c = c' := by
  obtain ⟨field, op⟩ := c
  obtain ⟨field', op'⟩ := c'
  simp only [Condition.lexemes, List.cons_append, List.append_assoc, List.cons.injEq, Lexeme.word.injEq,
    true_and] at h
  obtain ⟨rfl, h⟩ := h
  rw [lexemes_append_inj h]

private theorem condition_ne_parentheses (c : Condition) (h : Reads .disjunction ts e) :
    c.lexemes ++ rest ≠ .opening :: (ts ++ [.closing]) ++ rest' := by
  obtain ⟨us, rfl⟩ := h.exists_opening_cons
  simp [Condition.lexemes]

/-- Two readings of beginnings of the same lexemes, neither of which could go on, are the same. -/
theorem prefix_unique (h : Reads l ts e) (h' : Reads l ts' e') (hrest : Stops l rest) (hrest' : Stops l rest')
    (heq : ts ++ rest = ts' ++ rest') : ts = ts' ∧ e = e' := by
  -- The first parts of the two readings are compared by induction.  Each is followed by a join of its own reading
  -- or by the rest, and neither can go on with what comes next.
  induction h generalizing ts' e' rest rest' with
  | condition c =>
    cases h' with
    | condition c' =>
      rw [condition_eq_of_append heq]
      exact ⟨rfl, rfl⟩
    | parentheses h' => exact absurd heq (condition_ne_parentheses c h')
  | @parentheses ts e h ih =>
    cases h' with
    | condition c' => exact absurd heq.symm (condition_ne_parentheses c' h)
    | @parentheses ts' _ h' =>
      have hinner : ts ++ .closing :: rest = ts' ++ .closing :: rest' := by simpa using heq
      obtain ⟨rfl, rfl⟩ := ih h' (by simp [Stops]) (by simp [Stops]) hinner
      exact ⟨rfl, rfl⟩
  | @primary ts e h ih =>
    cases h' with
    | primary h' => exact ih h' trivial trivial heq
    | @and us us' f f' h' h'' =>
      rw [List.append_assoc] at heq
      obtain ⟨rfl, -⟩ := ih h' trivial trivial heq
      rw [List.append_cancel_left heq] at hrest
      simp [Stops] at hrest
  | @and ts₁ ts₂ e₁ e₂ h₁ h₂ ih₁ ih₂ =>
    rw [List.append_assoc] at heq
    cases h' with
    | primary h' =>
      obtain ⟨rfl, -⟩ := ih₁ h' trivial trivial heq
      rw [← List.append_cancel_left heq] at hrest'
      simp [Stops] at hrest'
    | @and us us' f f' h' h'' =>
      rw [List.append_assoc] at heq
      obtain ⟨rfl, rfl⟩ := ih₁ h' trivial trivial heq
      have htail := List.append_cancel_left heq
      obtain ⟨rfl, rfl⟩ := ih₂ h'' hrest hrest' (List.cons.inj htail).2
      exact ⟨rfl, rfl⟩
  | @conjunction ts e h ih =>
    cases h' with
    | conjunction h' => exact ih h' hrest.1 hrest'.1 heq
    | @or us us' f f' h' h'' =>
      rw [List.append_assoc] at heq
      obtain ⟨rfl, -⟩ := ih h' hrest.1 (by simp [Stops, Join.word]) heq
      rw [List.append_cancel_left heq] at hrest
      simp [Stops] at hrest
  | @or ts₁ ts₂ e₁ e₂ h₁ h₂ ih₁ ih₂ =>
    rw [List.append_assoc] at heq
    cases h' with
    | conjunction h' =>
      obtain ⟨rfl, -⟩ := ih₁ h' (by simp [Stops, Join.word]) hrest'.1 heq
      rw [← List.append_cancel_left heq] at hrest'
      simp [Stops] at hrest'
    | @or us us' f f' h' h'' =>
      rw [List.append_assoc] at heq
      obtain ⟨rfl, rfl⟩ := ih₁ h' (by simp [Stops, Join.word]) (by simp [Stops, Join.word]) heq
      have htail := List.append_cancel_left heq
      obtain ⟨rfl, rfl⟩ := ih₂ h'' hrest hrest' (List.cons.inj htail).2
      exact ⟨rfl, rfl⟩

theorem unique (h : Reads l ts e) (h' : Reads l ts e') : e = e' := by
  have hnil : Stops l [] := by cases l <;> simp [Stops]
  exact (prefix_unique h h' hnil hnil rfl).2

end Reads

end ParamQuery
