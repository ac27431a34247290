import ParamQuery.Text.Blank

/-!
# Selection of allowed tokens

Each token is read as an entry, an item that concerns a field.  Tokens that are blank or cannot be read are left
out, and so are entries on fields that are not allowed.  `selectFirst` takes only the first entry on each field,
where an entry that is not allowed counts as well; `selectAll` takes all.

Reading a token may have effects.  They come in the order of the tokens, also for an entry that is left out.
-/

namespace ParamQuery

structure Entry (α : Type) where
  field : String
  item : α
  deriving DecidableEq, Repr

variable {α : Type} {m : Type → Type} [Monad m]

/-- The entry of a token, read without the white space around it. -/
def readEntry (read : String → m (Option (Entry α))) (token : String) : m (Option (Entry α)) :=
  let token := Text.trim token
  if token = "" then pure none else read token

/-- The items of one pass over the tokens; `seen` holds the fields of the entries before them. -/
def selectFrom (repeats : Bool) (allowed : String → Bool) (read : String → m (Option (Entry α)))
    (seen : List String) : List String → m (List α)
  | [] => pure []
  | token :: tokens => do
    match ← readEntry read token with
    | none => selectFrom repeats allowed read seen tokens
    | some e =>
      if !repeats ∧ e.field ∈ seen then selectFrom repeats allowed read seen tokens
      else
        let items ← selectFrom repeats allowed read (e.field :: seen) tokens
        pure (if allowed e.field then e.item :: items else items)

def selectFirst (allowed : String → Bool) (read : String → Option (Entry α)) (tokens : List String) : List α :=
  Id.run (selectFrom false allowed (fun token => pure (read token)) [] tokens)

def selectAll (allowed : String → Bool) (read : String → Option (Entry α)) (tokens : List String) : List α :=
  Id.run (selectFrom true allowed (fun token => pure (read token)) [] tokens)

/-- A token that names a field. -/
def fieldEntry (token : String) : Option (Entry String) :=
  some ⟨token, token⟩

end ParamQuery
