import ParamQuery.Selection

/-!
# Sort keys

A field to sort by; a dash before it means descending order.
-/

namespace ParamQuery

structure SortKey where
  field : String
  descending : Bool
  deriving DecidableEq, Repr

namespace SortKey

def text (k : SortKey) : String :=
  if k.descending then k.field ++ " DESC" else k.field

def ofToken (token : String) : SortKey :=
  match token.toList with
  | '-' :: cs => ⟨Text.trim (String.ofList cs), true⟩
  | _ => ⟨token, false⟩

/-- A token that names a sort key. -/
def entry (token : String) : Option (Entry SortKey) :=
  let key := ofToken token
  some ⟨key.field, key⟩

end SortKey

end ParamQuery
