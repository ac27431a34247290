import ParamQuery.Number.Leading
import ParamQuery.RawValue

/-!
# Paging

* `RawValue.bounded` reads an integer leniently and keeps it within bounds;
* `Limits` are the greatest page size and the usual one, for requests that ask for none.
-/

namespace ParamQuery

def clamp (minimum : Int) (maximum : Option Int) (n : Int) : Int :=
  let n := max minimum n
  match maximum with
  | some maximum => min n maximum
  | none => n

/-- The integer, or the one at the start of the text, within the bounds; the default replaces a text without
one.  Any other value is the default, whether within the bounds or not. -/
def RawValue.bounded (value : RawValue) (default minimum : Int) (maximum : Option Int) : Int :=
  match value with
  | .int n => clamp minimum maximum n
  | .text s => clamp minimum maximum ((Number.leadingInt s).getD default)
  | _ => default

/-- What the greatest page size may be configured with. -/
inductive Ceiling where
  | unset
  | bool (b : Bool)
  | int (n : Int)
  deriving DecidableEq, Repr

/-- The number that a configured value counts as. -/
def Ceiling.count : Ceiling → Int
  | unset => 0
  | bool b => if b then 1 else 0
  | int n => n

structure Limits where
  ceiling : Int
  usual : Int
  deriving DecidableEq, Repr

namespace Limits

/-- The page size when none is configured. -/
def standard : Int := 20

/-- The greatest page size: the configured one, at least 1; zero and false configure none. -/
def ceilingOf (greatest : Ceiling) : Int :=
  max 1 (if greatest.count = 0 then standard else greatest.count)

def ofRaw (greatest : Ceiling) (usual : RawValue) : Limits :=
  let ceiling := ceilingOf greatest
  ⟨ceiling, usual.bounded ceiling 1 (some ceiling)⟩

def offset (value : RawValue) : Int :=
  value.bounded 0 0 none

def limit (l : Limits) (value : RawValue) : Int :=
  value.bounded l.usual 1 (some l.ceiling)

end Limits

end ParamQuery
