import PostSearch.Datum

/-! # Bound values

Values never stand in a statement: each is bound to a placeholder `:stem_k`, and `k` counts the
values bound before it. The name of the text search configuration is bound at most once, when the
first text query needs it. -/

namespace PostSearch.Sql

/-- Stands in a statement for a bound value. -/
structure Placeholder where
  stem : String
  index : Nat
deriving DecidableEq, Repr

def Placeholder.name (p : Placeholder) : String :=
  p.stem ++ "_" ++ toString p.index

/-- The placeholder as it stands in a statement. -/
def Placeholder.text (p : Placeholder) : String :=
  ":" ++ p.name

/-- The values bound so far, in order. -/
structure Params where
  stem : String
  values : List Datum
  /-- Where the text search configuration is bound, if it is. -/
  config : Option Placeholder
deriving DecidableEq, Repr

namespace Params

def empty (stem : String) : Params :=
  ⟨stem, [], none⟩

/-- Stem of the placeholders of a search statement. -/
def defaultStem : String := "p"

def entries (ps : Params) : List (String × Datum) :=
  ps.values.zipIdx.map fun (v, i) => ((Placeholder.mk ps.stem i).name, v)

def bind (v : Datum) : StateM Params Placeholder := fun ps =>
  (⟨ps.stem, ps.values.length⟩, { ps with values := ps.values ++ [v] })

/-- The placeholder of the text search configuration, bound now if it was not before. -/
def bindConfig (config : Datum) : StateM Params Placeholder := fun ps =>
  match ps.config with
  | some p => (p, ps)
  | none =>
    let (p, ps) := bind config ps
    (p, { ps with config := some p })

/-- Bind a value if there is one. -/
def bindOption (v : Option Datum) : StateM Params (Option Placeholder) :=
  match v with
  | none => return none
  | some v => do return some (← bind v)

end Params

end PostSearch.Sql
