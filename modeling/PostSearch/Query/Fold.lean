import PostSearch.Query.Token

/-! # Combinators

`|` binds tighter than `+`, and `+` tighter than standing side by side. Two folds take the
combinators away in this order: `joinPipes` merges groups around pipes, `joinPluses` wraps groups
into sequences and joins those around pluses. A combinator that has nothing to join is dropped. -/

namespace PostSearch.Query

/-- Merge groups around pipes; `done` holds the tokens already folded, last first. -/
def joinPipesOnto (done : List Token) : List Token → List Token
  | [] => done.reverse
  | .pipe :: .group h :: rest =>
    match done with
    | .group g :: done => joinPipesOnto (.group (g ++ h) :: done) rest
    | done => joinPipesOnto (.group h :: done) rest
  | .pipe :: rest => joinPipesOnto done rest
  | t :: rest => joinPipesOnto (t :: done) rest

def joinPipes (tokens : List Token) : List Token :=
  joinPipesOnto [] tokens

/-- Join sequences around pluses; `done` holds the tokens already folded, last first. -/
def joinPlusesOnto (done : List Token) : List Token → List Token
  | [] => done.reverse
  | .plus :: .group g :: rest =>
    match done with
    | .sequence gs :: done => joinPlusesOnto (.sequence (gs ++ [g]) :: done) rest
    | done => joinPlusesOnto (.sequence [g] :: done) rest
  | .plus :: rest => joinPlusesOnto done rest
  | .group g :: rest => joinPlusesOnto (.sequence [g] :: done) rest
  | t :: rest => joinPlusesOnto (t :: done) rest

/-- Wrap groups into sequences and join those around pluses. -/
def joinPluses (tokens : List Token) : List Token :=
  joinPlusesOnto [] tokens

/-- Fold both combinators away. -/
def foldCombinators (tokens : List Token) : List Token :=
  joinPluses (joinPipes tokens)

end PostSearch.Query
