import PostSearch.Text.Split

/-! # Joining predicates

Predicates are texts. `conjoin`, `disjoin` and `negate` join them and simplify as they go: the texts
`true` and `false` absorb or disappear, missing predicates (empty texts) are left out, and a single
one needs no parentheses. -/

namespace PostSearch.Sql

/-- Join predicates; `absorbing` decides the result, `identity` makes no difference. -/
def joinParts (absorbing identity joiner : String) (parts : List String) : String :=
  let present := parts.filter (· ≠ "")
  if absorbing ∈ present then absorbing
  else match present.filter (· ≠ identity) with
    | [] => identity
    | [p] => p
    | ps => "(" ++ Text.joinWith (" " ++ joiner ++ " ") ps ++ ")"

def conjoin (parts : List String) : String :=
  joinParts "false" "true" "and" parts

def disjoin (parts : List String) : String :=
  joinParts "true" "false" "or" parts

/-- Not the predicate; one of several words is put into parentheses. -/
def negate (s : String) : String :=
  if s = "true" then "false"
  else if s = "false" then "true"
  else if s.toList.contains ' ' then "not (" ++ s ++ ")"
  else "not " ++ s

/-- The predicate is there and depends on the row. -/
def isNontrivial (s : String) : Bool :=
  s ≠ "" && s ≠ "true" && s ≠ "false"

end PostSearch.Sql
