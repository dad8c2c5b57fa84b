import PostSearch.OpenList
import PostSearch.Query.ScopeWalk
import PostSearch.Site.Lookup

/-! # Conditions taken together

Several conditions of one operator are read together: as an open list that all of them allow, or as
the arguments that are asked for and those that are excluded. -/

namespace PostSearch.Clause

open Query

/-- Accounts by the names that a query uses; a name may belong to nobody. -/
abbrev Accounts := List (String × Option Account)

def Accounts.find? (accounts : Accounts) (name : String) : Option Account :=
  (accounts.lookup name).join

def allowedNames (c : Condition) : OpenList String :=
  OpenList.ofItems c.args (!c.excluded)

/-- The names that all conditions of an operator allow. -/
def allowedByAll (operator : Operator) (tokens : List Token) : OpenList String :=
  (conditionsOf operator tokens).foldl
    (fun allowed c => allowed.intersection (allowedNames c)) .everything

/-- Names of those who may have written the text, in one scope. -/
def textAuthors (tokens : List Token) (scope : Scope) : OpenList String :=
  allowedByAll .textBy (inScope scope tokens)

/-- Names of those who may have written the post. -/
def postAuthors (tokens : List Token) : OpenList String :=
  allowedByAll .postBy tokens

/-- The ids of named accounts; names that belong to nobody are left out. -/
def idsOf (names : OpenList String) (accounts : Accounts) : OpenList String :=
  names.filterMap fun name => (accounts.find? name).map Account.id

/-- The distinct arguments of the conditions that are, or are not, excluded; none if there is no
such condition. -/
def argsWhere (excluded : Bool) (conditions : List Condition) : Option (List String) :=
  match conditions.filter (·.excluded == excluded) with
  | [] => none
  | cs => some (distinct (cs.flatMap Condition.args))

end PostSearch.Clause
