import PostSearch.Query.Operator

/-! # Tokens

A query is a list of tokens. Scanning yields groups of one text each, conditions, scopes, and the
combinators `|` and `+`; folding takes the combinators away and wraps every group into a sequence:

`cat + mouse | dog` is the sequence of the groups `cat` and `mouse | dog`. -/

namespace PostSearch.Query

/-- A word or a phrase that is looked for, or excluded. -/
structure Leaf where
  excluded : Bool
  isPhrase : Bool
  value : String
deriving DecidableEq, Repr

/-- Any of the texts. -/
abbrev Group := List Leaf

/-- A named restriction with its arguments; an interval's are its lower and upper bound. -/
structure Condition where
  excluded : Bool
  operator : Operator
  args : List String
deriving DecidableEq, Repr

/-- A token of a query. -/
inductive Token where
  /-- A text by itself. -/
  | leaf (leaf : Leaf)
  /-- Any of some texts. -/
  | group (group : Group)
  /-- All of some groups, adjacent and in order. -/
  | sequence (groups : List Group)
  | condition (condition : Condition)
  /-- All that follows applies to the scope. -/
  | scopeStart (scope : Scope)
  /-- Texts looked for in one scope. -/
  | inScope (scope : Scope) (group : Group)
  | pipe
  | plus
deriving DecidableEq, Repr

/-! ### Kinds of texts -/

/-- A word that stands for all words beginning with it. -/
def Leaf.isStem (leaf : Leaf) : Bool :=
  !leaf.isPhrase && leaf.value.toList.getLast? == some '*'

/-! ### Complexity -/

/-- Cost of a condition: one an argument, intervals and empty lists counting as one. -/
def Condition.complexity (c : Condition) : Nat :=
  if c.operator.takesInterval then 1 else max c.args.length 1

/-- Cost of a token against the complexity limit: one a text or argument. -/
def Token.complexity : Token → Nat
  | .leaf _ => 1
  | .group g => g.length
  | .sequence gs => gs.flatten.length
  | .condition c => c.complexity
  | .inScope _ g => g.length
  | .scopeStart _ | .pipe | .plus => 0

def complexity : List Token → Nat
  | [] => 0
  | t :: ts => t.complexity + complexity ts

/-! ### Tokens as text -/

def exclusionMark (excluded : Bool) : String :=
  if excluded then "-" else ""

/-- A text, phrases between quotes. -/
def Leaf.text (leaf : Leaf) : String :=
  exclusionMark leaf.excluded ++
    if leaf.isPhrase then "\"" ++ leaf.value ++ "\"" else leaf.value

def groupText (g : Group) : String :=
  "AnyText(" ++ Text.joinWith " | " (g.map Leaf.text) ++ ")"

def Condition.text (c : Condition) : String :=
  exclusionMark c.excluded ++ c.operator.name ++ ":" ++ Text.joinWith "," c.args

/-- A scope with its number. -/
def Scope.text (s : Scope) : String :=
  "<Scope." ++ s.name ++ ": " ++ toString s.number ++ ">"

/-- A token as it is shown. -/
def Token.text : Token → String
  | .leaf l => l.text
  | .group g => groupText g
  | .sequence gs => "SeqTexts(" ++ Text.joinWith " + " (gs.map groupText) ++ ")"
  | .condition c => c.text
  | .scopeStart s => "ScopeStart(scope=" ++ s.text ++ ")"
  | .inScope s g => "InScope(scope=" ++ s.text ++ ", payload=" ++ groupText g ++ ")"
  | .pipe => "Pipe()"
  | .plus => "Plus()"

def Token.kind : Token → String
  | .leaf _ => "Text"
  | .group _ => "AnyText"
  | .sequence _ => "SeqTexts"
  | .condition _ => "Condition"
  | .scopeStart _ => "ScopeStart"
  | .inScope _ _ => "InScope"
  | .pipe => "Pipe"
  | .plus => "Plus"

end PostSearch.Query
