import PostSearch.Query.ScopeWalk
import PostSearch.Sql.Params
import PostSearch.Text.Split

/-! # Text queries

Texts of a query become text search expressions. Words, phrases and beginnings of words are read
by three different functions; groups are joined by `||`, sequences by `<->`, and the texts of a
scope by `&&`. The operands of an expression are values at first; `bind` replaces them by
placeholders, binding the configuration on first use and then every text, from left to right. -/

namespace PostSearch.Sql

open Query

/-- How a text is looked for. -/
inductive MatchMode where
  | words
  | phrase
  | stem
deriving DecidableEq, Repr

/-- The function that reads texts of the mode. -/
def MatchMode.reader : MatchMode → String
  | .words => "plainto_tsquery"
  | .phrase => "phraseto_tsquery"
  | .stem => "to_tsquery"

/-- How queries are joined. -/
inductive TextJoint where
  | any
  | adjacent
  | all
deriving DecidableEq, Repr

def TextJoint.symbol : TextJoint → String
  | .any => "||"
  | .adjacent => "<->"
  | .all => "&&"

/-- A text search expression with operands of type `ν`. -/
inductive TextQuery (ν : Type) where
  | term (config : ν) (excluded : Bool) (mode : MatchMode) (value : ν)
  | joined (joint : TextJoint) (parts : List (TextQuery ν))

namespace TextQuery

/-- Expressions joined by an operator; a single one stands by itself. -/
def joinedText (joint : TextJoint) : List String → String
  | [s] => s
  | parts => "(" ++ Text.joinWith (" " ++ joint.symbol ++ " ") parts ++ ")"

mutual

/-- The expression as it stands in a statement. -/
def text : TextQuery Placeholder → String
  | .term config excluded mode value =>
    let call := mode.reader ++ "(cast(" ++ config.text ++ " as regconfig), " ++ value.text ++ ")"
    if excluded then "(!!" ++ call ++ ")" else call
  | .joined joint parts => joinedText joint (texts parts)

def texts : List (TextQuery Placeholder) → List String
  | [] => []
  | q :: qs => text q :: texts qs

end

mutual

/-- Replace the operands, from left to right, by the placeholders they are bound to. -/
def bind : TextQuery Datum → StateM Params (TextQuery Placeholder)
  | .term config excluded mode value => do
    let config ← Params.bindConfig config
    return .term config excluded mode (← Params.bind value)
  | .joined joint parts => return .joined joint (← bindAll parts)

def bindAll : List (TextQuery Datum) → StateM Params (List (TextQuery Placeholder))
  | [] => return []
  | q :: qs => do
    let q ← bind q
    return q :: (← bindAll qs)

end

/-- Bind the operands of an expression if there is one. -/
def bindOption : Option (TextQuery Datum) → StateM Params (Option (TextQuery Placeholder))
  | none => return none
  | some q => do return some (← bind q)

end TextQuery

/-! ### Lexemes -/

/-- A character within a quoted lexeme. -/
def lexemeChar (c : Char) : List Char :=
  if c = '\\' then ['\\', '\\'] else if c = '\'' then ['\'', '\''] else [c]

/-- A word as a quoted lexeme. -/
def quoteLexeme (w : List Char) : List Char :=
  '\'' :: w.flatMap lexemeChar ++ ['\'']

/-- The lexeme of all words that begin with `w`, whose stars at the end are left out. -/
def stemLexeme (w : List Char) : List Char :=
  quoteLexeme (Unicode.dropWhileEnd (· == '*') w) ++ [':', '*']

/-! ### Queries of tokens -/

/-- How a text is looked for. -/
def matchMode (leaf : Leaf) : MatchMode :=
  if leaf.isPhrase then .phrase else if leaf.isStem then .stem else .words

/-- The value that is bound for a text. -/
def leafValue (leaf : Leaf) : String :=
  match matchMode leaf with
  | .stem => String.ofList (stemLexeme leaf.value.toList)
  | .words | .phrase => leaf.value

def leafQuery (config : Datum) (leaf : Leaf) : TextQuery Datum :=
  .term config leaf.excluded (matchMode leaf) (.text (leafValue leaf))

/-- Query of a group: any of its texts. -/
def groupQuery (config : Datum) (g : Group) : TextQuery Datum :=
  .joined .any (g.map (leafQuery config))

/-- Query of a token with its values in place, if it looks for texts. -/
def plainQuery? (config : Datum) : Token → Option (TextQuery Datum)
  | .leaf l => some (leafQuery config l)
  | .group g => some (groupQuery config g)
  | .sequence gs => some (.joined .adjacent (gs.map (groupQuery config)))
  | .inScope _ g => some (groupQuery config g)
  | .condition _ | .scopeStart _ | .pipe | .plus => none

/-- Query of a token, if it looks for texts. -/
def tokenQuery? (config : Datum) (t : Token) : Option (StateM Params (TextQuery Placeholder)) :=
  (plainQuery? config t).map TextQuery.bind

/-- The token is a block of texts. -/
def isTextBlock : Token → Bool
  | .sequence _ | .inScope _ _ => true
  | _ => false

/-- Query of all text blocks of exactly the given scope with its values in place, if there are any.
-/
def plainScopeQuery? (config : Datum) (tokens : List Token) (scope : Scope) :
    Option (TextQuery Datum) :=
  match ((inScope scope tokens).filter isTextBlock).filterMap (plainQuery? config) with
  | [] => none
  | queries => some (.joined .all queries)

/-- Query of all text blocks of exactly the given scope, if there are any. -/
def scopeQuery (config : Datum) (tokens : List Token) (scope : Scope) :
    StateM Params (Option (TextQuery Placeholder)) :=
  TextQuery.bindOption (plainScopeQuery? config tokens scope)

end PostSearch.Sql
