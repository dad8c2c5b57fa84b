import PostSearch.Query.Fold
import PostSearch.Query.LexemeTokens
import PostSearch.Query.ScopeWalk
import PostSearch.Unicode.Lowercase
import PostSearch.Unicode.Normalization

/-! # Parsing

`parse` is scanning of the normalised text, then the comment scope, then folding. -/

namespace PostSearch.Query

open Unicode

/-- Shortest beginning that words are looked up by, unless settings say otherwise. -/
def defaultMinStem : Int := 2

/-- One form and one letter case for every text. -/
def normalize (s : List Char) : List Char :=
  lowercase (compatibilityForm s)

/-- The tokens of lexemes, in order; the first failure wins. -/
def lexemesTokens (minStem : Int) : List Lexeme → Except NumeralError (List Token)
  | [] => .ok []
  | l :: rest => do
    let tokens ← l.tokens minStem
    return tokens ++ (← lexemesTokens minStem rest)

def scan (minStem : Int) (s : List Char) : Except NumeralError (List Token) :=
  lexemesTokens minStem (lexemes s)

/-- The tokens of a query, combinators among them. -/
def tokenize (query : String) (minStem : Int) : Except NumeralError (List Token) :=
  scan minStem (normalize query.toList)

def parse (query : String) (minStem : Int) : Except NumeralError (List Token) :=
  (tokenize query minStem).map fun tokens => foldCombinators (applyCommentScope tokens)

end PostSearch.Query
