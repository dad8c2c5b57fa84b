import PostSearch.Datum
import PostSearch.Query.Parse

/-! # Stem lengths of any kind

The length of the shortest stem is asked for only when a word ends with a star. So a datum that is
no number is refused by the first lexeme that asks for it, and does no harm to a query without such
a lexeme. -/

namespace PostSearch.Query

/-- Trimming the word depends on the length of the shortest stem. -/
def asksLength (s : List Char) : Bool :=
  hasStar s && core s != []

/-- Trimming some word between commas depends on the length of the shortest stem. -/
def listAsksLength (s : List Char) : Bool :=
  (Text.splitAt ',' s).any asksLength

/-- What the body of a named lexeme asks for; `raw` is the whole lexeme. -/
def namedAsksLength (name : List Char) (body : Body) (raw : List Char) : Bool :=
  if (spelled? name listSpellings).isSome then listAsksLength body.listed
  else if (spelled? name scopeSpellings).isSome then
    body.phrase?.isNone && listAsksLength body.plainWord
  else if (spelled? name dateSpellings).isSome || (spelled? name fileSpellings).isSome ||
      (spelled? name counterSpellings).isSome then false
  else asksLength raw

def Lexeme.asksLength (l : Lexeme) : Bool :=
  match l with
  | .pipe | .plus => false
  | .term _ name body =>
    if (openedScope? l.text).isSome then false
    else match name with
      | some name => namedAsksLength name body l.text
      | none => body.phrase?.isNone && Query.asksLength body.plainWord

/-- Refusal of a datum that lengths do not compare with. -/
def lengthMisfit (minStem : Datum) : Datum.Misfit :=
  .incomparable ">=" minStem.kindName

/-- Strip a word with any datum for the length of the shortest stem. -/
def trimWith (minStem : Datum) (s : List Char) : Except Datum.Misfit (List Char) :=
  match minStem.number? with
  | some n => .ok (trim n s)
  | none => if asksLength s then .error (lengthMisfit minStem) else .ok (trim 0 s)

/-- The tokens of lexemes with any datum for the length of the shortest stem. -/
def lexemesTokensWith (minStem : Datum) (ls : List Lexeme) :
    Except Datum.Misfit (List Token) :=
  match minStem.number? with
  | some n => (lexemesTokens n ls).mapError .numeral
  | none => do
    let unasking (l : Lexeme) : Bool := !l.asksLength
    let tokens ← (lexemesTokens 0 (ls.takeWhile unasking)).mapError .numeral
    if ls.all unasking then return tokens else throw (lengthMisfit minStem)

/-- The tokens of a query, combinators among them, with any datum for the length of the shortest
stem. -/
def tokenizeWith (query : String) (minStem : Datum) : Except Datum.Misfit (List Token) :=
  lexemesTokensWith minStem (lexemes (normalize query.toList))

/-- The tokens of a query, with any datum for the length of the shortest stem. If there is none, the
usual length counts. -/
def parseWith (query : String) (minStem : Datum) : Except Datum.Misfit (List Token) :=
  (tokenizeWith query (minStem.getD (.number defaultMinStem))).map fun tokens =>
    foldCombinators (applyCommentScope tokens)

/-- With a number for the length, the tokens are those of that length. -/
theorem parseWith_number (query : String) (n : Int) :
    parseWith query (.number n) = (parse query n).mapError .numeral := by
  unfold parseWith parse tokenizeWith tokenize scan lexemesTokensWith
  simp only [Datum.getD_number, Datum.number?]
  cases lexemesTokens n (lexemes (normalize query.toList)) <;> rfl

end PostSearch.Query
