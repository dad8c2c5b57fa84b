import PostSearch.Interval.Counter
import PostSearch.Interval.Dates
import PostSearch.Query.Lexeme
import PostSearch.Query.Token
import PostSearch.Query.Word
import PostSearch.Text.JsonString
import PostSearch.Uuid

/-! # What a lexeme means

`Lexeme.tokens` turns a lexeme into tokens: none if it makes no sense, several for an excluded
list of words in a scope. A name that spells nothing makes the whole lexeme a word. A UUID, quoted
or not, is a phrase of its parts, since its hyphens separate words. -/

namespace PostSearch.Query

open Unicode

/-! ### Texts -/

/-- A phrase; the hyphens of a UUID become spaces. -/
def phraseOf (s : List Char) : List Char :=
  if Uuid.isCanonical s then s.map fun c => if c = '-' then ' ' else c else s

/-- The text between quotes, or as it stands if its escapes make no sense. -/
def unquote (inner : List Char) : List Char :=
  (Text.JsonString.unescape? inner).getD inner

/-- The phrase of a body: a quotation, or a UUID. -/
def Body.phrase? : Body → Option (List Char)
  | .quoted inner => some (phraseOf (unquote inner))
  | .word w => if Uuid.isCanonical w then some (phraseOf w) else none

/-- The word of a body that is no phrase; empty for a phrase. -/
def Body.plainWord : Body → List Char
  | .quoted _ => []
  | .word w => if Uuid.isCanonical w then [] else w

/-- The text of a body as a list of arguments is read from it. -/
def Body.listed : Body → List Char
  | .quoted inner => phraseOf (unquote inner)
  | .word w => w

/-- The words between commas, stripped; those with nothing left are dropped. -/
def words (minStem : Int) (s : List Char) : List (List Char) :=
  ((Text.splitAt ',' s).map (trim minStem)).filter (· ≠ [])

/-- A group of one word, nothing if the word is empty. -/
def wordTokens (excluded : Bool) (w : List Char) : List Token :=
  if w = [] then [] else [.group [⟨excluded, false, String.ofList w⟩]]

/-! ### File types -/

/-- Kinds of attachments that have a name. -/
def fileKinds : List (List Char) :=
  ["image".toList, "audio".toList, "file".toList]

/-- A text without one `s` at its end. -/
def singular (s : List Char) : List Char :=
  if s.getLast? = some 's' then s.dropLast else s

/-- A file type: an extension after a dot, or a kind, possibly in the plural. -/
def fileType? (s : List Char) : Option (List Char) :=
  let w := strip s
  if w.head? = some '.' ∧ 1 < w.length then some w
  else if singular w ∈ fileKinds then some (singular w) else none

def fileTypes (s : List Char) : List (List Char) :=
  (Text.splitAt ',' s).filterMap fileType?

/-! ### Conditions and scopes -/

/-- Tokens of texts that are looked for in a scope: one token for any of the words, or one for each
word that is excluded. -/
def scopeTokens (minStem : Int) (excluded : Bool) (scope : Scope) (body : Body) : List Token :=
  match body.phrase? with
  | some phrase => [.inScope scope [⟨excluded, true, String.ofList phrase⟩]]
  | none =>
    let leaves := (words minStem body.plainWord).map fun w =>
      Leaf.mk excluded false (String.ofList w)
    if leaves = [] then []
    else if excluded then leaves.map fun leaf => .inScope scope [leaf]
    else [.inScope scope leaves]

/-- The condition on an interval, if there is one. -/
def intervalTokens (excluded : Bool) (operator : Operator) (bounds : Option (String × String)) :
    List Token :=
  match bounds with
  | some (lower, upper) => [.condition ⟨excluded, operator, [lower, upper]⟩]
  | none => []

/-- Tokens of a body behind a name; `raw` is the whole lexeme. -/
def namedTokens (minStem : Int) (excluded : Bool) (name : List Char) (body : Body)
    (raw : List Char) : Except NumeralError (List Token) :=
  match spelled? name listSpellings with
  | some operator =>
    .ok [.condition ⟨excluded, operator, (words minStem body.listed).map String.ofList⟩]
  | none =>
  match spelled? name scopeSpellings with
  | some scope => .ok (scopeTokens minStem excluded scope body)
  | none =>
  match spelled? name dateSpellings with
  | some operator =>
    .ok (intervalTokens excluded operator (Interval.dayTexts? body.plainWord))
  | none =>
  match spelled? name fileSpellings with
  | some operator =>
    .ok [.condition ⟨excluded, operator, (fileTypes body.plainWord).map String.ofList⟩]
  | none =>
  match spelled? name counterSpellings with
  | some operator =>
    (Interval.countTexts? body.plainWord).map (intervalTokens excluded operator)
  | none => .ok (wordTokens excluded (trim minStem raw))

/-- Tokens of a body without a name: a phrase that is not blank, or a word. -/
def bareTokens (minStem : Int) (excluded : Bool) (body : Body) : List Token :=
  match body.phrase? with
  | some phrase =>
    if strip phrase = [] then [] else [.group [⟨excluded, true, String.ofList phrase⟩]]
  | none => wordTokens excluded (trim minStem body.plainWord)

/-- The scope that a lexeme opens: it is a spelling of the scope and a colon, and nothing else. -/
def openedScope? (raw : List Char) : Option Scope :=
  if raw.getLast? = some ':' then spelled? raw.dropLast scopeSpellings else none

/-- Tokens of a lexeme. It fails only on a counter that is too long a numeral. -/
def Lexeme.tokens (minStem : Int) (l : Lexeme) : Except NumeralError (List Token) :=
  match l with
  | .pipe => .ok [.pipe]
  | .plus => .ok [.plus]
  | .term excluded name body =>
    match openedScope? l.text with
    | some scope => .ok [.scopeStart scope]
    | none =>
      match name with
      | some name => namedTokens minStem excluded name body l.text
      | none => .ok (bareTokens minStem excluded body)

end PostSearch.Query
