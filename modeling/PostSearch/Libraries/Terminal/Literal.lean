import PostSearch.Text.Numeral

/-! # Literals

What a mark passes to an action is written as a literal: numbers, texts, the words `True`, `False`
and `None`, three dots, and tuples, sets and tables of literals. `isLiteral` says whether a text is
one. It cuts the text into symbols first. Line breaks count as blanks between brackets; elsewhere
they may stand around the literal, but not in it. -/

namespace PostSearch.Terminal.Literal

/-! ### Symbols -/

/-- The smallest parts of a literal. -/
inductive Symbol where
  | number (imaginary : Bool)
  | text (ofBytes : Bool)
  | word (w : List Char)
  /-- A bracket, comma, colon or sign. -/
  | mark (c : Char)
  | dots
  | lineBreak
deriving DecidableEq, Repr

/-- The character may be part of a word. -/
def isWordPart (c : Char) : Bool :=
  c.isAlphanum || c == '_' || 128 ≤ c.toNat

/-- Digits in a radix, with single underscores between them. -/
def digits (radix : Nat) : List Char → List Char × List Char
  | [] => ([], [])
  | '_' :: c :: s =>
    if (Numeral.digitOf? radix c).isSome then
      let (ds, rest) := digits radix s
      (c :: ds, rest)
    else ([], '_' :: c :: s)
  | c :: s =>
    if (Numeral.digitOf? radix c).isSome then
      let (ds, rest) := digits radix s
      (c :: ds, rest)
    else ([], c :: s)

/-- Digits in a radix, the first of which follows no underscore. -/
def leadingDigits (radix : Nat) (s : List Char) : List Char × List Char :=
  match s with
  | '_' :: _ => ([], s)
  | _ => digits radix s

/-- The radix of a numeral and what follows its mark. -/
def markedRadix? : List Char → Option (Nat × List Char)
  | '0' :: mark :: s =>
    if mark = 'x' ∨ mark = 'X' then some (16, s)
    else if mark = 'o' ∨ mark = 'O' then some (8, s)
    else if mark = 'b' ∨ mark = 'B' then some (2, s)
    else none
  | _ => none

/-- A fraction after a point: its digits, and whether there is a point. -/
def fraction : List Char → Bool × List Char × List Char
  | '.' :: s => (true, leadingDigits 10 s)
  | s => (false, [], s)

/-- The rest after an exponent, if there is one. -/
def exponent? : List Char → Option (List Char)
  | e :: s =>
    if e = 'e' ∨ e = 'E' then
      let unsigned := match s with
        | '+' :: t => t
        | '-' :: t => t
        | t => t
      match leadingDigits 10 unsigned with
      | ([], _) => none
      | (_, rest) => some rest
    else none
  | [] => none

/-- A numeral in radix ten: whether it is imaginary, and the rest. A whole number has no leading
zeros and not too many digits. -/
def decimal? (s : List Char) : Option (Bool × List Char) :=
  let (whole, afterWhole) := leadingDigits 10 s
  let (hasPoint, parts, afterFraction) := fraction afterWhole
  let afterExponent := exponent? afterFraction
  let rest := afterExponent.getD afterFraction
  if whole.isEmpty && parts.isEmpty then none
  else match rest with
    | 'j' :: rest => some (true, rest)
    | 'J' :: rest => some (true, rest)
    | rest =>
      if hasPoint || afterExponent.isSome then some (false, rest)
      else if (whole.head? = some '0' && whole.any (· ≠ '0')) ||
          Numeral.digitLimit < whole.length then none
      else some (false, rest)

/-- A numeral, nothing of a word following it. -/
def number? (s : List Char) : Option (Symbol × List Char) := do
  let (imaginary, rest) ← match markedRadix? s with
    | some (radix, t) =>
      let t := match t with
        | '_' :: t => t
        | t => t
      match leadingDigits radix t with
      | ([], _) => none
      | (_, rest) => some (false, rest)
    | none => decimal? s
  if rest.head?.any isWordPart then none else some (.number imaginary, rest)

/-- Hexadecimal digits of an escape, and how many are missing. -/
def escapeDigits : Char → Nat
  | 'x' => 2
  | 'u' => 4
  | 'U' => 8
  | _ => 0

/-- The escape of the letter `e`, before the text `s`, has all its digits. In bytes only those of
two digits have a meaning. -/
def isEscape (ofBytes : Bool) (e : Char) (s : List Char) : Bool :=
  let n := if ofBytes && e != 'x' then 0 else escapeDigits e
  let code := s.take n
  code.length == n && code.all (fun c => (Numeral.digitOf? 16 c).isSome) &&
    Numeral.ofDigits 16 (code.filterMap (Numeral.digitOf? 16)) < 0x110000 &&
    (ofBytes || e != 'N')

/-- How a text is written. -/
structure Quotes where
  mark : Char
  /-- The quotes are three marks each, and line breaks may stand between them. -/
  triple : Bool
  /-- A backslash is no escape. -/
  raw : Bool
  ofBytes : Bool
deriving DecidableEq, Repr

/-- The rest after the closing quotes. -/
def closed? (q : Quotes) : List Char → Option (List Char)
  | [] => none
  | '\\' :: e :: s =>
    if q.ofBytes && 128 ≤ e.toNat then none
    else if q.raw || isEscape q.ofBytes e s then closed? q s else none
  | a :: b :: c :: s =>
    if a = q.mark then
      if !q.triple then some (b :: c :: s)
      else if b = q.mark ∧ c = q.mark then some s
      else closed? q (b :: c :: s)
    else if (a = '\n' && !q.triple) || (q.ofBytes && 128 ≤ a.toNat) then none
    else closed? q (b :: c :: s)
  | a :: s =>
    if a = q.mark then if q.triple then none else some s
    else if (a = '\n' && !q.triple) || (q.ofBytes && 128 ≤ a.toNat) then none
    else closed? q s

/-- Words in front of the quotes, in lower case: raw or not, of bytes or not. -/
def openings : List (String × Bool × Bool) :=
  [("", false, false), ("u", false, false), ("r", true, false), ("b", false, true),
    ("br", true, true), ("rb", true, true)]

/-- A text after the word in front of its quotes. -/
def text? (opening : List Char) (s : List Char) : Option (Symbol × List Char) := do
  let (raw, ofBytes) ← openings.lookup (String.ofList (opening.map Char.toLower))
  match s with
  | a :: b :: c :: rest =>
    if a = b ∧ b = c then return (.text ofBytes, ← closed? ⟨a, true, raw, ofBytes⟩ rest)
    else return (.text ofBytes, ← closed? ⟨a, false, raw, ofBytes⟩ (b :: c :: rest))
  | a :: rest => return (.text ofBytes, ← closed? ⟨a, false, raw, ofBytes⟩ rest)
  | [] => none

def isQuote (c : Char) : Bool :=
  c == '\'' || c == '"'

/-- The symbol at the start of the text, which is no blank. -/
def symbol? (s : List Char) : Option (Symbol × List Char) :=
  match s with
  | '\n' :: rest => some (.lineBreak, rest)
  | '.' :: '.' :: '.' :: rest => some (.dots, rest)
  | c :: rest =>
    if c.isDigit || c == '.' then number? s
    else if isQuote c then text? [] s
    else if isWordPart c then
      let word := s.takeWhile isWordPart
      let rest := s.dropWhile isWordPart
      if rest.head?.any isQuote then text? word rest else some (.word word, rest)
    else if "()\x7b\x7d,:+-".toList.contains c then some (.mark c, rest)
    else none
  | [] => none

/-- The text without the blanks and the comment at its start. -/
def skipBlanks (betweenBrackets : Bool) (s : List Char) : List Char :=
  let isSpace (c : Char) : Bool :=
    c == ' ' || c == '\t' || c == '\x0c' || (betweenBrackets && (c == '\n' || c == '\r'))
  s.dropWhile isSpace

/-- The symbols of a text, none if it has other parts. The first number bounds the steps, the second
one counts the brackets that are open. -/
def symbols? : Nat → Nat → List Char → Option (List Symbol)
  | 0, _, _ => none
  | steps + 1, depth, s =>
    match skipBlanks (depth ≠ 0) s with
    | [] => some []
    | '#' :: comment => symbols? steps depth (comment.dropWhile (· ≠ '\n'))
    | '\\' :: '\n' :: rest => symbols? steps depth rest
    | s => do
      let (symbol, rest) ← symbol? s
      let depth := match symbol with
        | .mark '(' | .mark '\x7b' => depth + 1
        | .mark ')' | .mark '\x7d' => depth - 1
        | _ => depth
      return symbol :: (← symbols? steps depth rest)

/-! ### Values -/

/-- What is known of the value of a literal. -/
inductive Kind where
  /-- A number without a sign. -/
  | number (imaginary : Bool)
  /-- A number with a sign. -/
  | signed (imaginary : Bool)
  /-- Some other value that may stand in a set. -/
  | plain
  /-- A set or a table, or a tuple that holds one. -/
  | changeable
deriving DecidableEq, Repr

/-- Kind of a tuple of values. -/
def tupleKind (kinds : List Kind) : Kind :=
  if kinds.contains .changeable then .changeable else .plain

/-- Texts that follow a text at once continue it, if they are of one nature. -/
def textKind (ofBytes : Bool) : List Symbol → Option (Kind × List Symbol)
  | .text other :: rest => if other = ofBytes then textKind ofBytes rest else none
  | rest => some (.plain, rest)

/-- Words that are values. -/
def valueWords : List String :=
  ["True", "False", "None"]

mutual

/-- A value without a sign. The number bounds the steps of all readers. -/
def primary? : Nat → List Symbol → Option (Kind × List Symbol)
  | 0, _ => none
  | steps + 1, s =>
    match s with
    | .number imaginary :: rest => some (.number imaginary, rest)
    | .text ofBytes :: rest => textKind ofBytes rest
    | .dots :: rest => some (.plain, rest)
    | .word w :: rest =>
      if valueWords.any (·.toList = w) then some (.plain, rest)
      else match rest with
        | .mark '(' :: .mark ')' :: rest =>
          if w = "set".toList then some (.changeable, rest) else none
        | _ => none
    | .mark '(' :: .mark ')' :: rest => some (.plain, rest)
    | .mark '(' :: rest => do
      match ← tuple? steps rest with
      | (kind, .mark ')' :: rest) => some (kind, rest)
      | _ => none
    | .mark '\x7b' :: .mark '\x7d' :: rest => some (.changeable, rest)
    | .mark '\x7b' :: rest => do
      match ← collection? steps none rest with
      | .mark '\x7d' :: rest => some (.changeable, rest)
      | _ => none
    | _ => none

/-- A value with at most one sign. -/
def signed? : Nat → List Symbol → Option (Kind × List Symbol)
  | 0, _ => none
  | steps + 1, s =>
    let negated (rest : List Symbol) : Option (Kind × List Symbol) := do
      match ← primary? steps rest with
      | (.number imaginary, rest) => some (.signed imaginary, rest)
      | _ => none
    match s with
    | .mark '+' :: rest => negated rest
    | .mark '-' :: rest => negated rest
    | _ => primary? steps s

/-- A value, which may be the sum of a real and an imaginary number. -/
def value? : Nat → List Symbol → Option (Kind × List Symbol)
  | 0, _ => none
  | steps + 1, s => do
    let (kind, rest) ← signed? steps s
    let sum (rest : List Symbol) : Option (Kind × List Symbol) := do
      match kind, ← primary? steps rest with
      | .number false, (.number true, rest) => some (.plain, rest)
      | .signed false, (.number true, rest) => some (.plain, rest)
      | _, _ => none
    match rest with
    | .mark '+' :: rest => sum rest
    | .mark '-' :: rest => sum rest
    | _ => some (kind, rest)

/-- Values between commas: a single value without a comma is itself, all else is a tuple. -/
def tuple? : Nat → List Symbol → Option (Kind × List Symbol)
  | 0, _ => none
  | steps + 1, s => do
    match ← value? steps s with
    | (kind, .mark ',' :: rest) =>
      let (kinds, rest) ← values? steps rest
      some (tupleKind (kind :: kinds), rest)
    | single => some single

/-- Further values between commas; a comma may stand behind the last one. -/
def values? : Nat → List Symbol → Option (List Kind × List Symbol)
  | 0, _ => none
  | steps + 1, s =>
    match s with
    | [] => some ([], [])
    | .mark ')' :: rest => some ([], .mark ')' :: rest)
    | _ => do
      match ← value? steps s with
      | (kind, .mark ',' :: rest) =>
        let (kinds, rest) ← values? steps rest
        some (kind :: kinds, rest)
      | (kind, rest) => some ([kind], rest)

/-- Values or entries between commas, if it is known which. What stands in a set or before the colon
of an entry does not change. -/
def collection? : Nat → Option Bool → List Symbol → Option (List Symbol)
  | 0, _, _ => none
  | steps + 1, ofEntries, s =>
    match s with
    | .mark '\x7d' :: rest => some (.mark '\x7d' :: rest)
    | _ => do
      let (kind, rest) ← value? steps s
      if kind = .changeable then none
      else
        let (isEntry, rest) ← match rest with
          | .mark ':' :: rest => do
            let (_, rest) ← value? steps rest
            some (true, rest)
          | rest => some (false, rest)
        if ofEntries = some (!isEntry) then none
        else match rest with
          | .mark ',' :: rest => collection? steps (some isEntry) rest
          | rest => some rest

end

/-- The symbols are those of a literal. Every bracket takes a few steps, and so does every value. -/
def isLiteralOf (s : List Symbol) : Bool :=
  tuple? (6 * s.length + 6) s matches some (_, [])

def isLiteral (s : List Char) : Bool :=
  match symbols? (s.length + 1) 0 s with
  | some symbols =>
    let inner := symbols.dropWhile (· = .lineBreak)
    isLiteralOf (inner.reverse.dropWhile (· = .lineBreak)).reverse
  | none => false

end PostSearch.Terminal.Literal
