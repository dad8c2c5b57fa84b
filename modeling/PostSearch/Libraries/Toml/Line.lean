import PostSearch.Text.JsonString
import PostSearch.Toml.Library

/-! # Lines of a TOML document

Every statement of a document is one line: a key with its value, or the header of a table.
`Line.parse` reads a line; the parsers it is made of return what they read together with the rest
of the line. -/

namespace PostSearch.Toml

open Text

/-- A line of a document. -/
inductive Line where
  /-- Nothing but blanks and a comment. -/
  | empty
  | entry (key : String) (value : Datum)
  /-- The keys that follow belong to the table. -/
  | header (name : String)
deriving DecidableEq, Repr

/-! ### Characters -/

def isSpace (c : Char) : Bool :=
  c == ' ' || c == '\t'

/-- Controls, which neither strings nor comments may hold. -/
def isControl (c : Char) : Bool :=
  c != '\t' && (c.toNat < 0x20 || c.toNat == 0x7F)

/-- A character of a key without quotes. -/
def isKeyChar (c : Char) : Bool :=
  c.isAlphanum || c == '_' || c == '-'

/-- The text after the blanks at its start. -/
def skipSpaces (s : List Char) : List Char :=
  s.dropWhile isSpace

/-! ### Strings -/

/-- Contents of a string in single quotes, after the opening one; nothing in it is an escape. -/
def literal? : List Char → Option (List Char × List Char)
  | [] => none
  | '\'' :: rest => some ([], rest)
  | c :: s => if isControl c then none else (literal? s).map fun (t, rest) => (c :: t, rest)

/-- The character that a one-letter escape stands for. -/
def escapedChar? : Char → Option Char
  | 'b' => some '\x08'
  | 't' => some '\t'
  | 'n' => some '\n'
  | 'f' => some '\x0c'
  | 'r' => some '\r'
  | 'e' => some '\x1b'
  | '"' => some '"'
  | '\\' => some '\\'
  | _ => none

/-- The character with the given hexadecimal code. -/
def coded? (digits : List Char) : Option Char := do
  let n := Numeral.ofDigits 16 (← digits.mapM JsonString.hexValue?)
  if n.isValidChar then some (Char.ofNat n) else none

/-- Contents of a string in double quotes, after the opening one. -/
def basic? : List Char → Option (List Char × List Char)
  | [] => none
  | '"' :: rest => some ([], rest)
  | '\\' :: 'x' :: a :: b :: s => do
    let x ← coded? [a, b]
    let (t, rest) ← basic? s
    return (x :: t, rest)
  | '\\' :: 'u' :: a :: b :: c :: d :: s => do
    let x ← coded? [a, b, c, d]
    let (t, rest) ← basic? s
    return (x :: t, rest)
  | '\\' :: 'U' :: a :: b :: c :: d :: e :: f :: g :: h :: s => do
    let x ← coded? [a, b, c, d, e, f, g, h]
    let (t, rest) ← basic? s
    return (x :: t, rest)
  | '\\' :: e :: s => do
    let x ← escapedChar? e
    let (t, rest) ← basic? s
    return (x :: t, rest)
  | c :: s =>
    if isControl c || c == '\\' then none else (basic? s).map fun (t, rest) => (c :: t, rest)

/-! ### Keys -/

def key? : List Char → Option (List Char × List Char)
  | '"' :: s => basic? s
  | '\'' :: s => literal? s
  | s => if (s.takeWhile isKeyChar).isEmpty then none
    else some (s.takeWhile isKeyChar, s.dropWhile isKeyChar)

/-! ### Numbers -/

def isDigit (radix : Nat) (c : Char) : Bool :=
  (Numeral.digitOf? radix c).isSome

/-- Further digits of a numeral; each may follow an underscore. -/
def moreDigits (radix : Nat) : List Char → List Char × List Char
  | '_' :: c :: s =>
    if isDigit radix c then (c :: (moreDigits radix s).1, (moreDigits radix s).2)
    else ([], '_' :: c :: s)
  | c :: s =>
    if isDigit radix c then (c :: (moreDigits radix s).1, (moreDigits radix s).2)
    else ([], c :: s)
  | [] => ([], [])

/-- Radix that a letter after a leading zero stands for. -/
def radixOf? : Char → Option Nat
  | 'x' => some 16
  | 'o' => some 8
  | 'b' => some 2
  | _ => none

/-- A numeral in radix ten: a single zero, or digits that start with another one. -/
def decimal (negative : Bool) : List Char → Except Error (Datum × List Char)
  | '0' :: rest => .ok (.number 0, rest)
  | c :: s =>
    if isDigit 10 c then
      let (digits, rest) := moreDigits 10 s
      match Numeral.readDigits (c :: digits) with
      | .error e => .error (.numeral e)
      | .ok n => .ok (.number (if negative then -(n : Int) else n), rest)
    else .error .malformed
  | [] => .error .malformed

/-- A whole number, in radix ten or after the mark of another radix. -/
def number (s : List Char) : Except Error (Datum × List Char) :=
  match s with
  | '+' :: t => decimal false t
  | '-' :: t => decimal true t
  | '0' :: mark :: c :: t =>
    match radixOf? mark with
    | none => decimal false s
    | some radix =>
      if isDigit radix c then
        let (digits, rest) := moreDigits radix t
        let values := (c :: digits).filterMap (Numeral.digitOf? radix)
        .ok (.number (Numeral.ofDigits radix values), rest)
      else .error .malformed
  | _ => decimal false s

/-! ### Values and lines -/

/-- A string read by one of the string parsers, as a value. -/
def textValue (read : Option (List Char × List Char)) : Except Error (Datum × List Char) :=
  match read with
  | some (t, rest) => .ok (.text (String.ofList t), rest)
  | none => .error .malformed

def value : List Char → Except Error (Datum × List Char)
  | '"' :: s => textValue (basic? s)
  | '\'' :: s => textValue (literal? s)
  | 't' :: 'r' :: 'u' :: 'e' :: rest => .ok (.flag true, rest)
  | 'f' :: 'a' :: 'l' :: 's' :: 'e' :: rest => .ok (.flag false, rest)
  | s => number s

/-- Only blanks and a comment are left of the line. -/
def endsLine (s : List Char) : Bool :=
  match skipSpaces s with
  | [] => true
  | '#' :: comment => !comment.any isControl
  | _ => false

/-- The line, if nothing follows it. -/
def finish (line : Line) (rest : List Char) : Except Error Line :=
  if endsLine rest then .ok line else .error .malformed

/-- The header of a table, after its opening bracket. -/
def headerLine (s : List Char) : Except Error Line :=
  match key? (skipSpaces s) with
  | none => .error .malformed
  | some (name, rest) => match skipSpaces rest with
    | ']' :: rest => finish (.header (String.ofList name)) rest
    | _ => .error .malformed

def entryLine (s : List Char) : Except Error Line :=
  match key? s with
  | none => .error .malformed
  | some (key, rest) => match skipSpaces rest with
    | '=' :: rest => do
      let (v, rest) ← value (skipSpaces rest)
      finish (.entry (String.ofList key) v) rest
    | _ => .error .malformed

def Line.parse (s : List Char) : Except Error Line :=
  match skipSpaces s with
  | [] => .ok .empty
  | '#' :: s => finish .empty ('#' :: s)
  | '[' :: s => headerLine s
  | s => entryLine s

end PostSearch.Toml
