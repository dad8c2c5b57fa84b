import PostSearch.Cli.Console
import PostSearch.Libraries.Emoji.Code
import PostSearch.Libraries.Terminal.Literal
import PostSearch.Libraries.Terminal.Style
import PostSearch.Unicode.Alphanumeric

/-! # Styled messages

A message may hold marks between brackets: `[red]` begins a style, `[/red]` ends it, and `[/]` ends
the one that was begun last. Names of pictures stand between colons. A backslash takes the meaning
from the mark after it, and two stand for one. `plainText` carries the marks out, which leaves no
trace in plain output, and fails if they make no sense. -/

namespace PostSearch.Terminal.Markup

open Unicode
open Cli.Console (Error)

/-! ### Pieces of a message -/

/-- What a message consists of. -/
inductive Piece where
  | plain (s : List Char)
  /-- What stands between the brackets of a mark. -/
  | mark (inner : List Char)
deriving DecidableEq, Repr

/-- A character that a mark may begin with. -/
def opensMark (c : Char) : Bool :=
  ('a' ≤ c && c ≤ 'z') || c == '#' || c == '/' || c == '@'

/-- What stands in the mark at the start of the text, if there is one. -/
def mark? : List Char → Option (List Char)
  | '[' :: c :: s =>
    let isInner (c : Char) : Bool := c != '[' && c != ']'
    if opensMark c then
      match s.dropWhile isInner with
      | ']' :: _ => some (c :: s.takeWhile isInner)
      | _ => none
    else none
  | _ => none

/-- A mark with the backslashes in front of it. -/
structure Escaped where
  slashes : Nat
  inner : List Char
deriving DecidableEq, Repr

namespace Escaped

/-- The mark at the start of the text, if there are only backslashes in front of it. -/
def ofText? (s : List Char) : Option Escaped :=
  (mark? (s.dropWhile (· = '\\'))).map fun inner => ⟨(s.takeWhile (· = '\\')).length, inner⟩

def length (e : Escaped) : Nat :=
  e.slashes + e.inner.length + 2

/-- Two backslashes stand for one; one that is left makes the mark plain text. -/
def pieces (e : Escaped) : List Piece :=
  (if e.slashes / 2 = 0 then [] else [.plain (List.replicate (e.slashes / 2) '\\')]) ++
    [if e.slashes % 2 = 1 then .plain ('[' :: e.inner ++ [']']) else .mark e.inner]

end Escaped

/-- A run of plain text as a piece. The run comes in reverse. -/
def plainRun (run : List Char) : List Piece :=
  if run = [] then [] else [.plain run.reverse]

/-- The pieces of a text. `skipped` characters of a mark are still to be left out, and `run` is the
plain text since the last mark, in reverse. -/
def piecesFrom (skipped : Nat) (run : List Char) : List Char → List Piece
  | [] => plainRun run
  | c :: s =>
    match skipped with
    | k + 1 => piecesFrom k run s
    | 0 =>
      match Escaped.ofText? (c :: s) with
      | some e => plainRun run ++ e.pieces ++ piecesFrom (e.length - 1) [] s
      | none => piecesFrom 0 (c :: run) s

/-- The pieces of a text. -/
def pieces (s : List Char) : List Piece :=
  piecesFrom 0 [] s

/-! ### Plain pieces -/

/-- The text without the backslashes right in front of opening brackets. -/
def bareBrackets : List Char → List Char
  | [] => []
  | '\\' :: '[' :: s => '[' :: bareBrackets s
  | c :: s => c :: bareBrackets s

/-- A plain piece as it is shown, with its pictures. -/
def shownPlain (s : List Char) : List Char :=
  Emoji.expand (bareBrackets s)

/-! ### Marks -/

/-- A mark in force. -/
structure Open where
  /-- The style in its normal form, or the name of an action. -/
  name : List Char
  /-- What is passed after an equals sign. -/
  passed : List Char
deriving DecidableEq, Repr

/-- The normal form of a name. -/
def normalName (name : List Char) : Except Error (List Char) :=
  (normalStyle name).mapError .numeral

/-- What is passed to an action makes sense: it is the name of what is done, with or without a tuple
behind it, or a literal. -/
def isAction (passed : List Char) : Bool :=
  let call := strip passed
  let arguments := call.dropWhile fun c => isWordChar c || c == '.'
  if arguments = [] then true
  else if arguments.head? = some '(' ∧ arguments.getLast? = some ')' ∧ '\n' ∉ arguments then
    Literal.isLiteral arguments
  else Literal.isLiteral call

/-- The mark may end. -/
def Open.close (mark : Open) : Except Error Unit :=
  if mark.name.head? = some '@' ∧ mark.passed ≠ [] ∧ !isAction mark.passed then .error .badAction
  else .ok ()

/-- The marks without the latest one of the name, and that one. -/
def takeNamed? (name : List Char) : List Open → Option (Open × List Open)
  | [] => none
  | mark :: marks =>
    if mark.name = name then some (mark, marks)
    else (takeNamed? name marks).map fun (found, rest) => (found, mark :: rest)

/-- The marks in force after a mark, the latest first. -/
def applyMark (marks : List Open) (inner : List Char) : Except Error (List Open) := do
  let name := inner.takeWhile (· ≠ '=')
  let passed := (inner.dropWhile (· ≠ '=')).drop 1
  match name with
  | '/' :: name =>
    let ended ← if strip name = [] then
        pure (match marks with
          | [] => none
          | mark :: marks => some (mark, marks))
      else pure (takeNamed? (← normalName (strip name)) marks)
    match ended with
    | none => throw .unopened
    | some (mark, marks) =>
      mark.close
      return marks
  | name => return ⟨← normalName name, passed⟩ :: marks

/-- The plain text of pieces while some marks are in force. -/
def runPieces (marks : List Open) : List Piece → Except Error (List Char)
  | [] => .ok []
  | .plain s :: rest => do
    return shownPlain s ++ (← runPieces marks rest)
  | .mark inner :: rest => do
    runPieces (← applyMark marks inner) rest

/-- The text of a message without its marks. -/
def plainText (s : List Char) : Except Error (List Char) :=
  runPieces [] (pieces s)

end PostSearch.Terminal.Markup
