import PostSearch.Datum

/-! # Writing JSON

Data as JSON, in two layouts: on one line, and with every entry on a line of its own. Strings are
written in ASCII. -/

namespace PostSearch.Text.Json

/-- A code unit as an escape. -/
def unitEscape (n : Nat) : List Char :=
  '\\' :: 'u' :: hexDigits 4 n

def escapeChar (c : Char) : List Char :=
  if c = '"' ∨ c = '\\' then ['\\', c]
  else if c = '\n' then ['\\', 'n']
  else if c = '\r' then ['\\', 'r']
  else if c = '\t' then ['\\', 't']
  else if c = '\x0c' then ['\\', 'f']
  else if c = '\x08' then ['\\', 'b']
  else if 0x20 ≤ c.toNat ∧ c.toNat < 0x7F then [c]
  else if c.toNat < 0x10000 then unitEscape c.toNat
  else
    unitEscape (0xD800 + (c.toNat - 0x10000) / 1024) ++
      unitEscape (0xDC00 + (c.toNat - 0x10000) % 1024)

def quoteString (s : String) : String :=
  String.ofList ('"' :: s.toList.flatMap escapeChar ++ ['"'])

/-- A datum that has no entries. -/
def simpleText : Datum → String
  | .null => "null"
  | .flag b => if b then "true" else "false"
  | .number n => String.ofList (Numeral.intDigits n)
  | .text s => quoteString s
  | .list _ => "[]"
  | .table _ => "\x7b\x7d"

mutual

def inline : Datum → String
  | .list items => "[" ++ joinWith ", " (inlineItems items) ++ "]"
  | .table entries => "\x7b" ++ joinWith ", " (inlineEntries entries) ++ "\x7d"
  | d => simpleText d

/-- The items of a list, each on one line. -/
def inlineItems : List Datum → List String
  | [] => []
  | d :: ds => inline d :: inlineItems ds

/-- The entries of a table, each on one line. -/
def inlineEntries : List (String × Datum) → List String
  | [] => []
  | (key, d) :: rest => (quoteString key ++ ": " ++ inline d) :: inlineEntries rest

end

/-- A line break and the indentation of the given depth, two spaces a level. -/
def lineBreak (depth : Nat) : String :=
  "\n" ++ String.ofList (List.replicate (2 * depth) ' ')

/-- Pieces between brackets, each on a line of its own. -/
def block (depth : Nat) (opening closing : String) (pieces : List String) : String :=
  opening ++ lineBreak (depth + 1) ++ joinWith ("," ++ lineBreak (depth + 1)) pieces ++
    lineBreak depth ++ closing

mutual

/-- A datum whose entries stand on lines of their own, below `depth` levels of brackets. -/
def indented (depth : Nat) : Datum → String
  | .list (d :: ds) => block depth "[" "]" (indentedItems depth (d :: ds))
  | .table (e :: es) => block depth "\x7b" "\x7d" (indentedEntries depth (e :: es))
  | d => simpleText d

/-- The items of a list, one level below `depth`. -/
def indentedItems (depth : Nat) : List Datum → List String
  | [] => []
  | d :: ds => indented (depth + 1) d :: indentedItems depth ds

/-- The entries of a table, one level below `depth`. -/
def indentedEntries (depth : Nat) : List (String × Datum) → List String
  | [] => []
  | (key, d) :: rest =>
    (quoteString key ++ ": " ++ indented (depth + 1) d) :: indentedEntries depth rest

end

end PostSearch.Text.Json
