import PostSearch.Text.Split
import PostSearch.Libraries.Toml.Line

/-! # Writing documents

A document of data is written piece by piece: first its values as lines `key = value`, then its
tables, each under its header and below a blank line. `Document.write` returns the pieces up to the
first that cannot be written: TOML has no word for nothing, and numbers may be too large. -/

namespace PostSearch.Toml

open Text

/-! ### Strings and keys -/

/-- One character of a string in double quotes. -/
def writtenChar (c : Char) : List Char :=
  if c = '"' ∨ c = '\\' then ['\\', c]
  else if c = '\n' then ['\\', 'n']
  else if c = '\r' then ['\\', 'r']
  else if c = '\x0c' then ['\\', 'f']
  else if c = '\x08' then ['\\', 'b']
  else if isControl c then '\\' :: 'u' :: hexDigits 4 c.toNat
  else [c]

def writtenText (s : String) : String :=
  String.ofList ('"' :: s.toList.flatMap writtenChar ++ ['"'])

/-- A key, quoted if it has to be. -/
def writtenKey (key : String) : String :=
  if key ≠ "" ∧ key.toList.all isKeyChar then key else writtenText key

/-- Name of a table within another one. -/
def within (name key : String) : String :=
  if name = "" then writtenKey key else name ++ "." ++ writtenKey key

/-! ### Values -/

/-- Spaces in front of the items of a list at the given depth. -/
def indent (depth : Nat) : String :=
  String.ofList (List.replicate (4 * depth) ' ')

mutual

/-- A value, `depth` lists deep. A list has its items on lines of their own, a table stands on one
line. -/
def writtenValue (depth : Nat) : Datum → Except Unwritable String
  | .null => .error .void
  | .flag b => .ok (if b then "true" else "false")
  | .number n =>
    match Numeral.showInt n with
    | .ok digits => .ok (String.ofList digits)
    | .error e => .error (.numeral e)
  | .text s => .ok (writtenText s)
  | .list [] => .ok "[]"
  | .list (d :: ds) => do
    let lines ← writtenItems depth (d :: ds)
    return "[\n" ++ joinWith ",\n" lines ++ ",\n" ++ indent depth ++ "]"
  | .table [] => .ok "\x7b\x7d"
  | .table (e :: es) => do
    return "\x7b " ++ joinWith ", " (← writtenEntries (e :: es)) ++ " \x7d"

/-- The items of a list that is `depth` lists deep. -/
def writtenItems (depth : Nat) : List Datum → Except Unwritable (List String)
  | [] => .ok []
  | d :: ds => do
    let item ← writtenValue (depth + 1) d
    return (indent (depth + 1) ++ item) :: (← writtenItems depth ds)

/-- The entries of a table on one line. -/
def writtenEntries : List (String × Datum) → Except Unwritable (List String)
  | [] => .ok []
  | (key, d) :: rest => do
    let value ← writtenValue 0 d
    return (writtenKey key ++ " = " ++ value) :: (← writtenEntries rest)

end

/-! ### Tables -/

/-- Longest line that a table in a list is put on. -/
def lineLimit : Nat := 100

/-- The table is short enough for one line of a list. -/
def fitsLine (d : Datum) : Except Unwritable Bool := do
  let line := indent 1 ++ (← writtenValue 0 d) ++ ","
  return line.length ≤ lineLimit && !line.toList.contains '\n'

/-- All tables are short enough; the first one that is not decides. -/
def allFitLine : List Datum → Except Unwritable Bool
  | [] => .ok true
  | d :: ds => do if ← fitsLine d then allFitLine ds else return false

def isTable : Datum → Bool
  | .table _ => true
  | _ => false

/-- The items are tables that get headers of their own, since they are too long for lines. -/
def areSpread (items : List Datum) : Except Unwritable Bool :=
  if !items.isEmpty && items.all isTable then (allFitLine items).map (!·) else .ok false

/-- The value stands below a header and not on a line `key = value`. -/
def needsHeader : Datum → Except Unwritable Bool
  | .table _ => .ok true
  | .list items => areSpread items
  | _ => .ok false

/-- The entries that are written as lines. -/
def lineEntries (entries : List (String × Datum)) :
    Except Unwritable (List (String × Datum)) :=
  entries.filterM fun (_, d) => (needsHeader d).map (!·)

/-- Pieces of a document, which may be impossible to write. -/
abbrev Pieces := List (Except Unwritable String)

/-- An entry as a line. -/
def entryPiece (entry : String × Datum) : Except Unwritable String := do
  return writtenKey entry.1 ++ " = " ++ (← writtenValue 0 entry.2) ++ "\n"

/-- Header of a table, or of one table of a list. -/
def header (name : String) (listed : Bool) : String :=
  if listed then "[[" ++ name ++ "]]\n" else "[" ++ name ++ "]\n"

/-- The header of a table and the lines below it. A table that holds nothing but tables needs no
header. -/
def tablePieces (name : String) (listed : Bool) (entries : List (String × Datum)) : Pieces :=
  match lineEntries entries with
  | .error e => [.error e]
  | .ok lines =>
    let hasHeader := listed || (name != "" && (!lines.isEmpty || entries.isEmpty))
    (if hasHeader then [.ok (header name listed)] else []) ++ lines.map entryPiece

/-- The blank line between what was written and what comes next. -/
def gap (started : Bool) : Pieces :=
  if started then [.ok "\n"] else []

mutual

/-- The tables among the entries of the table `name`, if something is written in front of them or
not. -/
def nestedPieces (name : String) (started : Bool) : List (String × Datum) → Pieces
  | [] => []
  | (key, .table entries) :: rest =>
    let own := tablePieces (within name key) false entries
    gap started ++ own ++ nestedPieces (within name key) (!own.isEmpty) entries ++
      nestedPieces name true rest
  | (key, .list items) :: rest =>
    match areSpread items with
    | .ok true => listedPieces (within name key) started items ++ nestedPieces name true rest
    | _ => nestedPieces name started rest
  | _ :: rest => nestedPieces name started rest

/-- The tables of a list, each under a header of its own. -/
def listedPieces (name : String) (started : Bool) : List Datum → Pieces
  | [] => []
  | .table entries :: rest =>
    gap started ++ tablePieces name true entries ++ nestedPieces name true entries ++
      listedPieces name true rest
  | _ :: rest => listedPieces name started rest

end

def Document.pieces (d : Document) : Pieces :=
  let own := tablePieces "" false d
  own ++ nestedPieces "" (!own.isEmpty) d

/-- The pieces up to the first that cannot be written. -/
def Written.ofPieces : Pieces → Written
  | [] => ⟨"", none⟩
  | .error e :: _ => ⟨"", some e⟩
  | .ok s :: rest => ⟨s ++ (ofPieces rest).text, (ofPieces rest).fault⟩

def Document.write (d : Document) : Written :=
  .ofPieces d.pieces

end PostSearch.Toml
