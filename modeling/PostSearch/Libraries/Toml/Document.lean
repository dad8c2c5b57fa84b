import PostSearch.Libraries.Toml.Line
import PostSearch.Libraries.Toml.Writer
import PostSearch.Text.Split

/-! # Plain documents

The part of TOML that the program writes, and that most settings files keep to: values that are data,
each on a line with its key, and tables of them one level deep. `plain` is the library for documents
of this kind. `Document.parse` reads the lines of a text one after the other; a key or a table that
is there already makes the text malformed, and so does all else that TOML has. -/

namespace PostSearch.Toml

open Text

/-- The text with every line break written as one newline. -/
def unifyLineBreaks : List Char → List Char
  | '\r' :: '\n' :: s => '\n' :: unifyLineBreaks s
  | c :: s => c :: unifyLineBreaks s
  | [] => []

/-- What the lines read so far amount to. -/
structure Draft where
  document : Document
  /-- The table that the next keys belong to. -/
  table : Option String
deriving DecidableEq, Repr

namespace Draft

def start : Draft :=
  ⟨[], none⟩

/-- Add a key where there is none of that name. -/
def put (entries : Document) (key : String) (v : Datum) : Except Error Document :=
  if (entries.lookup key).isSome then .error .malformed else .ok (entries ++ [(key, v)])

/-- Add a key to the table of the given name. -/
def putInTable (name key : String) (v : Datum) : Document → Except Error Document
  | [] => .error .malformed
  | (n, d) :: rest =>
    if n = name then
      match d with
      | .table entries => (put entries key v).map fun entries => (n, .table entries) :: rest
      | _ => .error .malformed
    else (putInTable name key v rest).map ((n, d) :: ·)

/-- Take one more line into account. -/
def add (d : Draft) : Line → Except Error Draft
  | .empty => .ok d
  | .entry key v =>
    let document := match d.table with
      | none => put d.document key v
      | some name => putInTable name key v d.document
    document.map (⟨·, d.table⟩)
  | .header name => (put d.document name (.table [])).map (⟨·, some name⟩)

end Draft

def Document.parse (text : String) : Except Error Document := do
  let lines := splitAt '\n' (unifyLineBreaks text.toList)
  let draft ← lines.foldlM (fun draft line => do draft.add (← Line.parse line)) Draft.start
  return draft.document

instance plain : Library Datum where
  ofDatum := id
  kindName := Datum.kindName
  entries? := Datum.entries?
  read := Document.parse
  write := Document.write
  kindName_ofDatum _ := rfl
  entries?_ofDatum d := by cases d <;> simp [Datum.entries?]

end PostSearch.Toml
