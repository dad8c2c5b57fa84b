import PostSearch.Files
import PostSearch.Settings.Name
import PostSearch.Toml.Library

/-! # Settings

Settings give every field a value of whatever kind was stored last under its name, or else the
standard one. What is stored under the name of an action stands in its place, and the action can no
longer be carried out. Values are those of a library for settings files. -/

namespace PostSearch

/-- What was settled: values by name, each name once. -/
structure Settings (V : Type := Datum) where
  stored : List (String × V)
deriving DecidableEq, Repr

namespace Settings

open Toml (Library)

/-- Why settings are not gathered, changed or written. -/
inductive Error where
  /-- A settings file is no document. -/
  | file (e : Toml.Error)
  /-- A settings file cannot be read or written where it is. -/
  | place (e : Files.Error)
  /-- A variable that stands for a number is no numeral, or a number is too large to be shown. -/
  | numeral (e : NumeralError)
  /-- A value of the kind stands in the place of an action. -/
  | occupied (kind : String)
  /-- The kind or the contents of settings were to be replaced by something of another nature. -/
  | sealed
  /-- What refers to settings was to be replaced. -/
  | readOnly
  /-- A value of the kind stands for the fields, or for one of them, and has no such part. -/
  | noPart (kind part : String)
  /-- A setting is given by an override that has a place of its own among what overrides. -/
  | repeated (name : String)
  /-- Some value has no written form. -/
  | unwritable (e : Toml.Unwritable)
deriving DecidableEq, Repr

def Error.message : Error → String
  | .file (.numeral e) | .numeral e => e.message
  | .file .malformed => "Invalid settings file"
  | .place e => e.message
  | .occupied kind => "'" ++ kind ++ "' object is not callable"
  | .sealed => "The kind of settings cannot be changed"
  | .readOnly => "'" ++ referencesKey ++ "' is not writable"
  | .noPart kind part => "'" ++ kind ++ "' object has no attribute '" ++ part ++ "'"
  | .repeated name => "got multiple values for argument '" ++ name ++ "'"
  | .unwritable e => e.message

variable {V : Type}

/-- What holds if nothing was settled. -/
def standard : Settings V :=
  ⟨[]⟩

/-! ### Values -/

def standardValue [Library V] (f : Field) : V :=
  Library.ofDatum f.standard

def value [Library V] (s : Settings V) (f : Field) : V :=
  (s.stored.lookup f.name).getD (standardValue f)

/-- The value that is found under a name, if it is one. -/
def valueOf? [Library V] (s : Settings V) (name : String) : Option V :=
  if name ∈ sealedNames then none
  else match s.stored.lookup name with
    | some v => some v
    | none => (Field.ofName? name).map standardValue

/-- Something is found under the name. -/
def knows (s : Settings V) (name : String) : Bool :=
  isKnown name || (s.stored.lookup name).isSome

/-- Values with another one under a name. -/
def withValue (name : String) (v : V) : List (String × V) → List (String × V)
  | [] => [(name, v)]
  | (n, w) :: rest => if n = name then (n, v) :: rest else (n, w) :: withValue name v rest

/-- Store a value under a name that is known. A table under the name of the contents replaces
everything that was stored. -/
def put [Library V] (s : Settings V) (name : String) (v : V) : Except Error (Settings V) :=
  if name = kindKey then .error .sealed
  else if name = referencesKey then .error .readOnly
  else if name = contentsKey then
    match Library.entries? v with
    | some entries => .ok ⟨entries⟩
    | none => .error .sealed
  else .ok ⟨withValue name v s.stored⟩

/-- Store a value under a name; unknown names are ignored. -/
def putNamed [Library V] (s : Settings V) (name : String) (v : V) : Except Error (Settings V) :=
  if s.knows name then s.put name v else .ok s

/-! ### Actions and fields -/

/-- Nothing stands in the place of the action. -/
def need [Library V] (s : Settings V) (action : Action) : Except Error Unit :=
  match s.stored.lookup action.name with
  | none => .ok ()
  | some v => .error (.occupied (Library.kindName v))

/-- The fields with their values. A table without entries may stand for the fields, and then there
are none; nothing else can stand for them. -/
def document [Library V] (s : Settings V) : Except Error (Toml.Document V) :=
  match s.stored.lookup fieldsKey with
  | none => .ok (Field.all.map fun f => (f.name, s.value f))
  | some v =>
    match Library.entries? v with
    | some [] => .ok []
    | some ((_, part) :: _) => .error (.noPart (Library.kindName part) "_field_type")
    | none => .error (.noPart (Library.kindName v) "values")

/-- The fields with their values, if all of them can be shown. -/
def report [Library Datum] (s : Settings) : Except Error Toml.Document := do
  let d ← s.document
  if Datum.anyEntryOversized d then throw (.numeral .tooLarge) else return d

/-- Write the settings to a file: the directories are made first, then the file is emptied, and then
it is written as far as the settings can be written. -/
def write [Library V] (s : Settings V) (files : Files) (path : Path) : Files × Option Error :=
  match files.makeDirectories path.parent with
  | (files, some e) => (files, some (.place e))
  | (files, none) =>
    match files.openFile path with
    | .error e => (files, some (.place e))
    | .ok p =>
      match s.document with
      | .error e => (files.putAt p "", some e)
      | .ok d =>
        let written := Library.write d
        (files.putAt p written.text, written.fault.map .unwritable)

end Settings

end PostSearch
