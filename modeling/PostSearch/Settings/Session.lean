import PostSearch.Settings.Sources

/-! # Sessions

Within a session settings are gathered once and kept; overrides change what is kept. Files and
variables may change meanwhile, which shows when settings are gathered again. A step that fails
while gathering leaves what is kept as it was; overrides in front of one that fails stay. -/

namespace PostSearch.Settings

open Toml (Library)

/-- The surroundings of the program and the settings it keeps. -/
structure Session (V : Type := Datum) where
  files : Files
  environment : Environment
  kept : Option (Settings V)

/-- Why a variable is not set. -/
inductive VariableError where
  | illegalName
  | nullByte
  | noName
deriving DecidableEq, Repr

def VariableError.message : VariableError → String
  | .illegalName => "illegal environment variable name"
  | .nullByte => "embedded null byte"
  | .noName => "[Errno 22] Invalid argument"

namespace Session

variable {V : Type}

/-- Nothing is kept yet. -/
def start (files : Files) (environment : Environment) : Session :=
  ⟨files, environment, none⟩

/-! ### Variables -/

def unsetVariable (session : Session V) (name : String) : Session V :=
  { session with environment := session.environment.filter (·.1 ≠ name) }

/-- Set a variable, which becomes the last one. -/
def setVariable (session : Session V) (name value : String) :
    Except VariableError (Session V) :=
  if name.toList.contains '\x00' || value.toList.contains '\x00' then .error .nullByte
  else if name.toList.contains '=' then .error .illegalName
  else if name = "" then .error .noName
  else .ok { session with environment :=
    (session.unsetVariable name).environment ++ [(name, value)] }

/-! ### Settings -/

variable [Library V]

/-- Gather the settings and keep them. -/
def reload (session : Session V) (named : Option Path) :
    Except Error (Settings V) × Session V :=
  match load session.files session.environment named with
  | .error e => (.error e, session)
  | .ok s => (.ok s, { session with kept := some s })

/-- The kept settings; they are gathered if there are none or if that is asked for. -/
def get (session : Session V) (again : Bool) (named : Option Path) :
    Except Error (Settings V) × Session V :=
  match session.kept with
  | none => session.reload named
  | some s => if again then session.reload named else (.ok s, session)

/-- Store values over settings, by name, up to the first that is refused. Nothing overrides nothing,
and unknown names are ignored. -/
def override (s : Settings V) : List (String × Datum) → Settings V × Option Error
  | [] => (s, none)
  | (name, v) :: rest =>
    if v = .null then override s rest
    else match s.putNamed name (Library.ofDatum v) with
      | .ok s => override s rest
      | .error e => (s, some e)

/-- An address of the database as an override; a void one is none. -/
def addressOverride (address : Datum) : List (String × Datum) :=
  if address.isVoid then [] else [(Field.databaseUrl.name, address)]

/-- Names that overrides do not have, since what they stand for is given separately. -/
def separateNames : List String :=
  [Field.databaseUrl.name, "config_file"]

/-- The settings with overrides, which are kept. A file named by the caller is always read. -/
def init (session : Session V) (address : Datum) (named : Option Path)
    (overrides : List (String × Datum)) : Except Error (Settings V) × Session V :=
  match overrides.find? fun o => o.1 ∈ separateNames with
  | some (name, _) => (.error (.repeated name), session)
  | none =>
    match session.get named.isSome named with
    | (.error e, session) => (.error e, session)
    | (.ok s, session) =>
      let (s, fault) := override s (addressOverride address ++ overrides)
      (match fault with
        | none => .ok s
        | some e => .error e, { session with kept := some s })

def save (session : Session V) (path : Path) : Option Error × Session V :=
  match session.get false none with
  | (.error e, session) => (some e, session)
  | (.ok s, session) =>
    match s.need .save with
    | .error e => (some e, session)
    | .ok () =>
      let (files, fault) := s.write session.files path
      (fault, { session with files := files })

end Session

end PostSearch.Settings
