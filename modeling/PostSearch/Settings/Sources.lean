import PostSearch.Settings.Basic
import PostSearch.Unicode.Lowercase

/-! # Where settings come from

`Settings.load` starts from the standard settings and takes over, one after the other, what the
user's file says, what a file in the working directory says, what a file named by the caller says,
and what the environment says. Later sources win, and every source may leave settings out. -/

namespace PostSearch.Settings

open Toml (Library)

variable {V : Type} [Library V]

/-! ### Files -/

/-- Path of the user's settings file. -/
def userFile : Path :=
  ⟨.home, [".config", "feedsearch", "config.toml"]⟩

/-- Path of the settings file of a working directory. -/
def localFile : Path :=
  ⟨.working, ["feedsearch.toml"]⟩

/-- Path of the settings file that is read if a working directory has no other. -/
def fallbackFile : Path :=
  ⟨.working, [".feedsearchrc"]⟩

/-- Take over the keys of a document. -/
def merge (s : Settings V) (d : Toml.Document V) : Except Error (Settings V) := do
  s.need .merge
  d.foldlM (fun s (name, v) => s.putNamed name v) s

/-- Take over what the text of a settings file says. -/
def mergeText (s : Settings V) (text : String) : Except Error (Settings V) := do
  s.merge (← (Library.read text).mapError .file)

/-- Take over what the first file says that is there. -/
def mergeFirst (s : Settings V) (files : Files) : List Path → Except Error (Settings V)
  | [] => .ok s
  | path :: paths => do
    match ← (files.read? path).mapError .place with
    | some text => s.mergeText text
    | none => s.mergeFirst files paths

/-- Groups of settings files in the order in which they are taken over; of a group the first file
that is there is read. -/
def fileGroups (named : Option Path) : List (List Path) :=
  [[userFile], [localFile, fallbackFile], named.toList]

/-! ### Environment -/

/-- Variables with their values, in the order in which they were set. -/
abbrev Environment := List (String × String)

/-- How the names of variables for settings begin. -/
def variableMark : List Char :=
  "FEEDSEARCH_".toList

/-- Name of the setting that a variable stands for. -/
def settingOf? (variableName : String) : Option String :=
  let name := variableName.toList
  if variableMark.isPrefixOf name then
    some (String.ofList (Unicode.lowercase (name.drop variableMark.length)))
  else none

def yesWords : List (List Char) :=
  ["true".toList, "1".toList, "yes".toList]

def flagKind : String :=
  (Datum.flag false).kindName

def numberKind : String :=
  (Datum.number 0).kindName

/-- A text read as a datum of a kind; of kinds that are not read, it stays a text. -/
def readAs (kind : Option String) (text : String) : Except Error Datum :=
  if kind = some flagKind then
    .ok (.flag (yesWords.contains (Unicode.lowercase text.toList)))
  else if kind = some numberKind then
    match Numeral.readInt 10 text.toList with
    | .ok n => .ok (.number n)
    | .error e => .error (.numeral e)
  else .ok (.text text)

/-- The text of a variable as a value of the kind that it replaces. -/
def convert (replaced : Option V) (text : String) : Except Error V :=
  (readAs (replaced.map Library.kindName) text).map Library.ofDatum

def mergeVariable (s : Settings V) (variableName text : String) : Except Error (Settings V) :=
  match settingOf? variableName with
  | none => .ok s
  | some name => if s.knows name then do s.put name (← convert (s.valueOf? name) text) else .ok s

def applyEnvironment (s : Settings V) (environment : Environment) : Except Error (Settings V) := do
  s.need .applyEnvironment
  environment.foldlM (fun s (name, text) => s.mergeVariable name text) s

/-! ### All sources -/

/-- Gather the settings from all sources. -/
def load (files : Files) (environment : Environment) (named : Option Path) :
    Except Error (Settings V) := do
  let s ← (fileGroups named).foldlM (fun s paths => s.mergeFirst files paths) standard
  s.applyEnvironment environment

end PostSearch.Settings
