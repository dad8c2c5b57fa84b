import PostSearch.Libraries.Database.Address
import PostSearch.Libraries.Database.Decimal
import PostSearch.Unicode.Lowercase

/-! # Options of databases in files

A database in a file is not reached over a network, so its address names nobody who connects and no
host, and its options say how the file is used. `checkFile` says what is wrong with such an
address; of several faults the one that comes first in the order of the options is told. -/

namespace PostSearch.Database

/-- Why a file is not taken for a database. -/
inductive FileFault where
  /-- The address names somebody or a host. -/
  | reachedOver (address : Address)
  | flag (word : List Char)
  | decimal (text : String)
  | numeral (e : NumeralError)
  /-- An option that stands for a number is given several times. -/
  | repeatedDecimal
  | repeatedNumber
  /-- Options are to be put after the name of a file that is not there. -/
  | noFile
deriving DecidableEq, Repr

def FileFault.message : FileFault → String
  | .reachedOver a =>
    "Invalid SQLite URL: " ++ a.text ++ "\nValid SQLite URL forms are:\n" ++
      " sqlite:///:memory: (or, sqlite://)\n" ++
      " sqlite:///relative/path/to/file.db\n" ++
      " sqlite:////absolute/path/to/file.db"
  | .flag word => "String is not true/false: " ++ String.ofList (Text.quote word)
  | .decimal text => "could not convert string to float: " ++ String.ofList (Text.quote text.toList)
  | .numeral e => e.message
  | .repeatedDecimal => "float() argument must be a string or a real number, not 'tuple'"
  | .repeatedNumber =>
    "int() argument must be a string, a bytes-like object or a real number, not 'tuple'"
  | .noFile => "unsupported operand type(s) for +=: 'NoneType' and 'str'"

/-! ### Values of options -/

/-- What an option stands for. -/
inductive OptionKind where
  | flag
  | decimal
  | number
  | text
deriving DecidableEq, Repr

def affirmations : List (List Char) :=
  ["true", "yes", "on", "y", "t", "1"].map String.toList

def negations : List (List Char) :=
  ["false", "no", "off", "n", "f", "0"].map String.toList

/-- The answer that a text gives. -/
def readFlag (text : String) : Except FileFault Bool :=
  let word := Unicode.lowercase (Unicode.strip text.toList)
  if affirmations.contains word then .ok true
  else if negations.contains word then .ok false
  else .error (.flag word)

/-- The answer of a flag that may be given several times, and then is a yes. -/
def flagOf (values : List String) : Except FileFault Bool :=
  match values with
  | [] => .ok false
  | [value] => readFlag value
  | _ => .ok true

/-- The values of an option suit its kind. -/
def OptionKind.check (kind : OptionKind) (values : List String) : Except FileFault Unit :=
  match kind, values with
  | .text, _ | _, [] => .ok ()
  | .flag, values => (flagOf values).map fun _ => ()
  | .decimal, [value] =>
    if Numeral.isDecimal value.toList then .ok () else .error (.decimal value)
  | .decimal, _ => .error .repeatedDecimal
  | .number, [value] =>
    ((Numeral.readInt 10 value.toList).mapError .numeral).map fun _ => ()
  | .number, _ => .error .repeatedNumber

/-! ### Addresses -/

/-- The name of the option that takes the name of the file, with options after it, as an address of
its own. -/
def nestedKey : String := "uri"

/-- Options with what they stand for. -/
def fileOptions : List (String × OptionKind) :=
  [(nestedKey, .flag), ("timeout", .decimal), ("isolation_level", .text), ("detect_types", .number),
    ("check_same_thread", .flag), ("cached_statements", .number)]

/-- The address names somebody or a host. The number zero names no service. -/
def isReachedOver (a : Address) : Bool :=
  a.user.getD "" != "" || a.password.getD "" != "" || a.host.isSome || a.service.getD 0 != 0

/-- What is wrong with the address of a file. -/
def checkFile (a : Address) : Except FileFault Unit := do
  if isReachedOver a then throw (.reachedOver a)
  fileOptions.forM fun (key, kind) => kind.check (a.option key)
  let others := a.withoutOptions (fileOptions.map Prod.fst)
  if (← flagOf (a.option nestedKey)) && a.database.isNone && !others.options.isEmpty then
    throw .noFile

/-- The database is in a file, and not in memory only. -/
def isOnDisk (a : Address) : Bool :=
  a.database.getD "" != "" && a.database != some ":memory:" && a.option "mode" != ["memory"]

end PostSearch.Database
