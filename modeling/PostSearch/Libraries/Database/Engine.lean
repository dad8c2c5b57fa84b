import PostSearch.Database.Connection
import PostSearch.Libraries.Database.Driver
import PostSearch.Libraries.Database.FileOptions
import PostSearch.Libraries.Database.Hosts

/-! # Engines

The library for databases that the program runs with (`standardLibrary`). A driver is found for an
address, the driver looks at the options, and last come the size of the pool and how much is shown of
what the database is asked. The first thing that is wrong is the error. -/

namespace PostSearch.Database

/-- An address with what it is reached by. -/
structure Engine where
  address : Address
  name : String
  driver : String
deriving DecidableEq, Repr

/-- Why there is no connection. -/
inductive Error where
  /-- There is something else in place of an address. -/
  | noAddress (shown : String)
  | address (e : Address.Malformed)
  | numeral (e : NumeralError)
  /-- The address asks for an extension that is not there. -/
  | unknownExtension (name : String)
  /-- The address names more than an engine and a driver. -/
  | tooManyNames
  | unknownDriver (names : List String)
  /-- The package that the driver rests on is not there. -/
  | missingPackage (name : String)
  | hosts (fault : HostFault)
  | file (fault : FileFault)
  /-- A datum of the kind is no size of a pool. -/
  | poolSize (kind : String)
  /-- Nothing tells how much to show. -/
  | echo (setting : Datum)
deriving DecidableEq, Repr

/-- Wording of the error; a number that is too large cannot be put into words. -/
def Error.message : Error → Except NumeralError String
  | .noAddress shown => .ok ("Expected string or URL object, got " ++ shown)
  | .address e => .ok e.message
  | .numeral e => .ok e.message
  | .unknownExtension name => .ok ("Can't load plugin: sqlalchemy.plugins:" ++ name)
  | .tooManyNames => .ok "too many values to unpack (expected 2)"
  | .unknownDriver names =>
    .ok ("Can't load plugin: sqlalchemy.dialects:" ++ Text.joinWith "." names)
  | .missingPackage name => .ok ("No module named '" ++ name ++ "'")
  | .hosts fault => .ok fault.message
  | .file fault => .ok fault.message
  | .poolSize kind => .ok ("unsupported operand type(s) for -: 'int' and '" ++ kind ++ "'")
  | .echo (.list _) => .ok "unhashable type: 'list'"
  | .echo (.table _) => .ok "unhashable type: 'dict'"
  | .echo setting => setting.literal

/-! ### The address and its driver -/

/-- The address that a datum holds. -/
def readAddress (d : Datum) : Except Error Address :=
  match d with
  | .text s => (Address.parse s).mapError .address
  | d => match d.literal with
    | .ok shown => .error (.noAddress shown)
    | .error e => .error (.numeral e)

/-- The address without the options that ask for extensions; there are no extensions. -/
def withoutExtensions (a : Address) : Except Error Address :=
  match a.option "plugin" with
  | name :: _ => .error (.unknownExtension name)
  | [] => .ok (a.withoutOptions ["plugin", "plugins"])

/-- The engine with the driver that the address names. -/
def findDriver (a : Address) : Except Error Engine :=
  let found (d : Option Driver) (c : Engine) : Except Error Engine :=
    match d with
    | none => .error (.unknownDriver a.names)
    | some d => if d.isUsable then .ok c else .error (.missingPackage d.package)
  match a.names with
  | [engine] => found (Driver.find? engine "") ⟨a, engine, "pysqlite"⟩
  | [_, ""] => .error (.unknownDriver a.names)
  | [engine, driver] => found (Driver.find? engine driver) ⟨a, engine, driver⟩
  | _ => .error .tooManyNames

/-! ### Connecting -/

namespace Engine

def isFile (e : Engine) : Bool :=
  e.name == "sqlite"

/-- The driver finds the options of the address in order. -/
def check (e : Engine) : Except Error Unit :=
  if e.isFile then (checkFile e.address).mapError .file
  else (checkHosts e.address).mapError .hosts

/-- The connection is taken from a pool: there may be several of them at once. -/
def isPooled (e : Engine) : Bool :=
  !e.isFile || isOnDisk e.address

/-- The size of the pool is a number. -/
def checkPoolSize (e : Engine) (size : Datum) : Except Error Unit :=
  if e.isPooled && size.number?.isNone then .error (.poolSize size.kindName) else .ok ()

end Engine

/-- The setting tells how much is shown: nothing, statements, or statements with their answers. -/
def checkEcho (setting : Datum) : Except Error Unit :=
  match setting with
  | .null | .flag _ | .number 0 | .number 1 | .text "debug" => .ok ()
  | d => .error (.echo d)

/-- The connection to an address. -/
def prepare (a : Address) (poolSize echo : Datum) : Except Error Connection := do
  let a ← withoutExtensions a
  let e ← findDriver a
  e.check
  e.checkPoolSize poolSize
  checkEcho echo
  return ⟨e.address.text, e.name, e.driver⟩

/-- No server is there, and files do not know the time that connecting may take, which is always
given. -/
def refusal (c : Connection) : String :=
  if c.engine == "sqlite" then "'connect_timeout' is an invalid keyword argument for Connection()"
  else "No database is connected"

instance standardLibrary : Library where
  Url := Address
  parse d := (readAddress d).mapError fun e => ⟨e.message⟩
  name := Address.name
  withName a name := { a with name := name }
  connect a poolSize echo := (prepare a poolSize echo).mapError fun e => ⟨e.message⟩
  refusal := refusal

end PostSearch.Database
