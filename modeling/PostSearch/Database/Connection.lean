import PostSearch.Datum

/-! # Connections

A library for databases prepares connections from settings, which may be of any kind. An address that
names PostgreSQL and no driver gets the driver that comes with the program (`pinned`). Nothing is
asked of a database before the first statement is run. -/

namespace PostSearch.Database

/-- Why there is no connection. A number that is too large cannot be put into words. -/
structure Fault where
  message : Except NumeralError String
deriving Repr

/-- A database that can be asked. -/
structure Connection where
  /-- The address, with its password hidden. -/
  url : String
  engine : String
  driver : String
deriving DecidableEq, Repr

/-- A library for databases. -/
class Library where
  Url : Type
  parse : Datum → Except Fault Url
  /-- Name of the engine, and after a plus sign that of the driver. -/
  name : Url → String
  withName : Url → String → Url
  connect : Url → (poolSize echo : Datum) → Except Fault Connection
  /-- Why no statement is run over a connection. -/
  refusal : Connection → String

variable [Library]

/-- A PostgreSQL address without a driver gets the one that comes with the program. -/
def pinned (u : Library.Url) : Library.Url :=
  if Library.name u = "postgresql" then Library.withName u "postgresql+psycopg2" else u

def connect (address poolSize echo : Datum) : Except Fault Connection := do
  Library.connect (pinned (← Library.parse address)) poolSize echo

end PostSearch.Database
