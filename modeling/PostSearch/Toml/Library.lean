import PostSearch.Datum

/-! # TOML documents

Settings files are TOML documents, which a library reads and writes. Many values of a document are
data, and others are of kinds that data do not have, such as floats and dates. Of any value settings
ask for the name of its kind, and of a table for its entries; what a text reads as is up to the
library (`Library`). -/

namespace PostSearch.Toml

/-- Keys with their values, each key once, in the order in which they were first written. -/
abbrev Document (V : Type := Datum) := List (String × V)

/-- Why a text is no document. -/
inductive Error where
  | malformed
  /-- A number is too long a numeral. -/
  | numeral (e : NumeralError)
deriving DecidableEq, Repr

/-- Why a value is not written. -/
inductive Unwritable where
  /-- There is no value. -/
  | void
  | numeral (e : NumeralError)
deriving DecidableEq, Repr

def Unwritable.message : Unwritable → String
  | .void => "Object of type '" ++ Datum.null.kindName ++ "' is not TOML serializable"
  | .numeral e => e.message

/-- What was written of a document. -/
structure Written where
  text : String
  /-- Why the rest was not. -/
  fault : Option Unwritable
deriving DecidableEq, Repr

/-- A library for documents with values in `V`. -/
class Library (V : Type) where
  ofDatum : Datum → V
  /-- Name of the kind of a value, as messages show it. -/
  kindName : V → String
  /-- The entries of a table; other values have none. -/
  entries? : V → Option (Document V)
  read : String → Except Error (Document V)
  write : Document V → Written
  kindName_ofDatum (d : Datum) : kindName (ofDatum d) = d.kindName
  entries?_ofDatum (d : Datum) :
    entries? (ofDatum d) = d.entries?.map (List.map fun e => (e.1, ofDatum e.2))

end PostSearch.Toml
