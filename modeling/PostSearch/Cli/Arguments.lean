import PostSearch.Cli.Switch
import PostSearch.Datum
import PostSearch.Sql.Statement

/-! # Arguments

`Arguments.parse` reads a command line: options that hold for every command, the command, and what
the command takes. -/

namespace PostSearch.Cli

/-- How answers are written. -/
inductive OutputFormat where
  | table
  | json
  | plain
deriving DecidableEq, Repr

namespace OutputFormat

def name : OutputFormat → String
  | .table => "table"
  | .json => "json"
  | .plain => "plain"

def ofName? (name : String) : Option OutputFormat :=
  [OutputFormat.table, .json, .plain].find? (·.name = name)

end OutputFormat

/-- A query with the page asked for. An option that was given without a word is an empty list, and
one that was not given is null. -/
structure PageRequest where
  query : String
  viewer : Datum
  limit : Datum
  offset : Datum
  sort : Datum
deriving DecidableEq, Repr

/-- What is to be done. -/
inductive Command where
  /-- Show the tokens of a query. -/
  | parse (query : String)
  /-- Show the statement of a query. -/
  | sql (request : PageRequest)
  /-- Run a query. -/
  | search (request : PageRequest)
  | databaseInfo
  | databaseInit
  | configShow
  | configSave (path : Option String)
deriving DecidableEq, Repr

/-- Options that hold for every command. -/
structure Globals where
  database : Option String
  configFile : Option String
  output : Option OutputFormat
  verbose : Bool
deriving DecidableEq, Repr

/-- A command with the options that hold for every command. -/
structure Arguments where
  globals : Globals
  command : Command
deriving DecidableEq, Repr

/-! ### Options -/

/-- Asks for help. -/
def helpSwitch {σ : Type} : Switch σ :=
  ⟨["-h", "--help"], .help⟩

/-- An option that takes any word. -/
def textSwitch {σ : Type} (spellings : List String) (set : Option String → σ → σ) : Switch σ :=
  ⟨spellings, .value fun word choices => some (set word choices)⟩

/-- An option whose word is read as a datum. -/
def datumSwitch {σ : Type} (spellings : List String) (read : String → Option Datum)
    (set : Datum → σ → σ) : Switch σ :=
  ⟨spellings, .value fun word choices =>
    match word with
    | none => some (set (.list []) choices)
    | some word => (read word).map fun d => set d choices⟩

/-- The number of a numeral. -/
def numberOfWord (word : String) : Option Datum :=
  match Numeral.readInt 10 word.toList with
  | .ok n => some (.number n)
  | .error _ => none

/-- The word itself, if it names a sort key. -/
def sortOfWord (word : String) : Option Datum :=
  (Sql.SortKey.ofName? word).map fun _ => .text word

/-- The options that hold for every command. -/
def globalOptions : List (Switch Globals) := [
  helpSwitch,
  textSwitch ["--db"] fun word g => { g with database := word },
  textSwitch ["--config"] fun word g => { g with configFile := word },
  ⟨["-o", "--output"], .value fun word g =>
    match word with
    | none => some { g with output := none }
    | some word =>
      (OutputFormat.ofName? word).map fun format => { g with output := some format }⟩,
  ⟨["-v", "--verbose"], .flag fun g => { g with verbose := true }⟩]

def pageOptions : List (Switch PageRequest) := [
  helpSwitch,
  datumSwitch ["--viewer"] (fun word => some (.text word)) fun d r => { r with viewer := d },
  datumSwitch ["--limit"] numberOfWord fun d r => { r with limit := d },
  datumSwitch ["--offset"] numberOfWord fun d r => { r with offset := d },
  datumSwitch ["--sort"] sortOfWord fun d r => { r with sort := d }]

/-- The options of commands that have none of their own. -/
def noOptions : List (Switch Unit) :=
  [helpSwitch]

/-! ### Commands -/

/-- A command that was read. -/
structure Reading where
  command : Command
  /-- There were words that nothing takes. -/
  hasStrays : Bool
deriving DecidableEq, Repr

/-- Read the options of a command and the word it takes. -/
def readWord {σ : Type} (options : List (Switch σ)) (takesWord : Bool) (choices : σ)
    (words : List String) : Except Refusal (Progress σ) :=
  match classifyAll? options words with
  | none => .error .misuse
  | some words => scan options takesWord ⟨choices, none, false⟩ words

/-- Read the options in front of the name of a command; the name and all after it are left. -/
def readName {σ : Type} (options : List (Switch σ)) (choices : σ) (words : List String) :
    Except Refusal (Progress σ × String × List String) :=
  match classifyAll? options words with
  | none => .error .misuse
  | some words => do
    match ← leading options ⟨choices, none, false⟩ words with
    | (p, (name, .plain) :: rest) => .ok (p, name, rest.map Prod.fst)
    | _ => .error .misuse

/-- A command that takes nothing. -/
def readNothing (command : Command) (words : List String) : Except Refusal Reading := do
  let p ← readWord noOptions false () words
  return ⟨command, p.hasStrays⟩

/-- A command that takes a query and nothing else. -/
def readQuery (command : String → Command) (words : List String) : Except Refusal Reading := do
  let p ← readWord noOptions true () words
  match p.word with
  | none => .error .misuse
  | some query => return ⟨command query, p.hasStrays⟩

/-- A command that may take a path. -/
def readPath (command : Option String → Command) (words : List String) :
    Except Refusal Reading := do
  let p ← readWord noOptions true () words
  return ⟨command p.word, p.hasStrays⟩

/-- A command on a page of results. -/
def readPage (command : PageRequest → Command) (words : List String) : Except Refusal Reading := do
  let p ← readWord pageOptions true ⟨"", .null, .null, .number 0, .null⟩ words
  match p.word with
  | none => .error .misuse
  | some query => return ⟨command { p.choices with query := query }, p.hasStrays⟩

/-- Commands by name, each with the reader of what it takes. -/
abbrev Commands := List (String × (List String → Except Refusal Reading))

/-- A command that consists of two names. -/
def readSecond (commands : Commands) (words : List String) : Except Refusal Reading := do
  let (p, name, rest) ← readName noOptions () words
  match commands.lookup name with
  | none => .error .misuse
  | some read =>
    let r ← read rest
    return { r with hasStrays := p.hasStrays || r.hasStrays }

def databaseCommands : Commands :=
  [("info", readNothing .databaseInfo), ("init", readNothing .databaseInit)]

def configCommands : Commands :=
  [("show", readNothing .configShow), ("save", readPath .configSave)]

def commands : Commands :=
  [("parse", readQuery .parse), ("sql", readPage .sql), ("search", readPage .search),
    ("db", readSecond databaseCommands), ("config", readSecond configCommands)]

def Arguments.parse (words : List String) : Except Refusal Arguments := do
  let (p, name, rest) ← readName globalOptions ⟨none, none, none, false⟩ words
  match commands.lookup name with
  | none => .error .misuse
  | some read =>
    let r ← read rest
    if p.hasStrays || r.hasStrays then .error .misuse else return ⟨p.choices, r.command⟩

end PostSearch.Cli
