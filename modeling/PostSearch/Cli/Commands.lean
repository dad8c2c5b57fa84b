import PostSearch.Cli.Arguments
import PostSearch.Cli.Console
import PostSearch.Cli.Report
import PostSearch.Settings.SearchDefaults
import PostSearch.Settings.Session

/-! # Commands

To carry out a command the settings are gathered first. A command that fails leaves a message and the
exit code 1, and files that it changed before stay changed. How settings files are read, how a
database is reached and how messages are put out is up to libraries. -/

namespace PostSearch.Cli

open Settings (Session)

variable [Toml.Library Datum] [Database.Library] [Console]

/-! ### Failures -/

/-- Why a command fails. -/
inductive Failure where
  /-- The viewer is given by something else than an id. -/
  | viewer (given : Datum)
  /-- Some length in the settings is no number. -/
  | query (e : Datum.Misfit)
  | search (e : Search.Error)
  /-- The answer holds a number that cannot be written. -/
  | numeral (e : NumeralError)
  | settings (e : Settings.Error)
  | connection (e : Database.Fault)
  /-- The database of the connection cannot be asked. -/
  | unreached (c : Database.Connection)
deriving Repr

namespace Failure

/-- Wording of the failure; a number that is too large cannot be put into words. -/
def message : Failure → Except NumeralError String
  | .viewer given => do return "Viewer must be a user id (UUID), got " ++ (← given.literal)
  | .query e => .ok e.message
  | .search e => .ok e.message
  | .numeral e => .ok e.message
  | .settings e => .ok e.message
  | .connection e => e.message
  | .unreached c => .ok (Database.Library.refusal c)

/-- The user asked for something that is not allowed; all else is an error of the program or of its
surroundings, and called so. -/
def isRefusal : Failure → Bool
  | .viewer _ | .search (.tooComplex _ _) | .search .signInForFeeds | .search .signInForName => true
  | _ => false

/-- The failure as a styled message. -/
def styled (f : Failure) : Except NumeralError String := do
  return "[red]" ++ (if f.isRefusal then "" else "Error: ") ++ (← f.message) ++ "[/red]"

end Failure

/-! ### What is searched -/

/-- Where searches are run. -/
inductive Source where
  /-- The data are at hand. -/
  | site (s : Site)
  /-- The data are in the database that the settings name. -/
  | database

def connect (s : Settings) : Except Failure Database.Connection :=
  (Database.connect (s.value .databaseUrl) (s.value .poolSize) (s.value .databaseEcho)).mapError
    .connection

/-- The query of a request, compiled. A database is connected first, and its accounts and feeds are
out of reach. -/
def compileOn (source : Source) (s : Settings) (r : Search.Request) :
    Except Failure Search.Compiled := do
  match source with
  | .site site => (Search.compileRequest site s.searchDefaults r).result.mapError .search
  | .database =>
    let c ← connect s
    let o := Search.compileRequest Site.small s.searchDefaults r
    if o.accountLookups.isEmpty && o.feedLookups.isEmpty then o.result.mapError .search
    else throw (.unreached c)

/-- The posts that the query of a request finds. -/
def searchOn (source : Source) (s : Settings) (r : Search.Request) :
    Except Failure (List String) := do
  match source with
  | .site site => return (← (Search.search site s.searchDefaults r).mapError .search).posts
  | .database =>
    let _ ← compileOn .database s r
    throw (.unreached (← connect s))

/-! ### Commands -/

/-- What a command answers. -/
inductive Answer where
  | plain (text : String)
  /-- A message for the terminal. -/
  | styled (text : String)
deriving DecidableEq, Repr

/-- What a command did. -/
structure Done where
  answer : Except Failure Answer
  /-- Number of statements that were run. -/
  executed : Nat
  files : Files

/-- A report on lines of its own. -/
def pageOf (d : Datum) : Except Failure Answer :=
  if d.isOversized then .error (.numeral .tooLarge) else .ok (.plain (Report.page d))

/-- The viewer, who is given by an id if at all. -/
def viewerOf (given : Datum) : Except Failure (Option String) :=
  match given with
  | .null => .ok none
  | .text s => if Uuid.isCanonical s.toList then .ok (some s) else .error (.viewer given)
  | _ => .error (.viewer given)

/-- The search that a page is asked of. -/
def PageRequest.toSearch (r : PageRequest) : Except Failure Search.Request := do
  return ⟨r.query, ← viewerOf r.viewer, r.limit, r.offset, r.sort, .null⟩

def parseAnswer (s : Settings) (format : OutputFormat) (query : String) :
    Except Failure Answer := do
  let tokens ← (Query.parseWith query (s.value .minStem)).mapError .query
  match format with
  | .json => pageOf (Report.tokens query tokens)
  | .plain | .table => return .plain (Report.tokenLines tokens)

def statementAnswer (source : Source) (s : Settings) (format : OutputFormat) (r : PageRequest) :
    Except Failure Answer := do
  let compiled ← compileOn source s (← r.toSearch)
  match format with
  | .json => pageOf (Report.statement compiled)
  | .plain | .table => return .plain (Report.statementLines compiled)

def searchAnswer (source : Source) (s : Settings) (format : OutputFormat) (r : PageRequest) :
    Except Failure Answer := do
  let posts ← searchOn source s (← r.toSearch)
  match format with
  | .json => return .plain (Report.posts posts)
  | .plain | .table => return .plain (Report.lines posts)

def databaseAnswer (s : Settings) (format : OutputFormat) : Except Failure Answer := do
  let c ← connect s
  match format with
  | .json => pageOf (Report.database c)
  | .plain | .table => return .plain (Report.databaseLines c)

def settingsAnswer (s : Settings) : Except Failure Answer := do
  let fields ← s.report.mapError .settings
  return .plain (Report.lines (fields.map fun (name, v) => name ++ ": " ++ v.shown))

/-- Write the settings to a file, the user's own if none is named. -/
def saveSettings (session : Session) (path : Option String) : Done :=
  let path := match path with
    | none | some "" => Settings.userFile
    | some p => Path.ofText p
  match session.save path with
  | (none, session) => ⟨.ok (.styled "[green]Configuration saved[/green]"), 0, session.files⟩
  | (some e, session) => ⟨.error (.settings e), 0, session.files⟩

def perform (source : Source) (session : Session) (s : Settings) (format : OutputFormat) :
    Command → Done
  | .parse query => ⟨parseAnswer s format query, 0, session.files⟩
  | .sql r => ⟨statementAnswer source s format r, 0, session.files⟩
  | .search r => ⟨searchAnswer source s format r, 1, session.files⟩
  | .databaseInfo => ⟨databaseAnswer s format, 0, session.files⟩
  | .databaseInit => ⟨do throw (.unreached (← connect s)), 0, session.files⟩
  | .configShow => ⟨settingsAnswer s, 0, session.files⟩
  | .configSave path => saveSettings session path

/-! ### Command lines -/

/-- What is left after the program has ended. -/
structure Outcome where
  exit : Nat
  output : String
  executed : Nat
  files : Files

/-- Why the program breaks off without an outcome. -/
inductive Error where
  /-- The settings could not be gathered. -/
  | settings (e : Settings.Error)
  /-- The level of what is logged is given by something else than a text. -/
  | logLevel (kind : String)
  /-- A message cannot be styled. -/
  | style (e : Console.Error)
  /-- A failure holds a number that cannot be written. -/
  | numeral (e : NumeralError)
deriving DecidableEq, Repr

/-- A styled message as it is put out. -/
def shown (environment : Settings.Environment) (styled : String) : Except Error String :=
  (Console.render environment styled).mapError .style

def Done.outcome (d : Done) (environment : Settings.Environment) : Except Error Outcome := do
  match d.answer with
  | .ok (.plain text) => return ⟨0, text, d.executed, d.files⟩
  | .ok (.styled text) => return ⟨0, ← shown environment text, d.executed, d.files⟩
  | .error f =>
    let text ← f.styled.mapError .numeral
    return ⟨1, ← shown environment text, 0, d.files⟩

/-- The format asked for, or else the one that was settled. -/
def formatOf (g : Globals) (s : Settings) : OutputFormat :=
  match g.output, s.value .outputFormat with
  | some format, _ => format
  | none, .text name => (OutputFormat.ofName? name).getD .table
  | none, _ => .table

/-- The settings that a command line asks for, kept in a session. -/
def settle (files : Files) (environment : Settings.Environment) (g : Globals) :
    Except Settings.Error Settings × Session :=
  let named := match g.configFile with
    | none | some "" => none
    | some path => some (Path.ofText path)
  let address := match g.database with
    | none => .null
    | some text => .text text
  let format := (g.output.map fun format =>
    (Settings.Field.outputFormat.name, Datum.text format.name)).toList
  (Session.start files environment).init address named format

/-- What is logged depends on a text, unless everything is. -/
def checkLogLevel (g : Globals) (s : Settings) : Except Error Unit :=
  match g.verbose, s.value .logLevel with
  | true, _ | false, .text _ => .ok ()
  | false, d => .error (.logLevel d.kindName)

/-- Carry out the command of a command line. -/
def Arguments.carryOut (a : Arguments) (source : Source) (files : Files)
    (environment : Settings.Environment) : Except Error Outcome :=
  match settle files environment a.globals with
  | (.error e, _) => .error (.settings e)
  | (.ok s, session) => do
    checkLogLevel a.globals s
    (perform source session s (formatOf a.globals s) a.command).outcome environment

end PostSearch.Cli
