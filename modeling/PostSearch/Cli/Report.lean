import PostSearch.Database.Connection
import PostSearch.Query.ScopeWalk
import PostSearch.Search.Run
import PostSearch.Text.Json

/-! # Reports

What commands answer, as data and as plain lines. -/

namespace PostSearch.Cli.Report

open Text

def page (d : Datum) : String :=
  Json.indented 0 d ++ "\n"

def lines (ls : List String) : String :=
  String.join (ls.map (· ++ "\n"))

/-! ### Tokens -/

/-- A token with the scope it applies to. -/
def ofToken (t : Query.Token × Query.Scope) : Datum :=
  .table [("type", .text t.1.kind), ("scope", .text t.2.name), ("token", .text t.1.text),
    ("complexity", .number t.1.complexity)]

def tokens (query : String) (ts : List Query.Token) : Datum :=
  .table [("query", .text query), ("complexity", .number (Query.complexity ts)),
    ("tokens", .list ((Query.withScope ts).map ofToken))]

/-- The tokens of a query, one a line. -/
def tokenLines (ts : List Query.Token) : String :=
  lines ((Query.withScope ts).map fun (t, scope) => scope.name ++ "\t" ++ t.text)

/-! ### Statements and results -/

def statement (c : Search.Compiled) : Datum :=
  .table [("sql", .text c.statement.text), ("params", .table c.params.entries),
    ("complexity", .number c.complexity)]

/-- A statement, and its bound values one a line. -/
def statementLines (c : Search.Compiled) : String :=
  lines (c.statement.text ::
    c.params.entries.map fun (name, v) => "  :" ++ name ++ " = " ++ v.shown)

def posts (ids : List String) : String :=
  Json.inline (.texts ids) ++ "\n"

/-! ### The database -/

/-- The tables that searches are run on. -/
def tableNames : List String :=
  ["users", "feeds", "subscriptions", "bans", "posts", "comments", "comment_likes", "attachments",
    "post_counters", "comment_counters"]

/-- A connection and the tables behind it. -/
def database (c : Database.Connection) : Datum :=
  .table [("url", .text c.url), ("engine", .text c.engine), ("driver", .text c.driver),
    ("tables", .texts tableNames)]

/-- A connection and the tables behind it, one property a line. -/
def databaseLines (c : Database.Connection) : String :=
  lines ["url: " ++ c.url, "engine: " ++ c.engine, "driver: " ++ c.driver,
    "tables: " ++ (Datum.texts tableNames).shown]

end PostSearch.Cli.Report
