import PostSearch.Query.StemLength
import PostSearch.Search.Compile

/-! # Searching

A request is a query with what the user chose; what was left open comes from the defaults. Both may
hold data of any kind, which is looked at only when it is needed: `Choices.compile` refuses what is
no number at the very place where a number is asked for. `search` compiles the query and runs the
statement on the site. -/

namespace PostSearch.Search

open Query Sql

/-! ### Choices of any kind -/

/-- How a query is compiled, as data of any kind. -/
structure Choices where
  viewer : Option String
  limit : Datum
  offset : Datum
  sort : Datum
  maxComplexity : Datum
  textSearchConfig : Datum
deriving DecidableEq, Repr

/-- Choices that are what options are. -/
def Options.toChoices (o : Options) : Choices :=
  ⟨o.viewer, .number o.limit, .number o.offset, .text o.sort, .number o.maxComplexity,
    o.textSearchConfig⟩

/-- An outcome that fails in the end, unless it has failed before. -/
def Outcome.spoil (o : Outcome) (e : Error) : Outcome :=
  { o with result := o.result.bind fun _ => .error e }

namespace Choices

/-- The options that choices amount to, once the numbers and the text among them are known. -/
def toOptions (c : Choices) (limit offset : Int) (sort : String) (maxComplexity : Int) : Options :=
  ⟨c.viewer, limit, offset, sort, maxComplexity, c.textSearchConfig⟩

/-- Compile the tokens of a query. The complexity is compared first, then comes the sort key; what
stands for the numbers of a page is read last of all. -/
def compile (site : Site) (c : Choices) (tokens : List Token) : Outcome :=
  let refuse (e : Error) : Outcome := ⟨[], [], .error e⟩
  match c.maxComplexity.number? with
  | none => refuse (.misfit (.incomparable ">" c.maxComplexity.kindName))
  | some maxComplexity =>
    match check (c.toOptions 0 0 Options.defaultSort maxComplexity) tokens, c.sort.plain with
    | .error e, _ => refuse e
    | .ok _, .error e => refuse (.misfit (.numeral e))
    | .ok _, .ok sort =>
      let outcome (limit offset : Int) :=
        Search.compile site (c.toOptions limit offset sort maxComplexity) tokens
      match c.limit.toInt, c.offset.toInt with
      | .ok limit, .ok offset => outcome limit offset
      | .error e, _ => (outcome 0 0).spoil (.misfit e)
      | .ok limit, .error e => (outcome limit 0).spoil (.misfit e)

end Choices

/-! ### Requests -/

/-- What a site has settled for its searches. -/
structure Defaults where
  minStem : Datum
  maxComplexity : Datum
  textSearchConfig : Datum
  limit : Datum
  sort : Datum
deriving DecidableEq, Repr

/-- What holds if nothing was settled. -/
def Defaults.standard : Defaults where
  minStem := .number defaultMinStem
  maxComplexity := .number Options.defaultMaxComplexity
  textSearchConfig := .text Options.defaultTextSearchConfig
  limit := .number Options.defaultLimit
  sort := .text Options.defaultSort

/-- A query with what the user chose; nothing stands for what was left open. -/
structure Request where
  query : String
  viewer : Option String
  limit : Datum
  offset : Datum
  sort : Datum
  maxComplexity : Datum
deriving DecidableEq, Repr

/-- Choices of the request, completed by the defaults. A void sort key is no choice. -/
def Request.choices (r : Request) (d : Defaults) : Choices where
  viewer := r.viewer
  limit := r.limit.getD d.limit
  offset := r.offset
  sort := if r.sort.isVoid then d.sort else r.sort
  maxComplexity := r.maxComplexity.getD d.maxComplexity
  textSearchConfig := d.textSearchConfig

def compileRequest (site : Site) (d : Defaults) (r : Request) : Outcome :=
  match parseWith r.query d.minStem with
  | .error e => ⟨[], [], .error (.misfit e)⟩
  | .ok tokens => (r.choices d).compile site tokens

/-- What a search found. -/
structure Found where
  /-- Ids of the posts, newest first. -/
  posts : List String
  statement : String
  params : Params

/-- Compile the query of a request and run the statement. -/
def search (site : Site) (d : Defaults) (r : Request) : Except Error Found := do
  let c ← (compileRequest site d r).result
  let posts ← (site.rows.mapM Datum.plain).mapError fun e => .misfit (.numeral e)
  return ⟨posts, c.statement.text, c.params⟩

end PostSearch.Search
