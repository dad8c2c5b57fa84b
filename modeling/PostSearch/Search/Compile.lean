import PostSearch.Clause.Feeds
import PostSearch.Clause.Intervals
import PostSearch.Clause.Posts
import PostSearch.Clause.Visibility
import PostSearch.Sql.Statement

/-! # Compiling

`compile` turns the tokens of a query into a statement for one viewer of a site. What must not
reach the site is refused first; then accounts are resolved, feeds are looked up, and the clauses
are built and put together. The texts that apply to posts and comments alike would be an
alternative over two columns, which no index serves; so the statement is a union of a selection by
post bodies and one by comment bodies. -/

namespace PostSearch.Search

open Query Sql Clause

/-! ### Errors -/

/-- Why a query is not compiled. -/
inductive Error where
  | tooComplex (complexity : Nat) (limit : Int)
  /-- The query is on the viewer's own feeds, but there is no viewer. -/
  | signInForFeeds
  /-- The query names the viewer, but there is none. -/
  | signInForName
  | unknownSort (key : String)
  | feedsUnavailable
  | badId (e : Uuid.Error)
  | interval (e : IntervalError)
  /-- A number is missing where one is needed: in the query, or among what it is compiled with. -/
  | misfit (e : Datum.Misfit)
deriving DecidableEq, Repr

def Error.message : Error → String
  | .tooComplex _ _ => "The search query is too complex, try to simplify it"
  | .signInForFeeds => "Please sign in to use 'in-my:' filter"
  | .signInForName => "Please sign in to use 'me' as username"
  | .unknownSort key => "Unknown sort key: " ++ key
  | .feedsUnavailable => "feeds unavailable"
  | .badId e => e.message
  | .interval e => e.message
  | .misfit e => e.message

/-- A failed look at feeds as a failure of the query. -/
def Error.ofFeeds : FeedError → Error
  | .noViewer => .signInForFeeds
  | .unavailable => .feedsUnavailable
  | .badId e => .badId e

/-! ### What is compiled -/

/-- How a query is compiled. -/
structure Options where
  viewer : Option String
  limit : Int
  offset : Int
  sort : String
  maxComplexity : Int
  textSearchConfig : Datum
deriving DecidableEq, Repr

namespace Options

/-- Most results on a page. -/
def defaultLimit : Int := 30

def defaultSort : String := "bumped"

/-- Most complex query that is compiled. -/
def defaultMaxComplexity : Int := 30

/-- Text search configuration that takes words as they are. -/
def defaultTextSearchConfig : String := "pg_catalog.simple"

/-- An anonymous viewer's first page. -/
def default : Options :=
  ⟨none, defaultLimit, 0, defaultSort, defaultMaxComplexity, .text defaultTextSearchConfig⟩

end Options

/-- A statement with the values it is run with. -/
structure Compiled where
  statement : Statement
  params : Params
  complexity : Nat

/-- What came of compiling, and what the site was asked for it. -/
structure Outcome where
  accountLookups : List Lookup
  feedLookups : List Lookup
  result : Except Error Compiled

/-! ### Checks -/

/-- Refuse what must not reach the site. -/
def check (options : Options) (tokens : List Token) : Except Error SortKey :=
  if options.maxComplexity < complexity tokens then
    .error (.tooComplex (complexity tokens) options.maxComplexity)
  else if options.viewer.isNone && tokens.any (·.isCondition .inMy) then .error .signInForFeeds
  else match SortKey.ofName? options.sort with
    | some key => .ok key
    | none => .error (.unknownSort options.sort)

/-! ### Accounts -/

/-- Write the viewer's username for the viewer, in conditions on accounts. -/
def nameViewer (viewer : Option Account) (c : Condition) : Except Error Condition :=
  if c.operator.takesAccounts && c.args.contains viewerName then
    match viewer with
    | none => .error .signInForName
    | some a =>
      .ok { c with args := c.args.map fun arg => if arg = viewerName then a.username else arg }
  else .ok c

/-- Write the viewer's username for the viewer, in all conditions. -/
def nameViewerIn (viewer : Option Account) (tokens : List Token) : Except Error (List Token) :=
  tokens.mapM fun
    | .condition c => (nameViewer viewer c).map .condition
    | t => .ok t

/-- The account names of a query, each once. -/
def accountNames (tokens : List Token) : List String :=
  distinct (tokens.flatMap fun
    | .condition c => if c.operator.takesAccounts then c.args else []
    | _ => [])

/-- The question about account names, if there are any. -/
def nameLookups (names : List String) : List Lookup :=
  if names = [] then [] else [.accountsByName names]

/-- Accounts of the names; the viewer's name means the viewer. -/
def accountsOf (site : Site) (viewer : Option Account) (names : List String) : Accounts :=
  (viewerName, viewer) :: site.accountsByName names

/-! ### Clauses -/

/-- The clauses of a query before their values are bound. -/
structure Clauses where
  feeds : Restriction Datum
  postDays : Restriction Datum
  postOnlyDays : Restriction Datum
  commentDays : Restriction Datum
  commentOnlyDays : Restriction Datum
  publishedDays : Restriction Datum
  attachments : Restriction Datum
  privacy : Restriction Datum
  postCounters : List (Restriction Datum)
  commentCounters : Restriction Datum
  commentLikes : Restriction Datum
  postAuthors : OpenList String
  textAuthors : OpenList String
  postTextAuthors : OpenList String
  commentTextAuthors : OpenList String

/-- Build the clauses. It fails only if a condition on an interval has no proper bounds. -/
def clauses (tokens : List Token) (accounts : Accounts) (feeds : List (Condition × OpenList Int)) :
    Except Error Clauses := do
  let viewer := (accounts.find? viewerName).map Account.id
  let ids (names : OpenList String) := idsOf names accounts
  let lift {α : Type} (x : Except IntervalError α) : Except Error α := x.mapError .interval
  return {
    feeds := .all (feeds.map fun (c, numbers) => feedRestriction viewer c numbers)
    postDays := ← lift (contentDates tokens "p.created_at" .all)
    postOnlyDays := ← lift (contentDates tokens "p.created_at" .posts)
    commentDays := ← lift (contentDates tokens "c.created_at" .all)
    commentOnlyDays := ← lift (contentDates tokens "c.created_at" .comments)
    publishedDays := ← lift (postDates tokens "p.created_at")
    attachments := attachments tokens "a"
    privacy := privacy tokens "p"
    postCounters := [← lift (counters tokens .commentCount "pc.comments_count"),
      ← lift (counters tokens .likeCount "pc.likes_count")]
    commentCounters := ← lift (counters tokens .commentLikeCount "cc.likes_count")
    commentLikes := commentLikes tokens "cl.user_id" accounts
    postAuthors := restrictAuthors viewer (ids (postAuthors tokens)) (feeds.map Prod.fst)
    textAuthors := ids (textAuthors tokens .all)
    postTextAuthors := ids (textAuthors tokens .posts)
    commentTextAuthors := ids (textAuthors tokens .comments) }

def authorRestriction (column : String) (ids : OpenList String) : Restriction Datum :=
  Restriction.member column (ids.items.map .text) ids.inclusive "uuid"

/-- The text query matches the column, if there is one. -/
def matching {ν : Type} (column : String) (query : Option (TextQuery ν)) : List (Restriction ν) :=
  (query.map fun q => .atom (.matchesText column q)).toList

/-- The join, if the restriction that needs it depends on the row. -/
def neededFor (f : Restriction Placeholder) (join : Join) : List Join :=
  if isNontrivial f.text then [join] else []

/-! ### The statement -/

/-- Some token of the query applies to scopes that satisfy `p`. -/
def touches (p : Scope → Bool) (tokens : List Token) : Bool :=
  (withScope tokens).any fun (_, s) => p s

/-- What a statement is put together from, with operands of type `ν`. -/
structure Parts (ν : Type) where
  /-- Texts by the scopes they are looked for in. -/
  anywhere : Option (TextQuery ν)
  postsOnly : Option (TextQuery ν)
  commentsOnly : Option (TextQuery ν)
  feeds : Restriction ν
  postDays : Restriction ν
  commentDays : Restriction ν
  publishedDays : Restriction ν
  attachments : Restriction ν
  privacy : Restriction ν
  postCounters : Restriction ν
  commentCounters : Restriction ν
  commentLikes : Restriction ν
  visiblePosts : Restriction ν
  /-- Comments that may be seen, if the query is on comments at all. -/
  visibleComments : Option (Restriction ν)
  postTextAuthors : Restriction ν
  commentTextAuthors : Restriction ν
  postAuthors : Restriction ν
  limit : ν
  offset : ν

/-- Visibility of comments, if the query is on comments at all. -/
def commentVisibility? (site : Site) (options : Options) (tokens : List Token) :
    StateM Params (Option (Restriction Placeholder)) :=
  if touches Scope.coversComments tokens then do
    return some (← commentVisibility site options.viewer "c")
  else return none

/-- Bind the values clause by clause. -/
def bindParts (site : Site) (options : Options) (tokens : List Token) (c : Clauses) :
    StateM Params (Parts Placeholder) := do
  let anywhere ← scopeQuery options.textSearchConfig tokens .all
  let postsOnly ← scopeQuery options.textSearchConfig tokens .posts
  let commentsOnly ← scopeQuery options.textSearchConfig tokens .comments
  let feeds ← c.feeds.bind
  let postDays ← (Restriction.all [c.postDays, c.postOnlyDays]).bind
  let commentDays ← (Restriction.all [c.commentDays, c.commentOnlyDays]).bind
  let publishedDays ← c.publishedDays.bind
  let attachments ← c.attachments.bind
  let privacy ← c.privacy.bind
  let postCounters ← (Restriction.all c.postCounters).bind
  let commentCounters ← c.commentCounters.bind
  let commentLikes ← c.commentLikes.bind
  let visiblePosts ← postVisibility site options.viewer
  let visibleComments ← commentVisibility? site options tokens
  let postTextAuthors ← (Restriction.all [authorRestriction "p.user_id" c.textAuthors,
    authorRestriction "p.user_id" c.postTextAuthors]).bind
  let commentTextAuthors ← (Restriction.all [authorRestriction "c.user_id" c.textAuthors,
    authorRestriction "c.user_id" c.commentTextAuthors]).bind
  let postAuthors ← (authorRestriction "p.user_id" c.postAuthors).bind
  let limit ← Params.bind (.number options.limit)
  let offset ← Params.bind (.number options.offset)
  return ⟨anywhere, postsOnly, commentsOnly, feeds, postDays, commentDays, publishedDays,
    attachments, privacy, postCounters, commentCounters, commentLikes, visiblePosts,
    visibleComments, postTextAuthors, commentTextAuthors, postAuthors, limit, offset⟩

namespace Parts

def joins (p : Parts Placeholder) : List Join :=
  (p.visibleComments.map Join.comments).toList ++ neededFor p.commentLikes .commentLikes ++
    neededFor p.attachments .attachments ++ neededFor p.postCounters .postCounters ++
    neededFor p.commentCounters .commentCounters

/-- What both selections ask of the rows. -/
def common (p : Parts Placeholder) : Restriction Placeholder :=
  .all [p.postAuthors, p.publishedDays, p.visiblePosts, p.postCounters, p.commentCounters,
    p.privacy]

/-- What the selection by post bodies asks of the rows on its own. -/
def ownOfPosts (p : Parts Placeholder) : Restriction Placeholder :=
  .all [.all (matching "p.body_tsvector" p.anywhere ++ matching "p.body_tsvector" p.postsOnly ++
    matching "c.body_tsvector" p.commentsOnly), p.postTextAuthors, p.postDays]

/-- What the selection by comment bodies asks of the rows on its own. -/
def ownOfComments (p : Parts Placeholder) : Restriction Placeholder :=
  .all [.all (matching "c.body_tsvector" p.anywhere ++ matching "p.body_tsvector" p.postsOnly ++
    matching "c.body_tsvector" p.commentsOnly), p.commentTextAuthors, p.commentDays]

/-- A selection with conditions of its own. -/
def selection (p : Parts Placeholder) (sort : SortKey) (own : Restriction Placeholder) :
    Selection :=
  ⟨sort, p.joins, .all [own, p.common], .all [p.attachments, p.commentLikes]⟩

/-- The statement of the parts; `byPosts` asks for the selection by post bodies. -/
def statement (p : Parts Placeholder) (sort : SortKey) (byPosts : Bool) : Statement :=
  ⟨p.feeds, (if byPosts then [p.selection sort p.ownOfPosts] else []) ++
    (if p.visibleComments.isSome then [p.selection sort p.ownOfComments] else []),
    p.limit, p.offset⟩

end Parts

/-- Put the statement together, binding values clause by clause. Without a token on comments there
is a selection by post bodies in any case. -/
def assemble (site : Site) (options : Options) (sort : SortKey) (tokens : List Token)
    (c : Clauses) : StateM Params Statement := do
  let parts ← bindParts site options tokens c
  return parts.statement sort
    (touches Scope.coversPosts tokens || !touches Scope.coversComments tokens)

def compile (site : Site) (options : Options) (tokens : List Token) : Outcome :=
  match check options tokens with
  | .error e => ⟨[], [], .error e⟩
  | .ok sort =>
    let viewer := options.viewer.bind site.accountById?
    let viewerLookups := (options.viewer.map Lookup.accountById).toList
    match nameViewerIn viewer tokens with
    | .error e => ⟨viewerLookups, [], .error e⟩
    | .ok tokens' =>
      let names := accountNames tokens'
      let accounts := accountsOf site viewer names
      let conditions := feedConditions tokens'
      let result := do
        let feeds ← (feedSets site accounts conditions).mapError Error.ofFeeds
        let c ← clauses tokens' accounts feeds
        let (statement, params) := (assemble site options sort tokens' c).run
          (Params.empty Params.defaultStem)
        return ⟨statement, params, complexity tokens⟩
      ⟨viewerLookups ++ nameLookups names, feedLookups accounts conditions, result⟩

end PostSearch.Search
