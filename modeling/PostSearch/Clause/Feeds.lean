import PostSearch.Clause.Conditions
import PostSearch.Sql.Restriction

/-! # Feeds

Feed conditions name accounts, or feeds of the viewer; the posts they mean are those in certain
feeds. `sources` says which feeds these are, `feedSet` looks their numbers up, and `feedRestriction`
writes the condition on posts. The viewer's discussions are the posts that the viewer commented on,
liked, or wrote; the last of these is no feed, so it is added to the restriction. -/

namespace PostSearch.Clause

open Query Sql

/-- Name that stands for the viewer in a query. -/
def viewerName : String := "me"

/-- Feeds whose numbers are looked up together. -/
inductive FeedSource where
  /-- Feeds of some accounts by their names. -/
  | owned (owners : List Account) (names : List FeedName)
  /-- All that an account reads. -/
  | subscribed (reader : Account)
deriving DecidableEq, Repr

/-- Why a feed condition cannot be looked up. -/
inductive FeedError where
  /-- The query asks for the viewer's own feeds, but there is no viewer. -/
  | noViewer
  | unavailable
  | badId (e : Uuid.Error)
deriving DecidableEq, Repr

namespace FeedSource

/-- The question to the site; feeds of nobody are not asked for. -/
def lookup? : FeedSource → Option Lookup
  | .owned [] _ => none
  | .owned owners names => some (.feedNumbers (distinct (owners.map Account.id)) names)
  | .subscribed reader => some (.subscribedNumbers reader.id)

def numbers (site : Site) (source : FeedSource) : Except FeedError (List Int) :=
  match source.lookup? with
  | some (.feedNumbers owners names) =>
    if names.any (· ∈ site.unavailable) then .error .unavailable
    else (site.feedNumbers owners names).mapError .badId
  | some (.subscribedNumbers reader) => (site.subscribedNumbers reader).mapError .badId
  | _ => .ok []

end FeedSource

/-! ### The viewer's own feeds -/

/-- Feeds of the viewer that a query can name. -/
inductive OwnFeeds where
  | saves
  | directs
  | discussions
  | friends
deriving DecidableEq, Repr

namespace OwnFeeds

/-- The feeds of a name in the plural. -/
def ofPlural? (name : String) : Option OwnFeeds :=
  if name = "saves" then some .saves
  else if name = "directs" then some .directs
  else if name = "discussions" then some .discussions
  else if name = "friends" then some .friends
  else none

/-- The feeds of an argument, which may be in the singular. -/
def ofArg? (arg : String) : Option OwnFeeds :=
  ofPlural? (if arg.toList.getLast? = some 's' then arg else arg ++ "s")

/-- Where the numbers of the feeds come from. -/
def source (viewer : Account) : OwnFeeds → FeedSource
  | .saves => .owned [viewer] [.saves]
  | .directs => .owned [viewer] [.directs]
  | .discussions => .owned [viewer] [.comments, .likes]
  | .friends => .subscribed viewer

end OwnFeeds

/-! ### Feed conditions -/

/-- Operators whose conditions are on feeds. -/
def isFeedOperator : Operator → Bool
  | .inFeed | .commentedBy | .likedBy | .sentTo | .inMy => true
  | _ => false

/-- The feed conditions of a query, in order. -/
def feedConditions (tokens : List Token) : List Condition :=
  tokens.filterMap fun
    | .condition c => if isFeedOperator c.operator then some c else none
    | _ => none

theorem mem_feedConditions {tokens : List Token} {c : Condition} :
    c ∈ feedConditions tokens ↔ .condition c ∈ tokens ∧ isFeedOperator c.operator = true :=
  mem_filterMap_condition (p := fun c => isFeedOperator c.operator = true)

/-- The feeds that a condition means. Accounts that are gone keep their comments and directs only.
-/
def sources (accounts : Accounts) (c : Condition) : Except FeedError (List FeedSource) :=
  let owners := (distinct c.args).filterMap accounts.find?
  let active := owners.filter Account.isActive
  match c.operator with
  | .inFeed => .ok [.owned active [.posts]]
  | .commentedBy => .ok [.owned owners [.comments]]
  | .likedBy => .ok [.owned active [.likes]]
  | .sentTo =>
    .ok [.owned (owners.filter Account.isUser) [.directs],
      .owned (active.filter Account.isGroup) [.posts]]
  | .inMy =>
    match accounts.find? viewerName with
    | none => .error .noViewer
    | some viewer => .ok ((distinct (c.args.filterMap OwnFeeds.ofArg?)).map (·.source viewer))
  | _ => .ok []

/-- The numbers of the feeds that a condition allows. -/
def feedSet (site : Site) (accounts : Accounts) (c : Condition) :
    Except FeedError (OpenList Int) := do
  let numbers ← (← sources accounts c).mapM (·.numbers site)
  return OpenList.ofItems numbers.flatten (!c.excluded)

/-- The condition is answered by a single question, or fails without one. -/
def isDirect (accounts : Accounts) (c : Condition) : Bool :=
  match c.operator with
  | .sentTo => false
  | .inMy => (accounts.find? viewerName).isNone
  | _ => true

/-- The feeds of all conditions. Questions are asked side by side: of several failures that of the
first condition with a single question is reported, else that of the first condition. -/
def feedSets (site : Site) (accounts : Accounts) (conditions : List Condition) :
    Except FeedError (List (Condition × OpenList Int)) := do
  let look (c : Condition) := feedSet site accounts c
  for c in conditions.filter (isDirect accounts) do
    let _ ← look c
  conditions.mapM fun c => (look c).map fun feeds => (c, feeds)

/-- All questions about feeds, in the order of the conditions. -/
def feedLookups (accounts : Accounts) (conditions : List Condition) : List Lookup :=
  conditions.flatMap fun c =>
    match sources accounts c with
    | .ok sources => sources.filterMap FeedSource.lookup?
    | .error _ => []

/-! ### The restriction -/

/-- Some argument contains the word `discussion`. -/
def namesDiscussions (c : Condition) : Bool :=
  c.operator == .inMy && c.args.any fun arg => Text.contains "discussion".toList arg.toList

/-- The token asks for the viewer's discussions. -/
def isDiscussions : Token → Bool
  | .condition c => namesDiscussions c
  | _ => false

/-- Posts that a feed condition allows, `viewer` being the viewer's id. -/
def feedRestriction (viewer : Option String) (c : Condition) (feeds : OpenList Int) :
    Restriction Datum :=
  let inFeeds := Restriction.overlap "p.feed_ids" feeds.items feeds.inclusive
  match viewer with
  | some id =>
    if namesDiscussions c && !c.excluded then
      .any [inFeeds, .atom (.compare "p.user_id" .equal (.text id) (some "uuid"))]
    else inFeeds
  | none => inFeeds

/-- Authors of the posts that a feed condition allows. -/
def feedAuthors (viewer : Option String) (c : Condition) : OpenList String :=
  match viewer with
  | some id =>
    if namesDiscussions c && c.excluded then (OpenList.ofList [id]).inverse else .everything
  | none => .everything

/-- Authors that all feed conditions allow, among `authors`. -/
def restrictAuthors (viewer : Option String) (authors : OpenList String)
    (conditions : List Condition) : OpenList String :=
  conditions.foldl (fun allowed c =>
    if namesDiscussions c && c.excluded then allowed.intersection (feedAuthors viewer c)
    else allowed) authors

end PostSearch.Clause
