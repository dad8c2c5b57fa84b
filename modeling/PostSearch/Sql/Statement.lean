import PostSearch.Sql.Restriction

/-! # Statements

A search statement is a union of selections of posts, newest first, a page of it. If the query is on
feeds, the selections start from a common table of the posts in these feeds. -/

namespace PostSearch.Sql

/-- Dates that posts are sorted by. -/
inductive SortKey where
  | bumped
  | created
  | updated
deriving DecidableEq, Repr

namespace SortKey

def name : SortKey → String
  | .bumped => "bumped"
  | .created => "created"
  | .updated => "updated"

def known : List SortKey :=
  [.bumped, .created, .updated]

def ofName? (name : String) : Option SortKey :=
  known.find? (·.name == name)

def column (key : SortKey) : String :=
  "p." ++ key.name ++ "_at"

end SortKey

/-- Tables that are joined to posts and their authors, when they are needed. -/
inductive Join where
  /-- Comments that meet the restriction; posts without such a comment stay. -/
  | comments (visible : Restriction Placeholder)
  | commentLikes
  | attachments
  | postCounters
  | commentCounters

def Join.text : Join → String
  | .comments visible => "left join comments c on c.post_id = p.uid and " ++ visible.text
  | .commentLikes => "left join comment_likes cl on cl.comment_id = c.id"
  | .attachments => "left join attachments a on a.post_id = p.uid"
  | .postCounters => "join post_counters pc on pc.post_id = p.uid"
  | .commentCounters => "join comment_counters cc on cc.comment_id = c.uid"

/-- Posts, one row each, with the date they are sorted by. -/
structure Selection where
  sort : SortKey
  joins : List Join
  /-- Condition on rows before they are grouped by post. -/
  rows : Restriction Placeholder
  /-- Condition on the group of a post. -/
  groups : Restriction Placeholder

/-- Lines one below the other. -/
def linesText (lines : List String) : String :=
  Text.joinWith "\n" lines

def Selection.text (s : Selection) : String :=
  linesText (
    ["select p.uid, " ++ s.sort.column ++ " as date, p.id",
      "from posts p",
      "join users u on p.user_id = u.uid"] ++
    s.joins.map Join.text ++
    ["where " ++ s.rows.text,
      "group by p.uid, " ++ s.sort.column ++ ", p.id",
      "having " ++ s.groups.text])

/-- A page of a union of selections. -/
structure Statement where
  /-- Posts that the selections start from. -/
  feeds : Restriction Placeholder
  selections : List Selection
  limit : Placeholder
  offset : Placeholder

/-- The common table, unless it would hold all posts. -/
def Statement.commonTable (s : Statement) : List String :=
  if s.feeds.text = "true" then []
  else ["with posts as materialized (select * from posts p where " ++ s.feeds.text ++ ")"]

def Statement.text (s : Statement) : String :=
  linesText (
    s.commonTable ++
    [Text.joinWith "\nunion\n" (s.selections.map Selection.text),
      "order by date desc, id desc limit " ++ s.limit.text ++ " offset " ++ s.offset.text])

end PostSearch.Sql
