import PostSearch.Text.Split

/-! # Operator names

A lexeme `name:argument` is a condition if its name is a spelling of an operator, and opens or fills
a scope if it is a spelling of one. Several spellings mean one operator; hyphens and plural endings
are mostly optional. -/

namespace PostSearch.Query

/-- The part of a document that a token applies to. -/
inductive Scope where
  | posts
  | comments
  | all
deriving DecidableEq, Repr

namespace Scope

def name : Scope → String
  | .posts => "POSTS"
  | .comments => "COMMENTS"
  | .all => "ALL"

/-- Number of the scope; that of the whole is the sum of its parts'. -/
def number : Scope → Nat
  | .posts => 1
  | .comments => 2
  | .all => 3

def coversPosts : Scope → Bool
  | .posts | .all => true
  | .comments => false

def coversComments : Scope → Bool
  | .comments | .all => true
  | .posts => false

end Scope

/-- What a condition restricts. -/
inductive Operator where
  /-- Posts of the viewer's own feeds: saves, directs, discussions, friends. -/
  | inMy
  /-- Posts in the feed of a user or group. -/
  | inFeed
  | commentedBy
  | likedBy
  /-- Posts with a comment that was liked by someone. -/
  | commentLikedBy
  /-- Posts written by someone. -/
  | postBy
  /-- Posts or comments whose text was written by someone. -/
  | textBy
  /-- Directs to users, posts to groups. -/
  | sentTo
  | privacy
  | attachment
  /-- Date of the post or comment. -/
  | contentDate
  | postDate
  | commentCount
  | likeCount
  /-- Likes of a comment. -/
  | commentLikeCount
  /-- A name that means nothing. -/
  | other (name : String)
deriving DecidableEq, Repr

namespace Operator

def name : Operator → String
  | .inMy => "in-my"
  | .inFeed => "in"
  | .commentedBy => "commented-by"
  | .likedBy => "liked-by"
  | .commentLikedBy => "cliked-by"
  | .postBy => "from"
  | .textBy => "author"
  | .sentTo => "to"
  | .privacy => "is"
  | .attachment => "has"
  | .contentDate => "date"
  | .postDate => "post-date"
  | .commentCount => "comments"
  | .likeCount => "likes"
  | .commentLikeCount => "clikes"
  | .other name => name

/-- All operators that mean something. -/
def known : List Operator :=
  [.inMy, .inFeed, .commentedBy, .likedBy, .commentLikedBy, .postBy, .textBy, .sentTo, .privacy,
    .attachment, .contentDate, .postDate, .commentCount, .likeCount, .commentLikeCount]

def ofName (name : String) : Operator :=
  (known.find? (·.name == name)).getD (.other name)

/-- The arguments are the two bounds of an interval. -/
def takesInterval : Operator → Bool
  | .contentDate | .postDate | .commentCount | .likeCount | .commentLikeCount => true
  | _ => false

def takesAccounts : Operator → Bool
  | .inFeed | .commentedBy | .likedBy | .commentLikedBy | .postBy | .textBy | .sentTo => true
  | _ => false

/-- Operators that make sense inside comments only. -/
def commentOnly : List Operator :=
  [.commentLikedBy, .commentLikeCount]

end Operator

/-! ### Spellings -/

def scopeSpellings : List (String × Scope) := [
  ("inbody", .posts), ("in-body", .posts),
  ("incomment", .comments), ("incomments", .comments),
  ("in-comment", .comments), ("in-comments", .comments)]

def listSpellings : List (String × Operator) := [
  ("inmy", .inMy), ("in-my", .inMy),
  ("in", .inFeed), ("group", .inFeed), ("groups", .inFeed),
  ("commentedby", .commentedBy), ("commented-by", .commentedBy),
  ("likedby", .likedBy), ("liked-by", .likedBy),
  ("clikedby", .commentLikedBy), ("cliked-by", .commentLikedBy),
  ("from", .postBy),
  ("author", .textBy), ("authors", .textBy), ("by", .textBy),
  ("to", .sentTo),
  ("is", .privacy)]

def fileSpellings : List (String × Operator) := [
  ("has", .attachment), ("with", .attachment)]

def dateSpellings : List (String × Operator) := [
  ("date", .contentDate), ("dates", .contentDate),
  ("postdate", .postDate), ("postdates", .postDate),
  ("post-date", .postDate), ("post-dates", .postDate)]

def counterSpellings : List (String × Operator) := [
  ("comment", .commentCount), ("comments", .commentCount),
  ("like", .likeCount), ("likes", .likeCount),
  ("clike", .commentLikeCount), ("clikes", .commentLikeCount)]

/-- What a name is a spelling of. One newline at its end does not matter. -/
def spelled? {α : Type} (name : List Char) (table : List (String × α)) : Option α :=
  table.lookup (String.ofList (Text.dropFinalNewline name))

end PostSearch.Query
