import PostSearch.Datum
import PostSearch.OpenList
import PostSearch.Uuid

/-! # Sites

What a search needs to know about the site it runs on: its accounts, their feeds, who is subscribed
to what, and what a statement would answer. -/

namespace PostSearch

/-- What an account is for. -/
inductive AccountKind where
  | user
  | group
  | other (name : String)
deriving DecidableEq, Repr

namespace AccountKind

def name : AccountKind → String
  | .user => "user"
  | .group => "group"
  | .other name => name

def ofName (name : String) : AccountKind :=
  if name = "user" then .user else if name = "group" then .group else .other name

end AccountKind

/-- A user, a group, or something else that owns feeds. -/
structure Account where
  id : String
  number : Int
  username : String
  kind : AccountKind
  /-- The account is not gone. -/
  isActive : Bool
deriving DecidableEq, Repr

def Account.isUser (a : Account) : Bool :=
  a.kind == .user

def Account.isGroup (a : Account) : Bool :=
  a.kind == .group

/-- Which of its owner's feeds a feed is. -/
inductive FeedName where
  | posts
  | comments
  | likes
  | directs
  | saves
  | other (name : String)
deriving DecidableEq, Repr

namespace FeedName

def name : FeedName → String
  | .posts => "Posts"
  | .comments => "Comments"
  | .likes => "Likes"
  | .directs => "Directs"
  | .saves => "Saves"
  | .other name => name

/-- The names that mean something. -/
def known : List FeedName :=
  [.posts, .comments, .likes, .directs, .saves]

def ofName (name : String) : FeedName :=
  (known.find? (·.name == name)).getD (.other name)

end FeedName

/-- A feed of an account. -/
structure Feed where
  number : Int
  owner : String
  name : FeedName
deriving DecidableEq, Repr

/-- An account reads a feed. -/
structure Subscription where
  reader : String
  feed : Int
deriving DecidableEq, Repr

/-- A site as a search sees it. -/
structure Site where
  accounts : List Account
  feeds : List Feed
  subscriptions : List Subscription
  /-- First column of what any statement answers. -/
  rows : List Datum
  /-- Feeds that cannot be looked up at present. -/
  unavailable : List FeedName
  /-- The site's own rule on which posts are seen, if it has one. -/
  postRule : Option String
  /-- The site's own rule on which comments are seen, if it has one. -/
  commentRule : Option String

/-! ### A small site -/

namespace Site

/-- The id of the `n`-th account of the small site. -/
def smallId (n : Nat) : String :=
  String.ofList (Uuid.format n)

/-- Three users, one of them gone, and two groups, one of them gone. -/
def small : Site where
  accounts := [
    ⟨smallId 1, 1, "alice", .user, true⟩,
    ⟨smallId 2, 2, "bob", .user, true⟩,
    ⟨smallId 3, 3, "cats", .group, true⟩,
    ⟨smallId 4, 4, "ghost", .user, false⟩,
    ⟨smallId 5, 5, "oldgroup", .group, false⟩]
  feeds := [
    ⟨11, smallId 1, .posts⟩, ⟨12, smallId 1, .comments⟩, ⟨13, smallId 1, .likes⟩,
    ⟨14, smallId 1, .directs⟩, ⟨15, smallId 1, .saves⟩,
    ⟨21, smallId 2, .posts⟩, ⟨22, smallId 2, .comments⟩, ⟨23, smallId 2, .likes⟩,
    ⟨24, smallId 2, .directs⟩,
    ⟨31, smallId 3, .posts⟩,
    ⟨41, smallId 4, .posts⟩, ⟨42, smallId 4, .comments⟩, ⟨43, smallId 4, .likes⟩,
    ⟨44, smallId 4, .directs⟩,
    ⟨51, smallId 5, .posts⟩]
  subscriptions := [⟨smallId 1, 21⟩, ⟨smallId 1, 31⟩]
  rows := []
  unavailable := []
  postRule := none
  commentRule := none

end Site

end PostSearch
