import PostSearch.Text.Literal
import PostSearch.Text.Split

/-! # Paths

A path leads from an anchor through names to a file or a directory; the name `..` leads one level
up. Two paths may lead to the same place: a place is an anchor, a number of levels above it, and the
names from there on, none of which is `..`. -/

namespace PostSearch

/-- Where a path starts. -/
inductive Anchor where
  /-- The working directory. -/
  | working
  /-- The home directory of the user. -/
  | home
  | root
  /-- The root, written with two slashes. -/
  | doubleRoot
deriving DecidableEq, Repr

/-- The way from an anchor to a file or a directory. -/
structure Path where
  anchor : Anchor
  names : List String
deriving DecidableEq, Repr

/-- What a path leads to. -/
structure Place where
  anchor : Anchor
  /-- Levels above the anchor. -/
  above : Nat
  names : List String
deriving DecidableEq, Repr

/-! ### Places -/

namespace Place

def ofAnchor : Anchor → Place
  | .doubleRoot => ⟨.root, 0, []⟩
  | anchor => ⟨anchor, 0, []⟩

/-- The place one name further. Nothing is above the root. -/
def child (p : Place) (name : String) : Place :=
  if name = ".." then
    if p.names ≠ [] then { p with names := p.names.dropLast }
    else if p.anchor = .root then p
    else { p with above := p.above + 1 }
  else { p with names := p.names ++ [name] }

/-- The place lies below the other one. -/
def isBelow (p q : Place) : Bool :=
  p.anchor == q.anchor && p.above == q.above && q.names.isPrefixOf p.names && p != q

end Place

/-! ### Paths -/

namespace Path

/-- Read a path. The empty names and the single dots between its slashes mean nothing. -/
def ofText (s : String) : Path :=
  let names := ((Text.splitAt '/' s.toList).map String.ofList).filter fun name =>
    name ≠ "" && name ≠ "."
  let anchor := match s.toList with
    | '/' :: '/' :: '/' :: _ => .root
    | '/' :: '/' :: _ => .doubleRoot
    | '/' :: _ => .root
    | _ => .working
  ⟨anchor, names⟩

/-- Write a path; the path without names is its anchor. -/
def text (p : Path) : String :=
  let names := Text.joinWith "/" p.names
  match p.anchor with
  | .working => if p.names = [] then "." else names
  | .home => if p.names = [] then "~" else "~/" ++ names
  | .root => "/" ++ names
  | .doubleRoot => "//" ++ names

/-- The path as messages show it. -/
def literal (p : Path) : String :=
  String.ofList (Text.quote p.text.toList)

/-- The path to the directory that the path leads into; that of an anchor is the anchor. -/
def parent (p : Path) : Path :=
  ⟨p.anchor, p.names.dropLast⟩

/-- What the path leads to if all on the way to it are directories. -/
def place (p : Path) : Place :=
  p.names.foldl Place.child (.ofAnchor p.anchor)

end Path

end PostSearch
