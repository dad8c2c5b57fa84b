import PostSearch.Sql.Junction
import PostSearch.Sql.TextQuery

/-! # Restrictions

A restriction is a condition on rows, built from simple conditions by `not`, `all` and `any`, and by
`someRow` over the rows of a group. Its operands are values at first; `bind` replaces them by
placeholders from left to right, and `text` writes the result. Writing simplifies, binding does not:
a value is bound even if its condition turns out to be absorbed. -/

namespace PostSearch.Sql

/-- How a column compares with a value. -/
inductive Relation where
  | equal
  | below
  | atMost
  | atLeast
deriving DecidableEq, Repr

def Relation.symbol : Relation → String
  | .equal => "="
  | .below => "<"
  | .atMost => "<="
  | .atLeast => ">="

/-- A simple condition with operands of type `ν`. -/
inductive Atom (ν : Type) where
  /-- A condition in its own words. -/
  | verbatim (text : String)
  /-- The column is true. -/
  | flag (column : String)
  | isNull (column : String)
  | notNull (column : String)
  /-- The column, or an expression, compares with a value, which may need a type. -/
  | compare (left : String) (relation : Relation) (right : ν) (type : Option String)
  | between (column : String) (lower upper : ν)
  /-- The column is one of the values. -/
  | oneOf (column : String) (values : ν) (type : String)
  /-- The column is none of the values. -/
  | noneOf (column : String) (values : ν) (type : String)
  /-- The array column has one of the numbers. -/
  | overlaps (column : String) (values : ν)
  /-- The array column has none of the numbers. -/
  | disjoint (column : String) (values : ν)
  /-- The text column matches. -/
  | matchesText (column : String) (query : TextQuery ν)
  /-- The post goes to a feed that the viewer reads: the own directs or a subscription. -/
  | reaches (viewer : ν)
  /-- The viewer has not banned the author in the column. -/
  | notBanned (viewer : ν) (author : String)

/-- A condition on rows with operands of type `ν`. -/
inductive Restriction (ν : Type) where
  | const (value : Bool)
  | atom (a : Atom ν)
  | not (f : Restriction ν)
  | all (fs : List (Restriction ν))
  | any (fs : List (Restriction ν))
  /-- Some row of the group meets the condition. -/
  | someRow (f : Restriction ν)

namespace Atom

/-- Replace the operands, from left to right, by the placeholders they are bound to. -/
def bind : Atom Datum → StateM Params (Atom Placeholder)
  | .verbatim s => return .verbatim s
  | .flag column => return .flag column
  | .isNull column => return .isNull column
  | .notNull column => return .notNull column
  | .compare left relation right type =>
    return .compare left relation (← Params.bind right) type
  | .between column lower upper => do
    let lower ← Params.bind lower
    return .between column lower (← Params.bind upper)
  | .oneOf column values type => return .oneOf column (← Params.bind values) type
  | .noneOf column values type => return .noneOf column (← Params.bind values) type
  | .overlaps column values => return .overlaps column (← Params.bind values)
  | .disjoint column values => return .disjoint column (← Params.bind values)
  | .matchesText column query => return .matchesText column (← query.bind)
  | .reaches viewer => return .reaches (← Params.bind viewer)
  | .notBanned viewer author => return .notBanned (← Params.bind viewer) author

/-- A placeholder with the type it is read as. -/
def castText (p : Placeholder) (type : String) : String :=
  "cast(" ++ p.text ++ " as " ++ type ++ ")"

/-- The condition as it stands in a statement. -/
def text : Atom Placeholder → String
  | .verbatim s => s
  | .flag column => column
  | .isNull column => column ++ " is null"
  | .notNull column => column ++ " is not null"
  | .compare left relation right type =>
    left ++ " " ++ relation.symbol ++ " " ++ type.elim right.text (castText right)
  | .between column lower upper => column ++ " between " ++ lower.text ++ " and " ++ upper.text
  | .oneOf column values type => column ++ " = any(" ++ castText values (type ++ "[]") ++ ")"
  | .noneOf column values type => column ++ " <> all(" ++ castText values (type ++ "[]") ++ ")"
  | .overlaps column values => "(" ++ column ++ " && " ++ castText values "int[]" ++ ")"
  | .disjoint column values => "(not " ++ column ++ " && " ++ castText values "int[]" ++ ")"
  | .matchesText column query => column ++ " @@ " ++ query.text
  | .reaches viewer =>
    "p.destination_feed_ids && array(select f.id from feeds f where (f.name = 'Directs'" ++
      " and f.user_id = " ++ castText viewer "uuid" ++ ")" ++
      " or f.uid in (select s.feed_id from subscriptions s where s.user_id = " ++
      castText viewer "uuid" ++ "))"
  | .notBanned viewer author =>
    "not exists (select 1 from bans b where b.user_id = " ++ castText viewer "uuid" ++
      " and b.banned_user_id = " ++ author ++ ")"

end Atom

namespace Restriction

variable {ν : Type}

/-- A restriction in its own words, which may be the constants. -/
def ofText (s : String) : Restriction ν :=
  if s = "true" then .const true else if s = "false" then .const false else .atom (.verbatim s)

/-- Membership of a column in the items, or in everything else. -/
def member (column : String) (items : List Scalar) (inclusive : Bool) (type : String) :
    Restriction Datum :=
  if items = [] then .const (!inclusive)
  else if inclusive then .atom (.oneOf column (.list (items.map .ofScalar)) type)
  else .atom (.noneOf column (.list (items.map .ofScalar)) type)

/-- An array column has one of the numbers, or none of them. -/
def overlap (column : String) (numbers : List Int) (inclusive : Bool) : Restriction Datum :=
  if numbers = [] then .const (!inclusive)
  else if inclusive then .atom (.overlaps column (.numbers numbers))
  else .atom (.disjoint column (.numbers numbers))

mutual

/-- Bind all operands from left to right. -/
def bind : Restriction Datum → StateM Params (Restriction Placeholder)
  | .const b => return .const b
  | .atom a => return .atom (← a.bind)
  | .not f => return .not (← bind f)
  | .all fs => return .all (← bindAll fs)
  | .any fs => return .any (← bindAll fs)
  | .someRow f => return .someRow (← bind f)

def bindAll : List (Restriction Datum) → StateM Params (List (Restriction Placeholder))
  | [] => return []
  | f :: fs => do
    let f ← bind f
    return f :: (← bindAll fs)

end

mutual

/-- The restriction as it stands in a statement. -/
def text : Restriction Placeholder → String
  | .const b => if b then "true" else "false"
  | .atom a => a.text
  | .not f => negate (text f)
  | .all fs => conjoin (texts fs)
  | .any fs => disjoin (texts fs)
  | .someRow f => if isNontrivial (text f) then "bool_or(" ++ text f ++ ")" else text f

def texts : List (Restriction Placeholder) → List String
  | [] => []
  | f :: fs => text f :: texts fs

end

end Restriction

end PostSearch.Sql
