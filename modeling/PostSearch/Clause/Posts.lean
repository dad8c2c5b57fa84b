import PostSearch.Clause.Conditions
import PostSearch.Sql.Restriction

/-! # Privacy, attachments and liked comments

The clauses that are built from all conditions of an operator at once: words of privacy, types of
attached files, and those who liked a comment. What is asked for and what is excluded are two
filters, and both have to hold. -/

namespace PostSearch.Clause

open Query Sql

/-- Both parts of a clause that are there; the second one is negated. -/
def bothParts (build : List String → Restriction Datum) (asked excluded : Option (List String)) :
    Restriction Datum :=
  .all ((asked.map build).toList ++ (excluded.map fun args => .not (build args)).toList)

/-! ### Privacy -/

/-- Words that say who sees a post. -/
def privacyWords : List String :=
  ["public", "private", "protected"]

/-- Posts that a word of privacy means, in the table `table`. -/
def privacyWord (table word : String) : Restriction Datum :=
  if word = "public" then .not (.atom (.flag (table ++ ".is_protected")))
  else if word = "protected" then
    .all [.atom (.flag (table ++ ".is_protected")),
      .not (.atom (.flag (table ++ ".is_private")))]
  else .atom (.flag (table ++ ".is_private"))

/-- All conditions on privacy. Arguments that mean nothing are left out. -/
def privacy (tokens : List Token) (table : String) : Restriction Datum :=
  let conditions := conditionsOf .privacy tokens
  let known (args : List String) := args.filter (· ∈ privacyWords)
  bothParts (fun args => .any (args.map (privacyWord table)))
    ((argsWhere false conditions).map known) ((argsWhere true conditions).map known)

/-! ### Attachments -/

/-- Kinds of media; a file is any of them. -/
def mediaKinds : List String :=
  ["audio", "image", "general"]

/-- A file type with `file` spelled out. -/
def spellOutFile (type : String) : List String :=
  if type = "file" then mediaKinds else [type]

/-- An attachment of the table `table` has the type: an extension, or a kind of media. -/
def hasType (table type : String) : Restriction Datum :=
  let value (s : String) : Datum := .text s
  match type.toList with
  | '.' :: extension =>
    .atom (.compare ("lower(reverse(split_part(reverse(" ++ table ++ ".file_name), '.', 1)))")
      .equal (value (String.ofList extension)) none)
  | _ => .atom (.compare (table ++ ".media_type") .equal (value type) none)

def hasAnyType (table : String) (types : List String) : Restriction Datum :=
  if mediaKinds.all (· ∈ types) then .someRow (.atom (.notNull (table ++ ".media_type")))
  else .someRow (.any (types.map (hasType table)))

def attachments (tokens : List Token) (table : String) : Restriction Datum :=
  let conditions := conditionsOf .attachment tokens
  let types (excluded : Bool) :=
    (argsWhere excluded conditions).map fun args => distinct (args.flatMap spellOutFile)
  bothParts (hasAnyType table) (types false) (types true)

/-! ### Liked comments -/

/-- Some like is by one of the named accounts. -/
def likedByAny (column : String) (accounts : Accounts) (names : List String) : Restriction Datum :=
  match names.filterMap fun name => (accounts.find? name).map Account.number with
  | [] => .const false
  | numbers => .someRow (.atom (.oneOf column (.numbers numbers) "int"))

def commentLikes (tokens : List Token) (column : String) (accounts : Accounts) :
    Restriction Datum :=
  let conditions := conditionsOf .commentLikedBy (inScope .comments tokens)
  bothParts (likedByAny column accounts) (argsWhere false conditions) (argsWhere true conditions)

end PostSearch.Clause
