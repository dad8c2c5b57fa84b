import PostSearch.Site.Basic
import PostSearch.Sql.Restriction

/-! # Visibility

What a viewer may see at all. Anonymous viewers see unprotected posts of accounts that are not gone.
Others see what they wrote, what is not private and what reaches them, but nothing by authors they
banned. A site may have rules of its own instead. -/

namespace PostSearch.Clause

open Sql

def visiblePosts {ν : Type} : Option ν → Restriction ν
  | none => .all [.not (.atom (.flag "p.is_protected")), .atom (.isNull "u.gone_status")]
  | some viewer => .all [
      .atom (.isNull "u.gone_status"),
      .any [
        .not (.atom (.flag "p.is_private")),
        .atom (.compare "p.user_id" .equal viewer (some "uuid")),
        .atom (.reaches viewer)],
      .atom (.notBanned viewer "p.user_id")]

/-- Comments of the table `table` that a viewer may see: not hidden, and not by a banned author. -/
def visibleComments {ν : Type} (table : String) : Option ν → Restriction ν
  | none => .atom (.verbatim (table ++ ".hide_type = 0"))
  | some viewer => .all [
      .atom (.verbatim (table ++ ".hide_type = 0")),
      .atom (.notBanned viewer (table ++ ".user_id"))]

/-- Bind the viewer's id, if there is a viewer. -/
def bindViewer (viewer : Option String) : StateM Params (Option Placeholder) :=
  Params.bindOption (viewer.map fun id => .text id)

/-- The site's rule on posts, or visibility to the viewer. -/
def postVisibility (site : Site) (viewer : Option String) :
    StateM Params (Restriction Placeholder) := do
  match site.postRule with
  | some rule => return Restriction.ofText rule
  | none => return visiblePosts (← bindViewer viewer)

/-- The site's rule on comments, or visibility to the viewer. -/
def commentVisibility (site : Site) (viewer : Option String) (table : String) :
    StateM Params (Restriction Placeholder) := do
  match site.commentRule with
  | some rule => return Restriction.ofText rule
  | none => return visibleComments table (← bindViewer viewer)

end PostSearch.Clause
