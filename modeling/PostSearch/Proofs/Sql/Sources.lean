import PostSearch.Proofs.Sql.Lines

/-! # Tables of a selection

A line of a selection that begins with `from`, `join` or `left join` names a table and the alias it
goes by. No other line of a selection does.

Main statements: what is read as the condition on rows is the selection's own
(`Selection.whereTexts_lines`), and the lines on comments are the joins of comments
(`Selection.linesOn_comments`). -/

namespace PostSearch.Sql

/-! ### Reading tables -/

def words (line : String) : List String :=
  (line.toList.splitOn ' ').map String.ofList

/-- The table that a line introduces, and its alias. -/
def source? (line : String) : Option (String × String) :=
  match (words line).dropWhile (· = "left") with
  | word :: table :: name :: _ =>
    if word = "from" ∨ word = "join" then some (table, name) else none
  | _ => none

/-- The lines of a selection that introduce the table. -/
def linesOn (table : String) (member : List String) : List String :=
  member.filter fun l => (source? l).map Prod.fst = some table

theorem words_ofList (s : List Char) :
    words (String.ofList s) = (s.splitOn ' ').map String.ofList := by
  rw [words, String.toList_ofList]

theorem words_append (s t : String) : words (s ++ " " ++ t) = words s ++ words t := by
  have e : (s ++ " " ++ t).toList = s.toList ++ ' ' :: t.toList := by simp
  rw [words, e, List.splitOn_append_cons_self, List.map_append]
  rfl

theorem source?_eq_none {w : String} (hw : words w = [w])
    (h : w ≠ "left" ∧ w ≠ "from" ∧ w ≠ "join") (rest : String) :
    source? (w ++ " " ++ rest) = none := by
  obtain ⟨hleft, hfrom, hjoin⟩ := h
  rw [source?, words_append, hw, List.singleton_append,
    List.dropWhile_cons_of_neg (by simp [hleft])]
  split
  · rename_i e
    obtain ⟨rfl, -⟩ := List.cons.inj e
    rw [if_neg (by simp [hfrom, hjoin])]
  · rfl

def Join.source : Join → String × String
  | .comments _ => ("comments", "c")
  | .commentLikes => ("comment_likes", "cl")
  | .attachments => ("attachments", "a")
  | .postCounters => ("post_counters", "pc")
  | .commentCounters => ("comment_counters", "cc")

namespace Selection

theorem source?_comments (rest : String) :
    source? ("left join comments c on c.post_id = p.uid and " ++ rest) =
      some ("comments", "c") := by
  have e : "left join comments c on c.post_id = p.uid and " =
      "left join comments c on c.post_id = p.uid and" ++ " " := rfl
  have hw : words "left join comments c on c.post_id = p.uid and" =
      ["left", "join", "comments", "c", "on", "c.post_id", "=", "p.uid", "and"] :=
    words_ofList _
  rw [e, source?, words_append, hw]
  rfl

theorem source?_join (j : Join) : source? j.text = some j.source := by
  have hlikes : source? "left join comment_likes cl on cl.comment_id = c.id" =
      some ("comment_likes", "cl") := by decide +kernel
  have hfiles : source? "left join attachments a on a.post_id = p.uid" =
      some ("attachments", "a") := by decide +kernel
  have hposts : source? "join post_counters pc on pc.post_id = p.uid" =
      some ("post_counters", "pc") := by decide +kernel
  have hcomments : source? "join comment_counters cc on cc.comment_id = c.uid" =
      some ("comment_counters", "cc") := by decide +kernel
  cases j with
  | comments visible => exact source?_comments visible.text
  | commentLikes => exact hlikes
  | attachments => exact hfiles
  | postCounters => exact hposts
  | commentCounters => exact hcomments

theorem source?_from : source? "from posts p" = some ("posts", "p") := by
  have hw : words "from posts p" = ["from", "posts", "p"] := words_ofList _
  rw [source?, hw]
  rfl

theorem source?_users : source? "join users u on p.user_id = u.uid" = some ("users", "u") := by
  have hw : words "join users u on p.user_id = u.uid" =
      ["join", "users", "u", "on", "p.user_id", "=", "u.uid"] := words_ofList _
  rw [source?, hw]
  rfl

theorem source?_where (rest : String) : source? ("where " ++ rest) = none :=
  source?_eq_none (w := "where") (words_ofList _) (by decide) rest

theorem source?_having (rest : String) : source? ("having " ++ rest) = none :=
  source?_eq_none (w := "having") (words_ofList _) (by decide) rest

theorem source?_select (sort : SortKey) :
    source? ("select p.uid, " ++ sort.column ++ " as date, p.id") = none := by
  have e : "select p.uid, " = "select" ++ " " ++ "p.uid, " := rfl
  rw [e, String.append_assoc, String.append_assoc]
  exact source?_eq_none (w := "select") (words_ofList _) (by decide) _

theorem source?_groupBy (sort : SortKey) :
    source? ("group by p.uid, " ++ sort.column ++ ", p.id") = none := by
  have e : "group by p.uid, " = "group" ++ " " ++ "by p.uid, " := rfl
  rw [e, String.append_assoc, String.append_assoc]
  exact source?_eq_none (w := "group") (words_ofList _) (by decide) _

/-- The condition on rows is read back. -/
theorem whereTexts_lines (s : Selection) : whereTexts s.lines = [s.rows.text] := by
  have hselect : textAfter? "where " ("select p.uid, " ++ s.sort.column ++ " as date, p.id") =
      none := by
    rw [String.append_assoc]
    exact textAfter?_eq_none (clash_ofList rfl) _
  have hgroup : textAfter? "where " ("group by p.uid, " ++ s.sort.column ++ ", p.id") = none := by
    rw [String.append_assoc]
    exact textAfter?_eq_none (clash_ofList rfl) _
  have hfrom : textAfter? "where " "from posts p" = none := textAfter?_ofList rfl
  have husers : textAfter? "where " "join users u on p.user_id = u.uid" = none :=
    textAfter?_ofList rfl
  have hhaving : textAfter? "where " ("having " ++ s.groups.text) = none :=
    textAfter?_eq_none (clash_ofList rfl) _
  have hjoins : (s.joins.map Join.text).filterMap (textAfter? "where ") = [] := by
    rw [List.filterMap_eq_nil_iff]
    intro l hl
    obtain ⟨j, -, rfl⟩ := List.mem_map.1 hl
    exact join_cases (P := fun l => textAfter? "where " l = none)
      (fun visible _ => textAfter?_eq_none (clash_ofList rfl) _) (textAfter?_ofList rfl)
      (textAfter?_ofList rfl) (textAfter?_ofList rfl) (textAfter?_ofList rfl)
  rw [whereTexts, lines, List.filterMap_append, List.filterMap_append, hjoins]
  simp only [List.filterMap_cons, List.filterMap_nil, hselect, hfrom, husers, hgroup, hhaving,
    textAfter?_append, List.nil_append]

theorem linesOn_comments (s : Selection) : linesOn "comments" s.lines =
    (s.joins.filterMap Join.restriction?).map fun visible =>
      "left join comments c on c.post_id = p.uid and " ++ visible.text := by
  have hjoins : ∀ js : List Join,
      (js.map Join.text).filter (fun l => (source? l).map Prod.fst = some "comments") =
      (js.filterMap Join.restriction?).map fun visible =>
        "left join comments c on c.post_id = p.uid and " ++ visible.text := by
    intro js
    induction js with
    | nil => rfl
    | cons j js ih =>
        rw [List.map_cons, List.filter_cons, ih, source?_join]
        cases j <;> rfl
  rw [linesOn, lines, List.filter_append, List.filter_append, hjoins]
  simp [source?_select, source?_groupBy, source?_where, source?_having, source?_from, source?_users]

end Selection

end PostSearch.Sql
