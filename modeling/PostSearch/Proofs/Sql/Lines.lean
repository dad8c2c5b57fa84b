import PostSearch.Proofs.Sql.Reading
import PostSearch.Sql.Statement

/-! # Statements line by line

The text of a statement is read back by its lines: between the line of the common table and the line
of the page stand the selections, with lines `union` between them.

Main statement: as long as no restriction breaks a line, the members of the union that are read off
a statement are the lines of its selections (`Statement.unionMembers_text`). -/

namespace PostSearch.Sql

/-! ### Reading lines -/

def lines (s : String) : List String :=
  (s.toList.splitOn '\n').map String.ofList

/-- The line begins with the words. -/
def begins (words line : String) : Bool :=
  words.toList.isPrefixOf line.toList

/-- The members of the union, line by line: what is left without the common table and the page, cut
at the lines `union`. -/
def unionMembers (sql : String) : List (List String) :=
  ((lines sql).filter fun l => !begins "with " l && !begins "order by " l).splitOn "union"

/-- What the line says after the words that it begins with. -/
def textAfter? (words line : String) : Option String :=
  if begins words line then some (String.ofList (line.toList.drop words.toList.length)) else none

/-- The conditions on rows in the lines of a selection. -/
def whereTexts (member : List String) : List String :=
  member.filterMap (textAfter? "where ")

/-- The text has one line. -/
def IsInline (s : String) : Prop :=
  '\n' ∉ s.toList

instance (s : String) : Decidable (IsInline s) :=
  inferInstanceAs (Decidable ('\n' ∉ s.toList))

theorem isInline_ofList {s : List Char} (h : '\n' ∉ s) : IsInline (String.ofList s) := by
  rwa [IsInline, String.toList_ofList]

theorem IsInline.append {s t : String} (hs : IsInline s) (ht : IsInline t) :
    IsInline (s ++ t) := by
  rw [IsInline, String.toList_append, List.mem_append]
  exact fun h => h.elim hs ht

/-- Neither of the texts begins with the other. -/
def clash (s t : String) : Bool :=
  !s.toList.isPrefixOf t.toList && !t.toList.isPrefixOf s.toList

theorem clash_ofList {s t : List Char} (h : !s.isPrefixOf t && !t.isPrefixOf s) :
    clash (String.ofList s) (String.ofList t) := by
  rwa [clash, String.toList_ofList, String.toList_ofList]

theorem not_begins {words head : String} (h : clash words head) (rest : String) :
    begins words (head ++ rest) = false := by
  rw [begins, String.toList_append, Bool.eq_false_iff]
  intro hb
  simp only [clash, Bool.and_eq_true, Bool.not_eq_true', ← Bool.not_eq_true,
    List.isPrefixOf_iff_prefix] at h hb
  rcases List.prefix_or_prefix_of_prefix hb (List.prefix_append _ _) with hp | hp
  · exact h.1 hp
  · exact h.2 hp

theorem begins_self (words : String) : begins words words = true :=
  List.isPrefixOf_iff_prefix.2 List.prefix_rfl

theorem begins_ofList {s t : List Char} (h : s.isPrefixOf t) :
    begins (String.ofList s) (String.ofList t) = true := by
  rwa [begins, String.toList_ofList, String.toList_ofList]

theorem begins_append {words head : String} (h : begins words head) (rest : String) :
    begins words (head ++ rest) = true := by
  rw [begins, List.isPrefixOf_iff_prefix] at h ⊢
  rw [String.toList_append]
  exact h.trans (List.prefix_append _ _)

theorem textAfter?_append (words rest : String) : textAfter? words (words ++ rest) = some rest := by
  rw [textAfter?, if_pos (begins_append (begins_self words) rest), String.toList_append,
    List.drop_left, String.ofList_toList]

theorem textAfter?_eq_none {words head : String} (h : clash words head) (rest : String) :
    textAfter? words (head ++ rest) = none := by
  rw [textAfter?, not_begins h rest]
  rfl

theorem textAfter?_ofList {s t : List Char} (h : s.isPrefixOf t = false) :
    textAfter? (String.ofList s) (String.ofList t) = none := by
  rw [textAfter?, begins, String.toList_ofList, String.toList_ofList, h]
  rfl

theorem lines_eq_singleton {s : String} (h : IsInline s) : lines s = [s] := by
  rw [lines, List.splitOn_eq_singleton h, List.map_singleton, String.ofList_toList]

theorem lines_newline (s t : String) : lines (s ++ "\n" ++ t) = lines s ++ lines t := by
  have e : (s ++ "\n" ++ t).toList = s.toList ++ '\n' :: t.toList := by simp
  rw [lines, e, List.splitOn_append_cons_self, List.map_append]
  rfl

theorem lines_linesText : ∀ {ls : List String}, ls ≠ [] →
    lines (linesText ls) = ls.flatMap lines
  | [], h => absurd rfl h
  | [s], _ => by simp [linesText, Text.joinWith]
  | s :: t :: rest, _ => by
      have hne : t :: rest ≠ [] := by simp
      have ih := lines_linesText hne
      rw [linesText] at ih ⊢
      rw [Text.joinWith, lines_newline, ih]
      rfl

theorem lines_unions : ∀ {ss : List String}, ss ≠ [] →
    lines (Text.joinWith "\nunion\n" ss) = ["union"].intercalate (ss.map lines)
  | [], h => absurd rfl h
  | [s], _ => by simp [Text.joinWith]
  | s :: t :: rest, _ => by
      have e : s ++ "\nunion\n" ++ Text.joinWith "\nunion\n" (t :: rest) =
          s ++ "\n" ++ ("union" ++ "\n" ++ Text.joinWith "\nunion\n" (t :: rest)) := by
        rw [← String.toList_inj]
        simp
      have hunion : lines "union" = ["union"] := lines_eq_singleton (isInline_ofList (by decide))
      rw [Text.joinWith, e, lines_newline, lines_newline, hunion, lines_unions (by simp)]
      simp [List.intercalate_cons_cons]

/-- What reads a text line by line reads its lines. -/
theorem read_lines {β : Type} {read : List Char → List β}
    (h : ∀ s t, read (s ++ '\n' :: t) = read s ++ read t) (s : String) :
    read s.toList = (lines s).flatMap fun l => read l.toList := by
  have hjoin : ∀ {ls : List (List Char)}, ls ≠ [] →
      read (['\n'].intercalate ls) = ls.flatMap read := by
    intro ls hls
    induction ls with
    | nil => exact absurd rfl hls
    | cons l ls ih =>
        cases ls with
        | nil => simp
        | cons m ls =>
            rw [List.intercalate_cons_cons, List.append_assoc, List.singleton_append, h,
              ih (by simp)]
            exact List.flatMap_cons.symm
  have e := hjoin (List.splitOn_ne_nil '\n' s.toList)
  rw [List.intercalate_splitOn] at e
  rw [e, lines, List.flatMap_map]
  simp only [String.toList_ofList]

/-! ### The lines of a selection -/

/-- The condition on comments that are joined. -/
def Join.restriction? : Join → Option (Restriction Placeholder)
  | .comments visible => some visible
  | _ => none

namespace Selection

def restrictions (s : Selection) : List (Restriction Placeholder) :=
  s.rows :: s.groups :: s.joins.filterMap Join.restriction?

def lines (s : Selection) : List String :=
  ["select p.uid, " ++ s.sort.column ++ " as date, p.id",
    "from posts p",
    "join users u on p.user_id = u.uid"] ++
  s.joins.map Join.text ++
  ["where " ++ s.rows.text,
    "group by p.uid, " ++ s.sort.column ++ ", p.id",
    "having " ++ s.groups.text]

theorem text_eq (s : Selection) : s.text = linesText s.lines :=
  rfl

/-- The line is neither the common table nor the page nor the word between selections. -/
def IsOwnLine (l : String) : Prop :=
  begins "with " l = false ∧ begins "order by " l = false ∧ l ≠ "union"

/-- What a line of a selection may begin with. -/
def isOwnHead (head : String) : Bool :=
  clash "with " head && (clash "order by " head && clash "union" head)

/-- Two letters tell the lines of a selection from the others. -/
theorem isOwnHead_ofList {c d : Char} {s : List Char}
    (h : (c, d) ∉ [('w', 'i'), ('o', 'r'), ('u', 'n')]) :
    isOwnHead (String.ofList (c :: d :: s)) := by
  have hclash : ∀ {a b : Char} {t : List Char}, (c, d) ≠ (a, b) →
      clash (String.ofList (a :: b :: t)) (String.ofList (c :: d :: s)) := by
    intro a b t hne
    apply clash_ofList
    by_cases ha : a = c
    · subst ha
      have hb : d ≠ b := fun e => hne (by rw [e])
      simp [List.isPrefixOf, hb, Ne.symm hb]
    · simp [List.isPrefixOf, ha, Ne.symm ha]
  simp only [List.mem_cons, List.not_mem_nil, or_false, not_or] at h
  obtain ⟨hw, ho, hu⟩ := h
  rw [isOwnHead, Bool.and_eq_true_iff, Bool.and_eq_true_iff]
  exact ⟨hclash hw, hclash ho, hclash hu⟩

theorem isOwnLine_append {head : String} (h : isOwnHead head) (rest : String) :
    IsOwnLine (head ++ rest) := by
  obtain ⟨hw, h⟩ := Bool.and_eq_true_iff.1 h
  obtain ⟨ho, hu⟩ := Bool.and_eq_true_iff.1 h
  refine ⟨not_begins hw rest, not_begins ho rest, fun e => ?_⟩
  have hb := not_begins hu rest
  rw [e, begins_self] at hb
  cases hb

theorem isOwnLine_of_head {head : String} (h : isOwnHead head) : IsOwnLine head := by
  rw [← String.append_empty (s := head)]
  exact isOwnLine_append h ""

theorem join_cases {P : String → Prop} {j : Join}
    (comments : ∀ visible, j = .comments visible →
      P ("left join comments c on c.post_id = p.uid and " ++ visible.text))
    (commentLikes : P "left join comment_likes cl on cl.comment_id = c.id")
    (attachments : P "left join attachments a on a.post_id = p.uid")
    (postCounters : P "join post_counters pc on pc.post_id = p.uid")
    (commentCounters : P "join comment_counters cc on cc.comment_id = c.uid") : P j.text := by
  cases j with
  | comments visible => exact comments visible rfl
  | commentLikes => exact commentLikes
  | attachments => exact attachments
  | postCounters => exact postCounters
  | commentCounters => exact commentCounters

theorem isOwnLine_join (j : Join) : IsOwnLine j.text :=
  join_cases
    (fun visible _ => isOwnLine_append (isOwnHead_ofList (by decide)) visible.text)
    (isOwnLine_of_head (isOwnHead_ofList (by decide)))
    (isOwnLine_of_head (isOwnHead_ofList (by decide)))
    (isOwnLine_of_head (isOwnHead_ofList (by decide)))
    (isOwnLine_of_head (isOwnHead_ofList (by decide)))

theorem isOwnLine_lines (s : Selection) : ∀ l ∈ s.lines, IsOwnLine l := by
  simp only [lines, List.forall_mem_append, List.forall_mem_cons, List.forall_mem_map,
    String.append_assoc]
  refine ⟨⟨⟨?_, ?_, ?_, ?_⟩, fun j _ => isOwnLine_join j⟩, ?_, ?_, ?_, ?_⟩
  · exact isOwnLine_append (isOwnHead_ofList (by decide)) _
  · exact isOwnLine_of_head (isOwnHead_ofList (by decide))
  · exact isOwnLine_of_head (isOwnHead_ofList (by decide))
  · exact fun l hl => absurd hl List.not_mem_nil
  · exact isOwnLine_append (isOwnHead_ofList (by decide)) _
  · exact isOwnLine_append (isOwnHead_ofList (by decide)) _
  · exact isOwnLine_append (isOwnHead_ofList (by decide)) _
  · exact fun l hl => absurd hl List.not_mem_nil

theorem inline_join {j : Join} (h : ∀ visible, j = .comments visible → IsInline visible.text) :
    IsInline j.text :=
  join_cases (fun visible e => IsInline.append (isInline_ofList (by decide)) (h visible e))
    (isInline_ofList (by decide)) (isInline_ofList (by decide)) (isInline_ofList (by decide))
    (isInline_ofList (by decide))

theorem mem_restrictions_of_join {s : Selection} {j : Join} (hj : j ∈ s.joins)
    {visible : Restriction Placeholder} (e : j = .comments visible) : visible ∈ s.restrictions := by
  subst e
  exact List.mem_cons_of_mem _ (List.mem_cons_of_mem _ (List.mem_filterMap.2 ⟨_, hj, rfl⟩))

theorem inline_lines {s : Selection} (h : ∀ f ∈ s.restrictions, IsInline f.text) :
    ∀ l ∈ s.lines, IsInline l := by
  have hrows : IsInline s.rows.text := h _ List.mem_cons_self
  have hgroups : IsInline s.groups.text := h _ (List.mem_cons_of_mem _ List.mem_cons_self)
  have hcolumn : IsInline s.sort.column := by cases s.sort <;> decide_cbv
  simp only [lines, List.forall_mem_append, List.forall_mem_cons, List.forall_mem_map]
  refine ⟨⟨⟨?_, ?_, ?_, ?_⟩, fun j hj => ?_⟩, ?_, ?_, ?_, ?_⟩
  · exact (IsInline.append (isInline_ofList (by decide)) hcolumn).append
      (isInline_ofList (by decide))
  · exact isInline_ofList (by decide)
  · exact isInline_ofList (by decide)
  · exact fun l hl => absurd hl List.not_mem_nil
  · exact inline_join fun visible e => h visible (mem_restrictions_of_join hj e)
  · exact IsInline.append (isInline_ofList (by decide)) hrows
  · exact (IsInline.append (isInline_ofList (by decide)) hcolumn).append
      (isInline_ofList (by decide))
  · exact IsInline.append (isInline_ofList (by decide)) hgroups
  · exact fun l hl => absurd hl List.not_mem_nil

theorem lines_text {s : Selection} (h : ∀ f ∈ s.restrictions, IsInline f.text) :
    Sql.lines s.text = s.lines := by
  rw [text_eq, lines_linesText (by simp [lines])]
  have hone : ∀ l ∈ s.lines, Sql.lines l = [l] :=
    fun l hl => lines_eq_singleton (inline_lines h l hl)
  rw [List.flatMap_def, List.map_congr_left hone, ← List.flatMap_def, List.flatMap_singleton']

end Selection

/-! ### The lines of a statement -/

namespace Statement

def page (s : Statement) : String :=
  "order by date desc, id desc limit " ++ s.limit.text ++ " offset " ++ s.offset.text

def restrictions (s : Statement) : List (Restriction Placeholder) :=
  s.feeds :: s.selections.flatMap Selection.restrictions

/-- Nothing in the statement breaks a line. -/
structure Inline (s : Statement) : Prop where
  restrictions : ∀ f ∈ s.restrictions, IsInline f.text
  limit : IsInline s.limit.text
  offset : IsInline s.offset.text

variable {s : Statement}

theorem lines_commonTable (h : s.Inline) : s.commonTable.flatMap lines = s.commonTable := by
  unfold commonTable
  split
  · rfl
  · have e : IsInline ("with posts as materialized (select * from posts p where " ++
        s.feeds.text ++ ")") :=
      (IsInline.append (isInline_ofList (by decide)) (h.restrictions _ List.mem_cons_self)).append
        (isInline_ofList (by decide))
    rw [List.flatMap_singleton, lines_eq_singleton e]

theorem inline_page (h : s.Inline) : IsInline s.page :=
  ((IsInline.append (isInline_ofList (by decide)) h.limit).append
    (isInline_ofList (by decide))).append h.offset

/-- The lines of a statement: the common table, the selections with `union` between them, and the
page. -/
theorem lines_text (h : s.Inline) (hs : s.selections ≠ []) :
    lines s.text = s.commonTable ++
      (["union"].intercalate (s.selections.map Selection.lines) ++ [s.page]) := by
  have hmembers : (s.selections.map Selection.text).map lines =
      s.selections.map Selection.lines := by
    rw [List.map_map]
    refine List.map_congr_left fun t ht => Selection.lines_text fun f hf => h.restrictions f ?_
    exact List.mem_cons_of_mem _ (List.mem_flatMap.2 ⟨t, ht, hf⟩)
  have htext : s.text = linesText (s.commonTable ++
      [Text.joinWith "\nunion\n" (s.selections.map Selection.text), s.page]) := rfl
  rw [htext, lines_linesText (by simp), List.flatMap_append, lines_commonTable h,
    List.flatMap_cons, List.flatMap_singleton, lines_eq_singleton (inline_page h),
    lines_unions (by simpa using hs), hmembers]

/-- The lines that the common table and the page leave out. -/
def isBetween (l : String) : Bool :=
  !begins "with " l && !begins "order by " l

theorem filter_commonTable (s : Statement) : s.commonTable.filter isBetween = [] := by
  rw [List.filter_eq_nil_iff]
  intro l hl
  unfold commonTable at hl
  split at hl
  · cases hl
  · obtain rfl := List.mem_singleton.1 hl
    have hb : begins "with " ("with posts as materialized (select * from posts p where " ++
        s.feeds.text ++ ")") = true :=
      begins_append (begins_append (begins_ofList (by decide)) _) _
    rw [isBetween, hb]
    simp

theorem filter_page (s : Statement) : [s.page].filter isBetween = [] := by
  rw [List.filter_eq_nil_iff]
  intro l hl
  obtain rfl := List.mem_singleton.1 hl
  have hb : begins "order by " s.page = true :=
    begins_append (begins_append (begins_append (begins_ofList (by decide)) _) _) _
  rw [isBetween, hb]
  simp

theorem mem_intercalate {α : Type} {sep : List α} {x : α} : ∀ {xss : List (List α)},
    x ∈ sep.intercalate xss → x ∈ sep ∨ ∃ xs ∈ xss, x ∈ xs
  | [], h => by simp at h
  | [xs], h => Or.inr ⟨xs, List.mem_singleton_self xs, by simpa using h⟩
  | xs :: ys :: rest, h => by
      rw [List.intercalate_cons_cons, List.mem_append, List.mem_append] at h
      rcases h with (h | h) | h
      · exact Or.inr ⟨xs, List.mem_cons_self, h⟩
      · exact Or.inl h
      · refine (mem_intercalate h).imp_right ?_
        rintro ⟨zs, hz, hx⟩
        exact ⟨zs, List.mem_cons_of_mem _ hz, hx⟩

theorem filter_unions {members : List (List String)}
    (h : ∀ m ∈ members, ∀ l ∈ m, Selection.IsOwnLine l) :
    (["union"].intercalate members).filter isBetween = ["union"].intercalate members := by
  rw [List.filter_eq_self]
  intro l hl
  rcases mem_intercalate hl with hl | ⟨m, hm, hl⟩
  · obtain rfl := List.mem_singleton.1 hl
    decide_cbv
  · obtain ⟨hw, ho, -⟩ := h m hm l hl
    rw [isBetween, hw, ho]
    rfl

/-- The members of the union are the selections, line by line. -/
theorem unionMembers_text (h : s.Inline) (hs : s.selections ≠ []) :
    unionMembers s.text = s.selections.map Selection.lines := by
  have hown : ∀ m ∈ s.selections.map Selection.lines, ∀ l ∈ m, Selection.IsOwnLine l := by
    intro m hm
    obtain ⟨t, -, rfl⟩ := List.mem_map.1 hm
    exact t.isOwnLine_lines
  show ((lines s.text).filter isBetween).splitOn "union" = _
  rw [lines_text h hs, List.filter_append, List.filter_append, filter_commonTable, filter_page,
    filter_unions hown, List.nil_append, List.append_nil]
  exact List.splitOn_intercalate _ (fun m hm hu => (hown m hm _ hu).2.2 rfl) (by simpa using hs)

end Statement

end PostSearch.Sql
