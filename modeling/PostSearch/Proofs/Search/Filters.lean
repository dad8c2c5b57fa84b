import Mathlib.Logic.Basic
import PostSearch.Proofs.Search.Parts
import PostSearch.Proofs.Sql.TruthOfTexts

/-! # Excluded filters and missing values

An excluded filter is the negation of the filter, but the negation of what is unknown is unknown:
where the filter depends on a value that is not there, neither of the two keeps the row. An outer
join makes up such values for posts without attachments and for comments without likes, and the
author of a comment may be gone.

Main statements: the texts of a compiled statement's clauses are read as the clauses
(`Assembly.reads_clauses`), and `keeps_excluded_iff` says for attachments, likes of comments and
authors of comments exactly when an excluded filter keeps what the filter does not keep. -/

namespace PostSearch.Search

open Query Sql Clause

/-! ### Texts of clauses -/

/-- In a compiled statement, the text of a clause is read as the clause. -/
theorem Assembly.reads_clauses {site : Site} {options : Options} {tokens : List Token}
    {compiled : Compiled} (a : Assembly site options tokens compiled) {rows : List Row}
    (hrows : rows ≠ []) (here : Row) :
    let reads := fun (part : Restriction Placeholder) (clause : Restriction Datum) =>
      ReadsAs compiled.params rows here part.text (clause.truth (rows.map Row.truth) here.truth)
    reads a.parts.feeds a.clauses.feeds ∧
    reads a.parts.attachments a.clauses.attachments ∧
    reads a.parts.commentLikes a.clauses.commentLikes ∧
    reads a.parts.postAuthors (authorRestriction "p.user_id" a.clauses.postAuthors) ∧
    reads a.parts.commentTextAuthors
      (.all [authorRestriction "c.user_id" a.clauses.textAuthors,
        authorRestriction "c.user_id" a.clauses.commentTextAuthors]) := by
  have hread : ∀ {words : List String} {clause : Restriction Datum} {part : Restriction Placeholder},
      clause.Speaks words → words ⊆ filterColumns →
      part.map compiled.params.value? = clause.map some →
      ReadsAs compiled.params rows here part.text
        (clause.truth (rows.map Row.truth) here.truth) := fun hspeaks hwords hbound =>
    Restriction.readsIn (hspeaks.mono hwords) hrows here _ _ hbound
  have hvalues := a.bound.values
  have hspeak := (clauses_ok a.building).speak
  refine ⟨hread hspeak.feeds ?_ (congrArg Parts.feeds hvalues),
    hread hspeak.attachments ?_ (congrArg Parts.attachments hvalues),
    hread hspeak.commentLikes ?_ (congrArg Parts.commentLikes hvalues),
    hread (authorRestriction_speaks _ _) ?_ (congrArg Parts.postAuthors hvalues),
    hread (authorRestrictions_speak _ _ _) ?_ (congrArg Parts.commentTextAuthors hvalues)⟩
  all_goals decide +kernel

/-! ### Rows -/

/-- An attachment of a post. -/
structure Attachment where
  kind : String
  fileName : String

/-- What follows the last dot of a file name, or all of it if there is none. -/
def extension (fileName : String) : String :=
  String.ofList (fileName.toList.reverse.takeWhile (· ≠ '.')).reverse

/-- The row of an attachment in the table `a`; `lower` is how the database writes letters small. -/
def Attachment.row (lower : String → String) (file : Attachment) : Row where
  value expression :=
    if expression = "a.media_type" then some (.text file.kind)
    else if expression = "lower(reverse(split_part(reverse(a.file_name), '.', 1)))" then
      some (.text (lower (extension file.fileName)))
    else none
  judge _ := none

/-- The row of a like of a comment, by the number of who likes it. -/
def likeRow (liker : Int) : Row where
  value column := if column = "cl.user_id" then some (.number liker) else none
  judge _ := none

/-- The row of a comment, by its author's id if the author is still there. -/
def commentRow (author : Option String) : Row where
  value column := if column = "c.user_id" then author.map .text else none
  judge _ := none

/-! ### Negation of the unknown -/

/-- A negation is true where the condition is not, except where the condition is unknown. -/
theorem negation_iff_ne_none {t : Truth} :
    (Truth.negation t = some true ↔ ¬t = some true) ↔ t ≠ none := by
  rcases t with _ | _ | _ <;> decide

variable {rows : List (Atom Datum → Truth)} {here : Atom Datum → Truth}

theorem argsWhere_single (excluded : Bool) (c : Condition) :
    argsWhere excluded [c] = if c.excluded = excluded then some (distinct c.args) else none := by
  unfold argsWhere
  rw [List.filter_cons, List.filter_nil]
  by_cases h : c.excluded = excluded
  · rw [if_pos (beq_iff_eq.2 h), if_pos h]
    dsimp only
    rw [List.flatMap_singleton]
  · rw [if_neg (mt beq_iff_eq.1 h), if_neg h]

theorem truth_bothParts (build : List String → Restriction Datum) (spell : List String → List String)
    (c : Condition) :
    (bothParts build ((argsWhere false [c]).map spell) ((argsWhere true [c]).map spell)).truth rows
        here =
      Truth.signed (!c.excluded) ((build (spell (distinct c.args))).truth rows here) := by
  rw [argsWhere_single, argsWhere_single]
  cases c.excluded <;> exact Truth.joined_singleton _ _

/-- Of a condition and its excluded form, exactly one keeps the group if the filter is known. -/
theorem complement_iff {f : Bool → Restriction Datum} {group : List Row} {t : Truth}
    (h : ∀ excluded, (f excluded).truth (group.map Row.truth) Row.blank.truth =
      Truth.signed (!excluded) t) :
    ((f true).KeepsGroup group ↔ ¬(f false).KeepsGroup group) ↔ t ≠ none := by
  unfold Restriction.KeepsGroup
  rw [h, h]
  exact negation_iff_ne_none

/-! ### Attachments -/

theorem truth_someRow (f : Restriction Datum) (group : List Row) :
    (Restriction.someRow f).truth (group.map Row.truth) here =
      Truth.someOf (group.map fun row => f.truth (group.map Row.truth) row.truth) := by
  rw [Restriction.truth, List.map_map]
  rfl

/-- What is known in every row is known of a group, and what is unknown in its only row is not. -/
theorem someRow_outer_known_iff {f : Restriction Datum} {group : List Row}
    (hknown : ∀ row ∈ group, ∀ rows, f.truth rows row.truth ≠ none) :
    (Restriction.someRow f).truth ((Row.outer group).map Row.truth) here ≠ none ↔
      group ≠ [] ∨ f.truth [Row.blank.truth] Row.blank.truth ≠ none := by
  unfold Row.outer
  rw [truth_someRow, Ne, Truth.someOf_eq_none]
  split
  · rename_i hnil
    rw [hnil, List.map_singleton, List.map_singleton, List.forall_mem_singleton]
    exact (or_iff_right (fun h => h rfl)).symm
  · rename_i hne
    refine iff_of_true (fun h => ?_) (Or.inl hne)
    obtain ⟨row, hrow⟩ := List.exists_mem_of_ne_nil group hne
    exact hknown row hrow _ (h _ (List.mem_map_of_mem hrow))

theorem hasType_known (lower : String → String) (file : Attachment) (type : String) :
    (hasType "a" type).truth rows (file.row lower).truth ≠ none ∧
      (hasType "a" type).truth rows Row.blank.truth = none := by
  unfold hasType
  dsimp only
  split
  · exact ⟨nofun, rfl⟩
  · exact ⟨nofun, rfl⟩

theorem hasAnyType_known_iff (lower : String → String) (files : List Attachment) (types : List String) :
    (hasAnyType "a" types).truth ((Row.outer (files.map (Attachment.row lower))).map Row.truth)
        here ≠ none ↔
      files ≠ [] ∨ types = [] ∨ ∀ kind ∈ mediaKinds, kind ∈ types := by
  have hfiles : files.map (Attachment.row lower) ≠ [] ↔ files ≠ [] := not_congr List.map_eq_nil_iff
  unfold hasAnyType
  split
  · rename_i hall
    have hkinds : ∀ kind ∈ mediaKinds, kind ∈ types := fun kind hkind =>
      of_decide_eq_true (List.all_eq_true.1 hall kind hkind)
    rw [someRow_outer_known_iff, hfiles]
    · exact or_congr_right (iff_of_true (Option.some_ne_none _) (Or.inr hkinds))
    · exact fun row _ rows => Option.some_ne_none _
  · rename_i hall
    have hkinds : ¬∀ kind ∈ mediaKinds, kind ∈ types := fun h =>
      hall (List.all_eq_true.2 fun kind hkind => decide_eq_true (h kind hkind))
    rw [or_iff_left hkinds, someRow_outer_known_iff, hfiles]
    · refine or_congr_right ?_
      rw [Restriction.truth, Restriction.truths_eq, List.map_map]
      by_cases hnil : types = []
      · rw [hnil]
        exact iff_of_true (Option.some_ne_none _) rfl
      · refine iff_of_false (fun hknown => hknown (Truth.of_const (fun t ht => ?_) ?_).1) hnil
        · obtain ⟨type, -, rfl⟩ := List.mem_map.1 ht
          exact (hasType_known lower ⟨"", ""⟩ type).2
        · exact mt List.map_eq_nil_iff.1 hnil
    · intro row hrow rows
      obtain ⟨file, -, rfl⟩ := List.mem_map.1 hrow
      rw [Restriction.truth, Restriction.truths_eq]
      refine Truth.joined_ne_none fun t ht => ?_
      obtain ⟨f, hf, rfl⟩ := List.mem_map.1 ht
      obtain ⟨type, -, rfl⟩ := List.mem_map.1 hf
      exact (hasType_known lower file type).1

/-! ### Likes of comments -/

theorem likedByAny_known_iff (accounts : Accounts) (names : List String) (likers : List Int) :
    (likedByAny "cl.user_id" accounts names).truth ((Row.outer (likers.map likeRow)).map Row.truth)
        here ≠ none ↔
      likers ≠ [] ∨ ∀ name ∈ names, accounts.find? name = none := by
  have hnumbers : (names.filterMap fun name => (accounts.find? name).map Account.number) = [] ↔
      ∀ name ∈ names, accounts.find? name = none := by
    simp only [List.filterMap_eq_nil_iff, Option.map_eq_none_iff]
  unfold likedByAny
  rw [← hnumbers]
  generalize (names.filterMap fun name => (accounts.find? name).map Account.number) = numbers
  cases numbers with
  | nil => exact iff_of_true (Option.some_ne_none _) (Or.inr rfl)
  | cons n ns =>
      have hatom : ∀ (row : Row) rows,
          (Restriction.atom (.oneOf "cl.user_id" (.numbers (n :: ns)) "int")).truth rows row.truth =
            none ↔ row.value "cl.user_id" = none := fun row rows =>
        Row.isAmong_eq_none.trans (and_iff_right (List.cons_ne_nil _ _))
      rw [someRow_outer_known_iff, Ne, List.map_eq_nil_iff]
      · refine or_congr_right (iff_of_false (fun h => h ?_) (List.cons_ne_nil _ _))
        rw [hatom]
        rfl
      · intro row hrow rows
        obtain ⟨liker, -, rfl⟩ := List.mem_map.1 hrow
        rw [Ne, hatom]
        exact Option.some_ne_none _

/-! ### Authors of comments -/

theorem authorRestriction_known_iff (ids : OpenList String) (author : Option String) :
    (authorRestriction "c.user_id" ids).truth rows (commentRow author).truth ≠ none ↔
      author ≠ none ∨ ids.items = [] := by
  have hvalue : (commentRow author).value "c.user_id" = none ↔ author = none :=
    Option.map_eq_none_iff
  unfold authorRestriction
  rw [Restriction.truth_member, Ne, Truth.signed_eq_none, Row.isAmong_eq_none, hvalue, Ne,
    List.map_eq_nil_iff, List.map_eq_nil_iff, not_and_or, not_not, or_comm]

theorem truth_authorRestriction_inverse (ids : OpenList String) (row : Row) :
    (authorRestriction "c.user_id" ids.inverse).truth rows row.truth =
      Truth.negation ((authorRestriction "c.user_id" ids).truth rows row.truth) := by
  unfold authorRestriction
  rw [Restriction.truth_member, Restriction.truth_member]
  exact Truth.signed_not _ _

/-! ### Excluded filters -/

/-- A condition on attachments and its excluded form are complements except where there is no
attachment and something is asked of one. -/
theorem attachments_excluded_iff (lower : String → String) (args : List String)
    (files : List Attachment) :
    let filter := fun excluded => attachments [.condition ⟨excluded, .attachment, args⟩] "a"
    let group := Row.outer (files.map (Attachment.row lower))
    ((filter true).KeepsGroup group ↔ ¬(filter false).KeepsGroup group) ↔
      files ≠ [] ∨ args = [] ∨ ∀ kind ∈ mediaKinds, kind ∈ args.flatMap spellOutFile := by
  have htypes : distinct ((distinct args).flatMap spellOutFile) = [] ↔ args = [] := by
    simp only [List.eq_nil_iff_forall_not_mem, mem_distinct, List.mem_flatMap, not_exists, not_and]
    refine ⟨fun h arg harg => ?_, fun h type arg harg => absurd harg (h arg)⟩
    have hne : spellOutFile arg ≠ [] := by
      unfold spellOutFile mediaKinds
      split <;> exact List.cons_ne_nil _ _
    obtain ⟨type, htype⟩ := List.exists_mem_of_ne_nil _ hne
    exact h type arg harg htype
  have hmem : ∀ kind, kind ∈ distinct ((distinct args).flatMap spellOutFile) ↔
      kind ∈ args.flatMap spellOutFile := by
    simp only [mem_distinct, List.mem_flatMap, implies_true]
  have hknown := @hasAnyType_known_iff Row.blank.truth lower files
    (distinct ((distinct args).flatMap spellOutFile))
  simp only [htypes, hmem] at hknown
  rw [← hknown]
  intro filter group
  exact complement_iff fun excluded => truth_bothParts (hasAnyType "a")
    (fun args => distinct (args.flatMap spellOutFile)) ⟨excluded, .attachment, args⟩

/-- A condition on who liked a comment and its excluded form are complements except where nobody
liked it and an account is asked for. -/
theorem commentLikes_excluded_iff (accounts : Accounts) (args : List String) (likers : List Int) :
    let filter := fun excluded => commentLikes
      [.scopeStart .comments, .condition ⟨excluded, .commentLikedBy, args⟩] "cl.user_id" accounts
    let group := Row.outer (likers.map likeRow)
    ((filter true).KeepsGroup group ↔ ¬(filter false).KeepsGroup group) ↔
      likers ≠ [] ∨ ∀ name ∈ args, accounts.find? name = none := by
  have hknown := @likedByAny_known_iff Row.blank.truth accounts (distinct args) likers
  simp only [mem_distinct] at hknown
  rw [← hknown]
  intro filter group
  refine complement_iff fun excluded => ?_
  have hparts := @truth_bothParts (group.map Row.truth) Row.blank.truth
    (likedByAny "cl.user_id" accounts) id ⟨excluded, .commentLikedBy, args⟩
  rw [Option.map_id] at hparts
  exact hparts

/-- Restrictions to authors inside and outside a list are complements except where the author is
gone and the list has ids. -/
theorem authorRestriction_inverse_iff (ids : OpenList String) (author : Option String) :
    let filter := authorRestriction "c.user_id"
    let row := commentRow author
    ((filter ids.inverse).KeepsRow row ↔ ¬(filter ids).KeepsRow row) ↔
      author ≠ none ∨ ids.items = [] := by
  rw [← @authorRestriction_known_iff [(commentRow author).truth], ← negation_iff_ne_none,
    ← truth_authorRestriction_inverse]
  rfl

/-- An excluded filter, as its text is read, keeps what the filter does not keep, except where the
filter asks for what is missing: a property of a post without attachments (other than having any of
all kinds), an account among those who liked a comment that nobody liked, an id among those of a
comment without author. -/
theorem keeps_excluded_iff (lower : String → String) :
    (∀ (args : List String) (files : List Attachment),
      let filter := fun excluded => attachments [.condition ⟨excluded, .attachment, args⟩] "a"
      let group := Row.outer (files.map (Attachment.row lower))
      (∀ excluded, (filter excluded).ReadsIn group .blank) ∧
      (((filter true).KeepsGroup group ↔ ¬(filter false).KeepsGroup group) ↔
        files ≠ [] ∨ args = [] ∨ ∀ kind ∈ mediaKinds, kind ∈ args.flatMap spellOutFile)) ∧
    (∀ (accounts : Accounts) (args : List String) (likers : List Int),
      let filter := fun excluded => commentLikes
        [.scopeStart .comments, .condition ⟨excluded, .commentLikedBy, args⟩] "cl.user_id" accounts
      let group := Row.outer (likers.map likeRow)
      (∀ excluded, (filter excluded).ReadsIn group .blank) ∧
      (((filter true).KeepsGroup group ↔ ¬(filter false).KeepsGroup group) ↔
        likers ≠ [] ∨ ∀ name ∈ args, accounts.find? name = none)) ∧
    ∀ (ids : OpenList String) (author : Option String),
      let filter := authorRestriction "c.user_id"
      let row := commentRow author
      ((filter ids.inverse).ReadsIn [row] row ∧ (filter ids).ReadsIn [row] row) ∧
      (((filter ids.inverse).KeepsRow row ↔ ¬(filter ids).KeepsRow row) ↔
        author ≠ none ∨ ids.items = []) := by
  have hids : ["c.user_id", "uuid[]"] ⊆ filterColumns := by decide +kernel
  refine ⟨fun args files => ⟨fun excluded => ?_, attachments_excluded_iff lower args files⟩,
    fun accounts args likers => ⟨fun excluded => ?_, commentLikes_excluded_iff accounts args likers⟩,
    fun ids author => ⟨⟨?_, ?_⟩, authorRestriction_inverse_iff ids author⟩⟩
  · exact Restriction.readsIn ((attachments_speaks _ "a").mono (by decide +kernel))
      (Row.outer_ne_nil _) .blank
  · exact Restriction.readsIn ((commentLikes_speaks _ "cl.user_id" accounts).mono (by decide +kernel))
      (Row.outer_ne_nil _) .blank
  · exact Restriction.readsIn ((authorRestriction_speaks _ ids.inverse).mono hids)
      (List.cons_ne_nil _ _) _
  · exact Restriction.readsIn ((authorRestriction_speaks _ ids).mono hids) (List.cons_ne_nil _ _) _

/-- Neither a filter for images nor its excluded form keeps a post without attachments. -/
theorem excluded_image_keeps_no_bare_post :
    let filter := fun excluded => attachments [.condition ⟨excluded, .attachment, ["image"]⟩] "a"
    let group := Row.outer []
    ¬((filter true).KeepsGroup group ↔ ¬(filter false).KeepsGroup group) := by
  intro filter group h
  have hfilter : ∀ excluded, (filter excluded).truth (group.map Row.truth) Row.blank.truth = none := by
    decide +kernel
  unfold Restriction.KeepsGroup at h
  rw [hfilter, hfilter] at h
  exact Option.some_ne_none _ (h.2 nofun).symm

end PostSearch.Search
