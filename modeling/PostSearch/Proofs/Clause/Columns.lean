import PostSearch.Clause.Feeds
import PostSearch.Clause.Intervals
import PostSearch.Clause.Posts
import PostSearch.Clause.Visibility
import PostSearch.Proofs.Except
import PostSearch.Proofs.Sql.Operands

/-! # Columns of clauses

Whatever a query asks for, a clause is made with a few columns that its builder names. None of the
words of the query is among them: `Restriction.Speaks` lists them for every builder. -/

namespace PostSearch.Clause

open Query Sql Restriction

variable {ν : Type}

/-! ### Restrictions by lists of values -/

theorem member_speaks (column : String) (items : List Scalar) (inclusive : Bool) (type : String) :
    (Restriction.member column items inclusive type).Speaks [column, type ++ "[]"] := by
  unfold Restriction.member
  split
  · exact speaks_const _
  · split <;> exact speaks_atom rfl (List.Subset.refl _)

theorem overlap_speaks (column : String) (numbers : List Int) (inclusive : Bool) :
    (Restriction.overlap column numbers inclusive).Speaks [column, "int[]"] := by
  unfold Restriction.overlap
  split
  · exact speaks_const _
  · split <;> exact speaks_atom rfl (List.Subset.refl _)

def feedColumns : List String :=
  ["p.feed_ids", "int[]", "p.user_id", "uuid"]

theorem feedRestriction_speaks (viewer : Option String) (c : Condition) (feeds : OpenList Int) :
    (feedRestriction viewer c feeds).Speaks feedColumns := by
  have hin := (overlap_speaks "p.feed_ids" feeds.items feeds.inclusive).mono
    (List.subset_append_left _ ["p.user_id", "uuid"])
  unfold feedRestriction
  cases viewer with
  | none => exact hin
  | some id =>
      dsimp only
      split
      · apply speaks_any
        intro f hf
        rcases List.mem_cons.1 hf with rfl | hf
        · exact hin
        · obtain rfl := List.mem_singleton.1 hf
          exact speaks_atom rfl (List.subset_append_right ["p.feed_ids", "int[]"] _)
      · exact hin

/-! ### Intervals -/

theorem signed_speaks {words : List String} (c : Condition) {f : Restriction Datum}
    (h : f.Speaks words) : (signed c f).Speaks words := by
  unfold signed
  split
  · exact speaks_not h
  · exact h

theorem dayBound_speaks {column : String} {relation : Relation} {bound : String} :
    ∀ f ∈ dayBound column relation bound, f.Speaks [column, "timestamptz"] := by
  intro f hf
  unfold dayBound at hf
  split at hf
  · cases hf
  · obtain rfl := List.mem_singleton.1 hf
    exact speaks_atom rfl (List.Subset.refl _)

theorem dayRestriction_speaks {column : String} {c : Condition} {f : Restriction Datum}
    (h : dayRestriction column c = .ok f) : f.Speaks [column, "timestamptz"] := by
  obtain ⟨⟨lower, upper⟩, -, h⟩ := bind_eq_ok.1 h
  cases h
  refine signed_speaks c (speaks_all fun g hg => ?_)
  rcases List.mem_append.1 hg with hg | hg
  · exact dayBound_speaks g hg
  · exact dayBound_speaks g hg

theorem countsRestriction_speaks (column : String) (i : Interval Int) :
    (countsRestriction column i).Speaks [column] := by
  have hbound : ∀ (relation : Relation) (n : Datum),
      (Restriction.all [.atom (.compare column relation n none)]).Speaks [column] := by
    intro relation n
    apply speaks_all
    intro g hg
    obtain rfl := List.mem_singleton.1 hg
    exact speaks_atom rfl (List.Subset.refl _)
  unfold countsRestriction
  dsimp only
  split
  · exact speaks_atom rfl (List.Subset.refl _)
  · exact hbound _ _
  · exact hbound _ _
  · exact speaks_all fun g hg => absurd hg List.not_mem_nil

theorem countRestriction_speaks {column : String} {c : Condition} {f : Restriction Datum}
    (h : countRestriction column c = .ok f) : f.Speaks [column] := by
  obtain ⟨⟨lower, upper⟩, -, h⟩ := bind_eq_ok.1 h
  obtain ⟨l, -, h⟩ := bind_eq_ok.1 h
  obtain ⟨u, -, h⟩ := bind_eq_ok.1 h
  cases h
  exact signed_speaks c (countsRestriction_speaks column ⟨l, u⟩)

theorem conditions_speak {words : List String} {build : Condition → Except IntervalError
    (Restriction Datum)} (hb : ∀ c f, build c = .ok f → f.Speaks words) {cs : List Condition}
    {f : Restriction Datum} (h : (do return .all (← cs.mapM build)) = Except.ok f) :
    f.Speaks words := by
  obtain ⟨fs, hfs, h⟩ := bind_eq_ok.1 h
  cases h
  apply speaks_all
  intro g hg
  obtain ⟨c, -, hc⟩ := exists_of_mem_right (mapM_eq_ok hfs) hg
  exact hb c g hc

theorem contentDates_speaks {tokens : List Token} {column : String} {scope : Scope}
    {f : Restriction Datum} (h : contentDates tokens column scope = .ok f) :
    f.Speaks [column, "timestamptz"] :=
  conditions_speak (fun _ _ => dayRestriction_speaks) h

theorem postDates_speaks {tokens : List Token} {column : String} {f : Restriction Datum}
    (h : postDates tokens column = .ok f) : f.Speaks [column, "timestamptz"] :=
  conditions_speak (fun _ _ => dayRestriction_speaks) h

theorem counters_speaks {tokens : List Token} {operator : Operator} {column : String}
    {f : Restriction Datum} (h : counters tokens operator column = .ok f) :
    f.Speaks [column] :=
  conditions_speak (fun _ _ => countRestriction_speaks) h

/-! ### Privacy, attachments and liked comments -/

theorem bothParts_speaks {words : List String} {build : List String → Restriction Datum}
    (hb : ∀ args, (build args).Speaks words) (asked excluded : Option (List String)) :
    (bothParts build asked excluded).Speaks words := by
  apply speaks_all
  intro f hf
  rcases List.mem_append.1 hf with hf | hf
  · obtain ⟨args, -, rfl⟩ := Option.map_eq_some_iff.1 (Option.mem_toList.1 hf)
    exact hb args
  · obtain ⟨args, -, rfl⟩ := Option.map_eq_some_iff.1 (Option.mem_toList.1 hf)
    exact speaks_not (hb args)

/-- Columns that privacy is about, in the table `table`. -/
def privacyColumns (table : String) : List String :=
  [table ++ ".is_protected", table ++ ".is_private"]

theorem privacyWord_speaks (table word : String) :
    (privacyWord table word).Speaks (privacyColumns table) := by
  have hprotected : (Restriction.atom (.flag (table ++ ".is_protected") : Atom Datum)).Speaks
      (privacyColumns table) :=
    speaks_atom rfl (List.cons_subset_cons _ (List.nil_subset _))
  have hprivate : (Restriction.atom (.flag (table ++ ".is_private") : Atom Datum)).Speaks
      (privacyColumns table) :=
    speaks_atom rfl (List.subset_cons_self _ _)
  unfold privacyWord
  split
  · exact speaks_not hprotected
  · split
    · apply speaks_all
      intro f hf
      rcases List.mem_cons.1 hf with rfl | hf
      · exact hprotected
      · obtain rfl := List.mem_singleton.1 hf
        exact speaks_not hprivate
    · exact hprivate

theorem privacy_speaks (tokens : List Token) (table : String) :
    (privacy tokens table).Speaks (privacyColumns table) := by
  refine bothParts_speaks (fun args => speaks_any fun f hf => ?_) _ _
  obtain ⟨word, -, rfl⟩ := List.mem_map.1 hf
  exact privacyWord_speaks table word

/-- Columns that attachments are about, in the table `table`. -/
def attachmentColumns (table : String) : List String :=
  [table ++ ".media_type", "lower(reverse(split_part(reverse(" ++ table ++ ".file_name), '.', 1)))"]

theorem hasType_speaks (table type : String) :
    (hasType table type).Speaks (attachmentColumns table) := by
  unfold hasType
  dsimp only
  split
  · exact speaks_atom rfl (List.subset_cons_self _ _)
  · exact speaks_atom rfl (List.cons_subset_cons _ (List.nil_subset _))

theorem attachments_speaks (tokens : List Token) (table : String) :
    (attachments tokens table).Speaks (attachmentColumns table) := by
  refine bothParts_speaks (fun types => ?_) _ _
  unfold hasAnyType
  split
  · exact speaks_someRow (speaks_atom rfl (List.cons_subset_cons _ (List.nil_subset _)))
  · refine speaks_someRow (speaks_any fun f hf => ?_)
    obtain ⟨type, -, rfl⟩ := List.mem_map.1 hf
    exact hasType_speaks table type

theorem commentLikes_speaks (tokens : List Token) (column : String) (accounts : Accounts) :
    (commentLikes tokens column accounts).Speaks [column, "int[]"] := by
  refine bothParts_speaks (fun names => ?_) _ _
  unfold likedByAny
  split
  · exact speaks_const _
  · exact speaks_someRow (speaks_atom rfl (List.Subset.refl _))

/-! ### Visibility -/

def postVisibilityColumns : List String :=
  ["u.gone_status", "p.is_protected", "p.is_private", "p.user_id", "uuid"]

theorem columns_visiblePosts (viewer : Option ν) :
    (visiblePosts viewer).columns ⊆ postVisibilityColumns := by
  cases viewer <;>
    simp [visiblePosts, columns, atoms, atomsAll, Atom.columns, postVisibilityColumns]

/-- Columns that decide who sees a comment, in the table `table`. -/
def commentVisibilityColumns (table : String) : List String :=
  [table ++ ".hide_type = 0", table ++ ".user_id"]

theorem columns_visibleComments (table : String) (viewer : Option ν) :
    (visibleComments table viewer).columns ⊆ commentVisibilityColumns table := by
  cases viewer <;>
    simp [visibleComments, columns, atoms, atomsAll, Atom.columns, commentVisibilityColumns]

end PostSearch.Clause
