import PostSearch.Proofs.Search.Parts
import PostSearch.Proofs.Sql.Placeholders

/-! # The vocabulary of statements

Under the usual visibility, a compiled statement is made with a fixed vocabulary of columns and
types. `Parts.Speak` says which of them each part uses.

Main statements: all restrictions in a compiled statement keep to the vocabulary and to placeholders
that are bound (`Assembly.sound_restrictions`), so nothing in it breaks a line
(`Assembly.inline`). -/

namespace PostSearch.Search

open Query Sql Clause

variable {ν μ κ : Type}

/-! ### What each part is made with -/

/-- The columns that the parts are made with. -/
structure Parts.Speak (p : Parts ν) : Prop where
  feeds : p.feeds.columns ⊆ feedColumns
  postDays : p.postDays.columns ⊆ ["p.created_at", "timestamptz"]
  commentDays : p.commentDays.columns ⊆ ["c.created_at", "timestamptz"]
  publishedDays : p.publishedDays.columns ⊆ ["p.created_at", "timestamptz"]
  attachments : p.attachments.columns ⊆ attachmentColumns "a"
  privacy : p.privacy.columns ⊆ privacyColumns "p"
  postCounters : p.postCounters.columns ⊆ ["pc.comments_count", "pc.likes_count"]
  commentCounters : p.commentCounters.columns ⊆ ["cc.likes_count"]
  commentLikes : p.commentLikes.columns ⊆ ["cl.user_id", "int[]"]
  visiblePosts : p.visiblePosts.columns ⊆ postVisibilityColumns
  visibleComments : ∀ f ∈ p.visibleComments, f.columns ⊆ commentVisibilityColumns "c"
  postTextAuthors : p.postTextAuthors.columns ⊆ ["p.user_id", "uuid[]"]
  commentTextAuthors : p.commentTextAuthors.columns ⊆ ["c.user_id", "uuid[]"]
  postAuthors : p.postAuthors.columns ⊆ ["p.user_id", "uuid[]"]

theorem plainParts_speak {site : Site} {options : Options} {tokens : List Token} {c : Clauses}
    (hc : c.Speak) (hpost : site.postRule = none) (hcomment : site.commentRule = none) :
    (plainParts site options tokens c).Speak where
  feeds := hc.feeds.columns_subset
  postDays := (both_speak hc.postDays hc.postOnlyDays).columns_subset
  commentDays := (both_speak hc.commentDays hc.commentOnlyDays).columns_subset
  publishedDays := hc.publishedDays.columns_subset
  attachments := hc.attachments.columns_subset
  privacy := hc.privacy.columns_subset
  postCounters := (Restriction.speaks_all hc.postCounters).columns_subset
  commentCounters := hc.commentCounters.columns_subset
  commentLikes := hc.commentLikes.columns_subset
  visiblePosts := by
    simp only [plainParts, ruleOr, hpost]
    exact columns_visiblePosts _
  visibleComments := by
    simp only [plainParts, ruleOr, hcomment]
    intro f hf
    split at hf
    · cases hf
      exact columns_visibleComments "c" _
    · cases hf
  postTextAuthors := (authorRestrictions_speak "p.user_id" _ _).columns_subset
  commentTextAuthors := (authorRestrictions_speak "c.user_id" _ _).columns_subset
  postAuthors := (authorRestriction_speaks "p.user_id" _).columns_subset

/-- Parts that differ in operands only are made with the same columns. -/
theorem Parts.Speak.of_map_eq {p : Parts ν} {q : Parts μ} {h : ν → κ} {h' : μ → κ} (hq : q.Speak)
    (e : p.map h = q.map h') : p.Speak where
  feeds := Restriction.columns_eq_of_map_eq (congrArg Parts.feeds e) ▸ hq.feeds
  postDays := Restriction.columns_eq_of_map_eq (congrArg Parts.postDays e) ▸ hq.postDays
  commentDays := Restriction.columns_eq_of_map_eq (congrArg Parts.commentDays e) ▸ hq.commentDays
  publishedDays :=
    Restriction.columns_eq_of_map_eq (congrArg Parts.publishedDays e) ▸ hq.publishedDays
  attachments := Restriction.columns_eq_of_map_eq (congrArg Parts.attachments e) ▸ hq.attachments
  privacy := Restriction.columns_eq_of_map_eq (congrArg Parts.privacy e) ▸ hq.privacy
  postCounters :=
    Restriction.columns_eq_of_map_eq (congrArg Parts.postCounters e) ▸ hq.postCounters
  commentCounters :=
    Restriction.columns_eq_of_map_eq (congrArg Parts.commentCounters e) ▸ hq.commentCounters
  commentLikes :=
    Restriction.columns_eq_of_map_eq (congrArg Parts.commentLikes e) ▸ hq.commentLikes
  visiblePosts :=
    Restriction.columns_eq_of_map_eq (congrArg Parts.visiblePosts e) ▸ hq.visiblePosts
  visibleComments := by
    intro f hf
    have ev : p.visibleComments.map (Restriction.map h) =
        q.visibleComments.map (Restriction.map h') := congrArg Parts.visibleComments e
    rw [Option.mem_def.1 hf, Option.map_some] at ev
    obtain ⟨g, hg, eg⟩ := Option.map_eq_some_iff.1 ev.symm
    rw [← Restriction.columns_eq_of_map_eq eg]
    exact hq.visibleComments g hg
  postTextAuthors :=
    Restriction.columns_eq_of_map_eq (congrArg Parts.postTextAuthors e) ▸ hq.postTextAuthors
  commentTextAuthors :=
    Restriction.columns_eq_of_map_eq (congrArg Parts.commentTextAuthors e) ▸ hq.commentTextAuthors
  postAuthors := Restriction.columns_eq_of_map_eq (congrArg Parts.postAuthors e) ▸ hq.postAuthors

/-! ### The restrictions in a statement -/

/-- All restrictions among the parts, those on texts with the columns they may be looked for in. -/
def Parts.restrictions (p : Parts ν) : List (Restriction ν) :=
  [p.feeds, p.postDays, p.commentDays, p.publishedDays, p.attachments, p.privacy, p.postCounters,
    p.commentCounters, p.commentLikes, p.visiblePosts, p.postTextAuthors, p.commentTextAuthors,
    p.postAuthors] ++ p.visibleComments.toList ++ matching "p.body_tsvector" p.anywhere ++
    matching "c.body_tsvector" p.anywhere ++ matching "p.body_tsvector" p.postsOnly ++
    matching "c.body_tsvector" p.commentsOnly

theorem mem_neededFor {f : Restriction Placeholder} {j join : Join} :
    j ∈ neededFor f join ↔ isNontrivial f.text = true ∧ j = join := by
  unfold neededFor
  split <;> simp_all

theorem Parts.mem_joins {p : Parts Placeholder} {j : Join} : j ∈ p.joins ↔
    p.visibleComments.map Join.comments = some j ∨
      (isNontrivial p.commentLikes.text = true ∧ j = .commentLikes) ∨
      (isNontrivial p.attachments.text = true ∧ j = .attachments) ∨
      (isNontrivial p.postCounters.text = true ∧ j = .postCounters) ∨
      (isNontrivial p.commentCounters.text = true ∧ j = .commentCounters) := by
  simp only [joins, List.mem_append, mem_neededFor, Option.mem_toList, or_assoc]

theorem Parts.mem_selections {p : Parts Placeholder} {sort : SortKey} {byPosts : Bool}
    {s : Selection} : s ∈ (p.statement sort byPosts).selections ↔
      (byPosts = true ∧ s = p.selection sort p.ownOfPosts) ∨
      (p.visibleComments.isSome = true ∧ s = p.selection sort p.ownOfComments) := by
  have hite : ∀ (b : Bool) (t : Selection), s ∈ (if b then [t] else []) ↔ b = true ∧ s = t := by
    intro b t
    cases b <;> simp
  rw [statement, List.mem_append, hite, hite]

/-- What holds of the parts and of everything taken together holds of what selections ask. -/
theorem Parts.conditions_induction {P : Restriction Placeholder → Prop}
    (hall : ∀ fs, (∀ f ∈ fs, P f) → P (.all fs)) {p : Parts Placeholder}
    (h : ∀ f ∈ p.restrictions, P f) : P p.common ∧ P p.ownOfPosts ∧ P p.ownOfComments := by
  simp only [restrictions, List.forall_mem_append, List.forall_mem_cons] at h
  obtain ⟨⟨⟨⟨⟨⟨-, hpostDays, hcommentDays, hpublishedDays, -, hprivacy, hpostCounters,
    hcommentCounters, -, hvisiblePosts, hpostTextAuthors, hcommentTextAuthors, hpostAuthors, -⟩,
    -⟩, hanywhere⟩, hanywhere'⟩, hpostsOnly⟩, hcommentsOnly⟩ := h
  refine ⟨hall _ ?_, hall _ ?_, hall _ ?_⟩ <;> simp only [List.forall_mem_cons]
  · exact ⟨hpostAuthors, hpublishedDays, hvisiblePosts, hpostCounters, hcommentCounters, hprivacy,
      fun f hf => absurd hf List.not_mem_nil⟩
  · refine ⟨hall _ ?_, hpostTextAuthors, hpostDays, fun f hf => absurd hf List.not_mem_nil⟩
    simp only [List.forall_mem_append]
    exact ⟨⟨hanywhere, hpostsOnly⟩, hcommentsOnly⟩
  · refine ⟨hall _ ?_, hcommentTextAuthors, hcommentDays, fun f hf => absurd hf List.not_mem_nil⟩
    simp only [List.forall_mem_append]
    exact ⟨⟨hanywhere', hpostsOnly⟩, hcommentsOnly⟩

/-- What holds of the parts and of everything taken together holds in the statement. -/
theorem Parts.statement_induction {P : Restriction Placeholder → Prop}
    (hall : ∀ fs, (∀ f ∈ fs, P f) → P (.all fs)) {p : Parts Placeholder}
    (h : ∀ f ∈ p.restrictions, P f) (sort : SortKey) (byPosts : Bool) :
    ∀ f ∈ (p.statement sort byPosts).restrictions, P f := by
  obtain ⟨hcommon, hposts, hcomments⟩ := Parts.conditions_induction hall h
  simp only [restrictions, List.forall_mem_append, List.forall_mem_cons, Option.mem_toList] at h
  obtain ⟨⟨⟨⟨⟨⟨hfeeds, -, -, -, hattachments, -, -, -, hcommentLikes, -, -, -, -, -⟩,
    hvisibleComments⟩, -⟩, -⟩, -⟩, -⟩ := h
  have hjoins : ∀ f ∈ p.joins.filterMap Join.restriction?, P f := by
    intro f hf
    obtain ⟨j, hj, e⟩ := List.mem_filterMap.1 hf
    rcases Parts.mem_joins.1 hj with hj | ⟨-, rfl⟩ | ⟨-, rfl⟩ | ⟨-, rfl⟩ | ⟨-, rfl⟩
    · obtain ⟨visible, hv, rfl⟩ := Option.map_eq_some_iff.1 hj
      obtain rfl : visible = f := Option.some.inj e
      exact hvisibleComments _ hv
    all_goals cases e
  have hselection : ∀ own, P own → ∀ f ∈ (p.selection sort own).restrictions, P f := by
    intro own ho
    simp only [Selection.restrictions, List.forall_mem_cons]
    refine ⟨hall _ ?_, hall _ ?_, hjoins⟩ <;> simp only [List.forall_mem_cons]
    · exact ⟨ho, hcommon, fun f hf => absurd hf List.not_mem_nil⟩
    · exact ⟨hattachments, hcommentLikes, fun f hf => absurd hf List.not_mem_nil⟩
  simp only [Statement.restrictions, List.forall_mem_cons]
  refine ⟨hfeeds, fun f hf => ?_⟩
  obtain ⟨s, hs, hf⟩ := List.mem_flatMap.1 hf
  rcases Parts.mem_selections.1 hs with ⟨-, rfl⟩ | ⟨-, rfl⟩
  · exact hselection _ hposts f hf
  · exact hselection _ hcomments f hf

theorem map_matching (h : ν → μ) (column : String) (q : Option (TextQuery ν)) :
    (matching column q).map (Restriction.map h) = matching column (q.map (TextQuery.map h)) := by
  cases q <;> rfl

theorem Parts.restrictions_map (h : ν → μ) (p : Parts ν) :
    (p.map h).restrictions = p.restrictions.map (Restriction.map h) := by
  simp only [restrictions, Parts.map, List.map_append, List.map_cons, List.map_nil, map_matching,
    Option.toList_map]

/-- The columns and types that statements are made with, by what they are for. -/
def vocabularies : List (List String) :=
  [feedColumns, ["p.created_at", "timestamptz"], ["c.created_at", "timestamptz"],
    attachmentColumns "a", privacyColumns "p", ["pc.comments_count", "pc.likes_count"],
    ["cc.likes_count"], ["cl.user_id", "int[]"], postVisibilityColumns,
    commentVisibilityColumns "c", ["p.user_id", "uuid[]"], ["c.user_id", "uuid[]"],
    ["p.body_tsvector"], ["c.body_tsvector"]]

def vocabulary : List String :=
  vocabularies.flatten

theorem subset_vocabulary {words : List String} (h : words ∈ vocabularies) : words ⊆ vocabulary :=
  fun _ hw => List.mem_flatten_of_mem h hw

theorem columns_matching {column : String} {q : Option (TextQuery ν)} {f : Restriction ν}
    (h : f ∈ matching column q) : f.columns = [column] := by
  cases q with
  | none => cases h
  | some q =>
      obtain rfl := List.mem_singleton.1 h
      exact Restriction.columns_atom _

theorem Parts.Speak.columns_subset {p : Parts ν} (h : p.Speak) :
    ∀ f ∈ p.restrictions, f.columns ⊆ vocabulary := by
  have hsub : ∀ {words : List String} {f : Restriction ν}, f.columns ⊆ words →
      words ∈ vocabularies → f.columns ⊆ vocabulary := fun hf hw =>
    List.Subset.trans hf (subset_vocabulary hw)
  have htext : ∀ {column : String} (q : Option (TextQuery ν)), [column] ∈ vocabularies →
      ∀ f ∈ matching column q, f.columns ⊆ vocabulary := by
    intro column q hw f hf
    rw [columns_matching hf]
    exact subset_vocabulary hw
  simp only [restrictions, List.forall_mem_append, List.forall_mem_cons, Option.mem_toList]
  refine ⟨⟨⟨⟨⟨⟨hsub h.feeds ?_, hsub h.postDays ?_, hsub h.commentDays ?_, hsub h.publishedDays ?_,
    hsub h.attachments ?_, hsub h.privacy ?_, hsub h.postCounters ?_, hsub h.commentCounters ?_,
    hsub h.commentLikes ?_, hsub h.visiblePosts ?_, hsub h.postTextAuthors ?_,
    hsub h.commentTextAuthors ?_, hsub h.postAuthors ?_, fun f hf => absurd hf List.not_mem_nil⟩,
    fun f hf => hsub (h.visibleComments f hf) ?_⟩, htext _ ?_⟩, htext _ ?_⟩, htext _ ?_⟩,
    htext _ ?_⟩ <;>
    simp only [vocabularies, List.mem_cons, true_or, or_true]

/-! ### Compiled statements -/

/-- The restriction keeps to the vocabulary and to the values that are bound. -/
structure Sound (ps : Params) (f : Restriction Placeholder) : Prop where
  columns : f.columns ⊆ vocabulary
  operands : ∀ p ∈ f.operands, (ps.value? p).isSome

theorem sound_all {ps : Params} (fs : List (Restriction Placeholder)) (h : ∀ f ∈ fs, Sound ps f) :
    Sound ps (.all fs) where
  columns w hw := by
    rw [Restriction.columns_all] at hw
    obtain ⟨f, hf, hw⟩ := List.mem_flatMap.1 hw
    exact (h f hf).columns hw
  operands p hp := by
    rw [Restriction.operands_all] at hp
    obtain ⟨f, hf, hp⟩ := List.mem_flatMap.1 hp
    exact (h f hf).operands p hp

/-- What is read off a sound restriction is read off a bound placeholder, if the vocabulary does not
hold it. -/
theorem Sound.mem_read {β : Type} {read : List Char → List β} {x : β} (hr : Reading read)
    (hv : ∀ w ∈ vocabulary ++ Atom.allPhrases, read w.toList = []) {ps : Params}
    {f : Restriction Placeholder} (hf : Sound ps f) (hx : x ∈ read f.text.toList) :
    ∃ p, (ps.value? p).isSome ∧ x ∈ read p.text.toList := by
  rcases hr.mem_text f hx with ⟨w, hw, h⟩ | ⟨w, hw, h⟩ | ⟨p, hp, h⟩
  · rw [hv w (List.mem_append_left _ (hf.columns hw))] at h
    cases h
  · rw [hv w (List.mem_append_right _ hw)] at h
    cases h
  · exact ⟨p, hf.operands p hp, h⟩

namespace Assembly

variable {site : Site} {options : Options} {tokens : List Token} {compiled : Compiled}
  (a : Assembly site options tokens compiled)

theorem speak (hpost : site.postRule = none) (hcomment : site.commentRule = none) :
    a.parts.Speak :=
  (plainParts_speak (clauses_ok a.building).speak hpost hcomment).of_map_eq a.bound.values

/-- The parts of a compiled statement are sound. -/
theorem sound_parts (a : Assembly site options tokens compiled) (hpost : site.postRule = none)
    (hcomment : site.commentRule = none) :
    ∀ f ∈ a.parts.restrictions, Sound compiled.params f := by
  intro f hf
  refine ⟨(a.speak hpost hcomment).columns_subset f hf, fun p hp => ?_⟩
  have e := congrArg Parts.restrictions a.bound.values
  rw [Parts.restrictions_map, Parts.restrictions_map] at e
  obtain ⟨g, -, eg⟩ := List.mem_map.1 (e ▸ List.mem_map_of_mem hf)
  have ho := congrArg Restriction.operands eg
  rw [Restriction.operands_map, Restriction.operands_map] at ho
  obtain ⟨v, -, hv⟩ := List.mem_map.1 (ho ▸ List.mem_map_of_mem hp)
  rw [← hv]
  rfl

theorem sound_restrictions (a : Assembly site options tokens compiled)
    (hpost : site.postRule = none) (hcomment : site.commentRule = none) :
    ∀ f ∈ compiled.statement.restrictions, Sound compiled.params f := by
  rw [a.statement]
  exact Parts.statement_induction sound_all (a.sound_parts hpost hcomment) _ _

theorem limit_eq (a : Assembly site options tokens compiled) :
    compiled.statement.limit = a.parts.limit :=
  congrArg Statement.limit a.statement

theorem offset_eq (a : Assembly site options tokens compiled) :
    compiled.statement.offset = a.parts.offset :=
  congrArg Statement.offset a.statement

theorem bound_limit : compiled.params.value? a.parts.limit = some (.number options.limit) :=
  congrArg Parts.limit a.bound.values

theorem bound_offset : compiled.params.value? a.parts.offset = some (.number options.offset) :=
  congrArg Parts.offset a.bound.values

/-- A bound placeholder has the usual stem and stands before the next one to be bound. -/
theorem index_lt (a : Assembly site options tokens compiled) {p : Placeholder}
    (h : (compiled.params.value? p).isSome) :
    p.stem = "p" ∧ p.index < compiled.params.values.length := by
  obtain ⟨hs, hi⟩ := Params.value?_isSome_iff.1 h
  exact ⟨hs.trans a.extends_empty.stem, hi⟩

theorem isInline_text {p : Placeholder} (h : p.stem = "p") : IsInline p.text := by
  rw [IsInline, text_toList h]
  have hdigits : '\n' ∉ Nat.toDigits 10 p.index := fun hc => by
    simpa using Nat.isDigit_of_mem_toDigits (by decide) (by decide) hc
  simp [hdigits]

theorem reading_newlines : Reading fun s => s.filter (· == '\n') where
  append s d t hd := by
    have hne : (d == '\n') = false := by
      simp only [separators, List.mem_cons, List.not_mem_nil, or_false] at hd
      rcases hd with rfl | rfl | rfl <;> rfl
    rw [List.filter_append, List.filter_cons_of_neg (by simp [hne])]
  plain s hs := by
    rw [List.filter_eq_nil_iff]
    intro c hc
    have := List.all_eq_true.1 hs c hc
    simp only [Bool.and_eq_true, bne_iff_ne] at this
    simpa using this.2

theorem inline (a : Assembly site options tokens compiled) (hpost : site.postRule = none)
    (hcomment : site.commentRule = none) : compiled.statement.Inline where
  restrictions f hf := by
    intro hc
    have hx : '\n' ∈ f.text.toList.filter (· == '\n') := List.mem_filter.2 ⟨hc, rfl⟩
    obtain ⟨p, hp, hx⟩ := (a.sound_restrictions hpost hcomment f hf).mem_read reading_newlines
      (by decide +kernel) hx
    exact isInline_text (a.index_lt hp).1 (List.mem_filter.1 hx).1
  limit := by
    rw [a.limit_eq]
    exact isInline_text (a.index_lt (by rw [a.bound_limit]; rfl)).1
  offset := by
    rw [a.offset_eq]
    exact isInline_text (a.index_lt (by rw [a.bound_offset]; rfl)).1

/-- Visibility of comments is bound exactly for a query on comments. -/
theorem isSome_visibleComments (a : Assembly site options tokens compiled) :
    a.parts.visibleComments.isSome = touches Scope.coversComments a.named := by
  have e := congrArg (fun p => p.visibleComments.isSome) a.bound.values
  simp only [Parts.map, plainParts, Option.isSome_map] at e
  rw [e]
  split <;> simp_all

theorem selections_ne_nil (a : Assembly site options tokens compiled) :
    compiled.statement.selections ≠ [] := by
  rw [a.statement, Parts.statement, a.isSome_visibleComments]
  cases touches Scope.coversPosts a.named <;> cases touches Scope.coversComments a.named <;> simp

end Assembly

end PostSearch.Search
