import PostSearch.Proofs.Clause.Columns
import PostSearch.Proofs.Search.Outcome
import PostSearch.Proofs.Sql.Binding

/-! # The parts of a statement and their values

`plainParts` are the parts of a statement with the values in place, as far as tokens and clauses
say. Binding them (`bindParts`) gives the same parts with placeholders.

Main statement: in an assembly, every placeholder stands for the value that was to be bound in its
place, at the end as at any time before (`Assembly.bound`). So the bound parts have the columns of
the clauses (`Assembly.speak`). -/

namespace PostSearch.Search

open Query Sql Clause

variable {ν μ : Type}

/-! ### Parts with their values in place -/

def Parts.map (h : ν → μ) (p : Parts ν) : Parts μ where
  anywhere := p.anywhere.map (TextQuery.map h)
  postsOnly := p.postsOnly.map (TextQuery.map h)
  commentsOnly := p.commentsOnly.map (TextQuery.map h)
  feeds := p.feeds.map h
  postDays := p.postDays.map h
  commentDays := p.commentDays.map h
  publishedDays := p.publishedDays.map h
  attachments := p.attachments.map h
  privacy := p.privacy.map h
  postCounters := p.postCounters.map h
  commentCounters := p.commentCounters.map h
  commentLikes := p.commentLikes.map h
  visiblePosts := p.visiblePosts.map h
  visibleComments := p.visibleComments.map (Restriction.map h)
  postTextAuthors := p.postTextAuthors.map h
  commentTextAuthors := p.commentTextAuthors.map h
  postAuthors := p.postAuthors.map h
  limit := h p.limit
  offset := h p.offset

/-- The site's own rule if it has one, or else a visibility to the viewer. -/
def ruleOr (rule : Option String) (visible : Option Datum → Restriction Datum)
    (viewer : Option String) : Restriction Datum :=
  match rule with
  | some rule => .ofText rule
  | none => visible (viewer.map .text)

/-- The parts of a statement, with values for operands. -/
def plainParts (site : Site) (options : Options) (tokens : List Token) (c : Clauses) :
    Parts Datum where
  anywhere := plainScopeQuery? options.textSearchConfig tokens .all
  postsOnly := plainScopeQuery? options.textSearchConfig tokens .posts
  commentsOnly := plainScopeQuery? options.textSearchConfig tokens .comments
  feeds := c.feeds
  postDays := .all [c.postDays, c.postOnlyDays]
  commentDays := .all [c.commentDays, c.commentOnlyDays]
  publishedDays := c.publishedDays
  attachments := c.attachments
  privacy := c.privacy
  postCounters := .all c.postCounters
  commentCounters := c.commentCounters
  commentLikes := c.commentLikes
  visiblePosts := ruleOr site.postRule Clause.visiblePosts options.viewer
  visibleComments :=
    if touches Scope.coversComments tokens then
      some (ruleOr site.commentRule (Clause.visibleComments "c") options.viewer)
    else none
  postTextAuthors := .all [authorRestriction "p.user_id" c.textAuthors,
    authorRestriction "p.user_id" c.postTextAuthors]
  commentTextAuthors := .all [authorRestriction "c.user_id" c.textAuthors,
    authorRestriction "c.user_id" c.commentTextAuthors]
  postAuthors := authorRestriction "p.user_id" c.postAuthors
  limit := .number options.limit
  offset := .number options.offset

/-! ### Clauses and their columns -/

/-- The columns that each clause is made with. -/
structure Clauses.Speak (c : Clauses) : Prop where
  feeds : c.feeds.Speaks feedColumns
  postDays : c.postDays.Speaks ["p.created_at", "timestamptz"]
  postOnlyDays : c.postOnlyDays.Speaks ["p.created_at", "timestamptz"]
  commentDays : c.commentDays.Speaks ["c.created_at", "timestamptz"]
  commentOnlyDays : c.commentOnlyDays.Speaks ["c.created_at", "timestamptz"]
  publishedDays : c.publishedDays.Speaks ["p.created_at", "timestamptz"]
  attachments : c.attachments.Speaks (attachmentColumns "a")
  privacy : c.privacy.Speaks (privacyColumns "p")
  postCounters : ∀ f ∈ c.postCounters, f.Speaks ["pc.comments_count", "pc.likes_count"]
  commentCounters : c.commentCounters.Speaks ["cc.likes_count"]
  commentLikes : c.commentLikes.Speaks ["cl.user_id", "int[]"]

theorem Clauses.Built.speak {tokens : List Token} {accounts : Accounts}
    {feeds : List (Condition × OpenList Int)} {c : Clauses} (h : c.Built tokens accounts feeds) :
    c.Speak where
  feeds := by
    rw [h.feeds]
    apply Restriction.speaks_all
    intro f hf
    obtain ⟨⟨condition, numbers⟩, -, rfl⟩ := List.mem_map.1 hf
    exact feedRestriction_speaks _ condition numbers
  postDays := contentDates_speaks h.postDays
  postOnlyDays := contentDates_speaks h.postOnlyDays
  commentDays := contentDates_speaks h.commentDays
  commentOnlyDays := contentDates_speaks h.commentOnlyDays
  publishedDays := postDates_speaks h.publishedDays
  attachments := h.attachments ▸ attachments_speaks tokens "a"
  privacy := h.privacy ▸ privacy_speaks tokens "p"
  postCounters f hf := by
    obtain ⟨comments, likes, hcomments, hlikes, e⟩ := h.postCounters
    rw [e] at hf
    rcases List.mem_cons.1 hf with rfl | hf
    · exact (counters_speaks hcomments).mono (List.cons_subset_cons _ (List.nil_subset _))
    · obtain rfl := List.mem_singleton.1 hf
      exact (counters_speaks hlikes).mono (List.subset_cons_self _ _)
  commentCounters := counters_speaks h.commentCounters
  commentLikes := h.commentLikes ▸ commentLikes_speaks tokens "cl.user_id" accounts

theorem authorRestriction_speaks (column : String) (ids : OpenList String) :
    (authorRestriction column ids).Speaks [column, "uuid[]"] :=
  member_speaks column _ _ "uuid"

theorem authorRestrictions_speak (column : String) (ids ids' : OpenList String) :
    (Restriction.all [authorRestriction column ids, authorRestriction column ids']).Speaks
      [column, "uuid[]"] := by
  apply Restriction.speaks_all
  intro f hf
  rcases List.mem_cons.1 hf with rfl | hf
  · exact authorRestriction_speaks column ids
  · obtain rfl := List.mem_singleton.1 hf
    exact authorRestriction_speaks column ids'

theorem both_speak {words : List String} {f g : Restriction Datum} (hf : f.Speaks words)
    (hg : g.Speaks words) : (Restriction.all [f, g]).Speaks words := by
  apply Restriction.speaks_all
  intro k hk
  rcases List.mem_cons.1 hk with rfl | hk
  · exact hf
  · obtain rfl := List.mem_singleton.1 hk
    exact hg

/-! ### Text queries have the configuration of the options -/

theorem leafQuery_hasConfig (config : Datum) (leaf : Leaf) :
    (leafQuery config leaf).HasConfig config := by
  rw [leafQuery, TextQuery.HasConfig]

theorem groupQuery_hasConfig (config : Datum) (g : Group) :
    (groupQuery config g).HasConfig config := by
  rw [groupQuery, TextQuery.HasConfig]
  intro q hq
  obtain ⟨leaf, -, rfl⟩ := List.mem_map.1 hq
  exact leafQuery_hasConfig config leaf

theorem plainQuery_hasConfig {config : Datum} {t : Token} {q : TextQuery Datum}
    (h : plainQuery? config t = some q) : q.HasConfig config := by
  cases t with
  | leaf l =>
      cases h
      exact leafQuery_hasConfig config l
  | group g | inScope s g =>
      cases h
      exact groupQuery_hasConfig config g
  | sequence gs =>
      cases h
      rw [TextQuery.HasConfig]
      intro q hq
      obtain ⟨g, -, rfl⟩ := List.mem_map.1 hq
      exact groupQuery_hasConfig config g
  | condition | scopeStart | pipe | plus => cases h

theorem plainScopeQuery_hasConfig {config : Datum} {tokens : List Token} {scope : Scope} :
    ∀ q ∈ plainScopeQuery? config tokens scope, q.HasConfig config := by
  intro q hq
  unfold plainScopeQuery? at hq
  split at hq
  · cases hq
  · cases hq
    rw [TextQuery.HasConfig]
    intro r hr
    obtain ⟨t, -, ht⟩ := List.mem_filterMap.1 hr
    exact plainQuery_hasConfig ht

/-! ### Binding the parts -/

theorem map_ofText (h : ν → μ) (rule : String) :
    (Restriction.ofText rule).map h = Restriction.ofText rule := by
  unfold Restriction.ofText
  split
  · rfl
  · split <;> rfl

theorem map_visiblePosts (h : ν → μ) (viewer : Option ν) :
    (Clause.visiblePosts viewer).map h = Clause.visiblePosts (viewer.map h) := by
  cases viewer <;> rfl

theorem map_visibleComments (h : ν → μ) (table : String) (viewer : Option ν) :
    (Clause.visibleComments table viewer).map h = Clause.visibleComments table (viewer.map h) := by
  cases viewer <;> rfl

variable {config : Datum}

theorem faithful_bindViewer (viewer : Option String) :
    Faithful config (bindViewer viewer) fun last p =>
      p.map last.value? = (viewer.map Datum.text).map some :=
  faithful_bindOption _

theorem faithful_postVisibility (site : Site) (viewer : Option String) :
    Faithful config (postVisibility site viewer) fun last f =>
      f.map last.value? = (ruleOr site.postRule Clause.visiblePosts viewer).map some := by
  unfold postVisibility ruleOr
  cases site.postRule with
  | some rule => exact Faithful.pure fun last => by rw [map_ofText, map_ofText]
  | none =>
      refine Faithful.bind (faithful_bindViewer viewer) fun p => Faithful.pure fun last hp => ?_
      rw [map_visiblePosts, map_visiblePosts, hp]

theorem faithful_commentVisibility (site : Site) (viewer : Option String) (table : String) :
    Faithful config (commentVisibility site viewer table) fun last f =>
      f.map last.value? =
        (ruleOr site.commentRule (Clause.visibleComments table) viewer).map some := by
  unfold commentVisibility ruleOr
  cases site.commentRule with
  | some rule => exact Faithful.pure fun last => by rw [map_ofText, map_ofText]
  | none =>
      refine Faithful.bind (faithful_bindViewer viewer) fun p => Faithful.pure fun last hp => ?_
      rw [map_visibleComments, map_visibleComments, hp]

theorem faithful_scopeQuery {tokens : List Token} (scope : Scope) :
    Faithful config (scopeQuery config tokens scope) fun last q =>
      q.map (TextQuery.map last.value?) =
        (plainScopeQuery? config tokens scope).map (TextQuery.map some) :=
  TextQuery.faithful_option _ plainScopeQuery_hasConfig

theorem faithful_clause {words : List String} {f : Restriction Datum} (h : f.Speaks words) :
    Faithful config f.bind fun last g => g.map last.value? = f.map some :=
  f.faithful_restriction h.hasConfig

/-- How the bound parts and the last values there are belong together. -/
structure Bound (site : Site) (options : Options) (tokens : List Token) (c : Clauses)
    (last : Params) (p : Parts Placeholder) : Prop where
  values : p.map last.value? = (plainParts site options tokens c).map some
  posts : RanAs (postVisibility site options.viewer) last p.visiblePosts
  comments : ∀ f ∈ p.visibleComments, RanAs (commentVisibility site options.viewer "c") last f

theorem faithful_someComments (site : Site) (options : Options) (tokens : List Token) :
    Faithful config (commentVisibility? site options tokens) fun last r =>
      r.map (Restriction.map last.value?) = (if touches Scope.coversComments tokens then
        some (ruleOr site.commentRule (Clause.visibleComments "c") options.viewer)
      else none).map (Restriction.map some) ∧
      ∀ f ∈ r, RanAs (commentVisibility site options.viewer "c") last f := by
  unfold commentVisibility?
  split
  · refine Faithful.bind (faithful_commentVisibility site options.viewer "c").ranAs fun f =>
      Faithful.pure fun last hf => ⟨by rw [Option.map_some, Option.map_some, hf.1], ?_⟩
    rintro g ⟨⟩
    exact hf.2
  · refine Faithful.pure fun last => ⟨rfl, ?_⟩
    rintro g ⟨⟩

variable {site : Site} {options : Options} {tokens : List Token} {c : Clauses}

/-- Texts are bound before all else, and what follows keeps the values of the other parts. -/
theorem bindParts_eq (site : Site) (options : Options) (tokens : List Token) (hc : c.Speak) :
    ∃ others : Option (TextQuery Placeholder) → Option (TextQuery Placeholder) →
        Option (TextQuery Placeholder) → StateM Params (Parts Placeholder),
      bindParts site options tokens c = (do
        let anywhere ← scopeQuery options.textSearchConfig tokens .all
        let postsOnly ← scopeQuery options.textSearchConfig tokens .posts
        let commentsOnly ← scopeQuery options.textSearchConfig tokens .comments
        others anywhere postsOnly commentsOnly) ∧
      ∀ anywhere postsOnly commentsOnly, Faithful options.textSearchConfig
        (others anywhere postsOnly commentsOnly) fun last p =>
          commentsOnly.map (TextQuery.map last.value?) =
            (plainScopeQuery? options.textSearchConfig tokens .comments).map (TextQuery.map some) →
          postsOnly.map (TextQuery.map last.value?) =
            (plainScopeQuery? options.textSearchConfig tokens .posts).map (TextQuery.map some) →
          anywhere.map (TextQuery.map last.value?) =
            (plainScopeQuery? options.textSearchConfig tokens .all).map (TextQuery.map some) →
          Bound site options tokens c last p := by
  refine ⟨_, rfl, fun anywhere postsOnly commentsOnly => ?_⟩
  refine Faithful.bind (faithful_clause hc.feeds) fun feeds => ?_
  refine Faithful.bind (faithful_clause (both_speak hc.postDays hc.postOnlyDays)) fun postDays => ?_
  refine Faithful.bind (faithful_clause (both_speak hc.commentDays hc.commentOnlyDays))
    fun commentDays => ?_
  refine Faithful.bind (faithful_clause hc.publishedDays) fun publishedDays => ?_
  refine Faithful.bind (faithful_clause hc.attachments) fun attachments => ?_
  refine Faithful.bind (faithful_clause hc.privacy) fun privacy => ?_
  refine Faithful.bind (faithful_clause (Restriction.speaks_all hc.postCounters))
    fun postCounters => ?_
  refine Faithful.bind (faithful_clause hc.commentCounters) fun commentCounters => ?_
  refine Faithful.bind (faithful_clause hc.commentLikes) fun commentLikes => ?_
  refine Faithful.bind (faithful_postVisibility site options.viewer).ranAs fun visiblePosts => ?_
  refine Faithful.bind (faithful_someComments site options tokens) fun visibleComments => ?_
  refine Faithful.bind (faithful_clause (authorRestrictions_speak "p.user_id" c.textAuthors
    c.postTextAuthors)) fun postTextAuthors => ?_
  refine Faithful.bind (faithful_clause (authorRestrictions_speak "c.user_id" c.textAuthors
    c.commentTextAuthors)) fun commentTextAuthors => ?_
  refine Faithful.bind (faithful_clause (authorRestriction_speaks "p.user_id" c.postAuthors))
    fun postAuthors => ?_
  refine Faithful.bind (faithful_bind (.number options.limit)) fun limit => ?_
  refine Faithful.bind (faithful_bind (.number options.offset)) fun offset => Faithful.pure ?_
  intro last h₁₉ h₁₈ h₁₇ h₁₆ h₁₅ h₁₄ h₁₃ h₁₂ h₁₁ h₁₀ h₉ h₈ h₇ h₆ h₅ h₄ h₃ h₂ h₁
  refine ⟨?_, h₁₃.2, h₁₄.2⟩
  simp only [Parts.map, plainParts, h₁, h₂, h₃, h₄, h₅, h₆, h₇, h₈, h₉, h₁₀, h₁₁, h₁₂, h₁₃.1,
    h₁₄.1, h₁₅, h₁₆, h₁₇, h₁₈, h₁₉]

theorem faithful_bindParts (hc : c.Speak) :
    Faithful options.textSearchConfig (bindParts site options tokens c)
      (Bound site options tokens c) := by
  obtain ⟨others, hparts, hothers⟩ := bindParts_eq site options tokens hc
  rw [hparts]
  refine Faithful.bind (faithful_scopeQuery .all) fun anywhere => ?_
  refine Faithful.bind (faithful_scopeQuery .posts) fun postsOnly => ?_
  exact Faithful.bind (faithful_scopeQuery .comments) fun commentsOnly =>
    hothers anywhere postsOnly commentsOnly

namespace Assembly

variable {compiled : Compiled}

theorem bound_and_extends (a : Assembly site options tokens compiled) :
    Bound site options a.named a.clauses compiled.params a.parts ∧
      compiled.params.Extends (Params.empty Params.defaultStem) := by
  have hf : Faithful options.textSearchConfig (bindParts site options a.named a.clauses)
      (Bound site options a.named a.clauses) :=
    faithful_bindParts (clauses_ok a.building).speak
  obtain ⟨he, -, h⟩ := hf (Params.empty Params.defaultStem) (Params.configIs_empty _ _)
  have e : bindParts site options a.named a.clauses (Params.empty Params.defaultStem) =
    (a.parts, compiled.params) := a.binding
  rw [e] at h he
  exact ⟨h compiled.params (Params.Extends.refl _), he⟩

theorem bound (a : Assembly site options tokens compiled) :
    Bound site options a.named a.clauses compiled.params a.parts :=
  a.bound_and_extends.1

theorem extends_empty (a : Assembly site options tokens compiled) :
    compiled.params.Extends (Params.empty Params.defaultStem) :=
  a.bound_and_extends.2

end Assembly

end PostSearch.Search
