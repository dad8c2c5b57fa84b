import PostSearch.Proofs.Query.CommentScope
import PostSearch.Proofs.Query.Walk
import PostSearch.Proofs.Search.Naming
import PostSearch.Proofs.Sql.Operands

/-! # Two ways to look in one scope

Texts are looked for in one scope either by themselves, `in-posts:cat`, or by a scope start before
them and another one after them. Compiling does not tell the two apart: nothing but the walk over a
query matters to it, and on the walk they are two blocks of the same texts, which are bound to the
same values and read the same in a statement.

Main statement: `compile_inScope`, by `compile_sameWalk`. -/

namespace PostSearch

namespace Query

variable {ts us : List Token}

/-! ### Walks that are the same -/

/-- The same token, or the same group as a block of its own scope and as a sequence. -/
inductive SameBlock : Token → Token → Prop
  | refl (t : Token) : SameBlock t t
  | block (s : Scope) (g : Group) : SameBlock (.inScope s g) (.sequence [g])

/-- The walks over the two differ in the form of their blocks only. -/
def SameWalk (ts us : List Token) : Prop :=
  List.Forall₂ (fun p q => SameBlock p.1 q.1 ∧ p.2 = q.2) (withScope ts) (withScope us)

theorem sameWalk_inScope (pre post : List Token) (s : Scope) (g : Group) :
    SameWalk (pre ++ [.inScope s g] ++ post)
      (pre ++ [.scopeStart s, .sequence [g], .scopeStart ((lastScope? pre).getD .all)] ++ post) := by
  have hrefl : ∀ ps : List (Token × Scope),
      List.Forall₂ (fun p q => SameBlock p.1 q.1 ∧ p.2 = q.2) ps ps :=
    fun ps => List.forall₂_same.2 fun p _ => ⟨.refl p.1, rfl⟩
  have hwalk : ∀ us, withScopeFrom .all (pre ++ us) =
      withScopeFrom .all pre ++ withScopeFrom ((lastScope? pre).getD .all) us :=
    fun _ => withScopeFrom_append
  unfold SameWalk withScope
  rw [List.append_assoc, List.append_assoc, hwalk, hwalk]
  refine List.rel_append (hrefl _) ?_
  show List.Forall₂ _ ((Token.inScope s g, s) :: withScopeFrom _ post)
    ((Token.sequence [g], s) :: withScopeFrom _ post)
  exact .cons ⟨.block s g, rfl⟩ (hrefl _)

theorem SameBlock.complexity {t u : Token} (h : SameBlock t u) : t.complexity = u.complexity := by
  cases h with
  | refl => rfl
  | block s g => rw [Token.complexity, Token.complexity, List.flatten_singleton]

theorem SameBlock.condition? {t u : Token} (h : SameBlock t u) : t.condition? = u.condition? := by
  cases h <;> rfl

theorem SameBlock.isTextBlock {t u : Token} (h : SameBlock t u) :
    Sql.isTextBlock t = Sql.isTextBlock u := by
  cases h <;> rfl

theorem conditions_sameBlocks (h : List.Forall₂ SameBlock ts us) : conditions ts = conditions us := by
  induction h with
  | nil => rfl
  | cons ht _ ih =>
      unfold conditions at ih ⊢
      rw [List.filterMap_cons, List.filterMap_cons, ht.condition?, ih]

namespace SameWalk

theorem tokens (h : SameWalk ts us) : List.Forall₂ SameBlock ((withScope ts).map Prod.fst)
    ((withScope us).map Prod.fst) :=
  List.rel_map (fun _ _ hp => hp.1) h

theorem inScope (h : SameWalk ts us) (s : Scope) :
    List.Forall₂ SameBlock (inScope s ts) (inScope s us) := by
  refine List.rel_map (fun _ _ hp => hp.1) (List.rel_filter (fun p q hp => ?_) h)
  simp only [hp.2]

theorem complexity_eq (h : SameWalk ts us) : complexity ts = complexity us := by
  rw [← complexity_withScopeFrom .all ts, ← complexity_withScopeFrom .all us]
  have hwalk := h.tokens
  unfold withScope at hwalk
  generalize (withScopeFrom .all ts).map Prod.fst = xs at hwalk ⊢
  generalize (withScopeFrom .all us).map Prod.fst = ys at hwalk ⊢
  induction hwalk with
  | nil => rfl
  | cons ht _ ih => rw [complexity, complexity, ht.complexity, ih]

theorem conditions_eq (h : SameWalk ts us) : conditions ts = conditions us := by
  rw [← conditions_withScopeFrom .all ts, ← conditions_withScopeFrom .all us]
  exact conditions_sameBlocks h.tokens

theorem conditionsOf_eq (h : SameWalk ts us) (o : Operator) :
    conditionsOf o ts = conditionsOf o us := by
  rw [conditionsOf_eq_filter, conditionsOf_eq_filter, h.conditions_eq]

theorem conditionsOf_inScope (h : SameWalk ts us) (o : Operator) (s : Scope) :
    conditionsOf o (Query.inScope s ts) = conditionsOf o (Query.inScope s us) := by
  rw [conditionsOf_eq_filter, conditionsOf_eq_filter, conditions_sameBlocks (h.inScope s)]

end SameWalk

end Query

namespace Sql

open Query

variable {α α' β β' : Type}

/-! ### Programs that bind the same values -/

/-- The two bind the same values, and their results are related. -/
def Together (R : α → α' → Prop) (m : StateM Params α) (m' : StateM Params α') : Prop :=
  ∀ ps, R (m ps).1 (m' ps).1 ∧ (m ps).2 = (m' ps).2

theorem Together.pure {R : α → α' → Prop} {a : α} {a' : α'} (h : R a a') :
    Together R (Pure.pure a) (Pure.pure a') :=
  fun _ => ⟨h, rfl⟩

theorem Together.bind {R : α → α' → Prop} {S : β → β' → Prop} {m : StateM Params α}
    {m' : StateM Params α'} {k : α → StateM Params β} {k' : α' → StateM Params β'}
    (h : Together R m m') (hk : ∀ a a', R a a' → Together S (k a) (k' a')) :
    Together S (m >>= k) (m' >>= k') := by
  intro ps
  obtain ⟨hr, hps⟩ := h ps
  have hkps := hk _ _ hr (m ps).2
  show S (k (m ps).1 (m ps).2).1 (k' (m' ps).1 (m' ps).2).1 ∧
    (k (m ps).1 (m ps).2).2 = (k' (m' ps).1 (m' ps).2).2
  rwa [← hps]

theorem Together.bind_same {S : β → β' → Prop} {m : StateM Params α} {k : α → StateM Params β}
    {k' : α → StateM Params β'} (hk : ∀ a, Together S (k a) (k' a)) :
    Together S (m >>= k) (m >>= k') :=
  fun ps => hk (m ps).1 (m ps).2

/-! ### Queries that read the same -/

/-- The second query is the first, or joins nothing but the first. -/
inductive Wraps : TextQuery Datum → TextQuery Datum → Prop
  | refl (q : TextQuery Datum) : Wraps q q
  | joined (joint : TextJoint) (q : TextQuery Datum) : Wraps q (.joined joint [q])

theorem Wraps.together {q r : TextQuery Datum} (h : Wraps q r) :
    Together (fun a b => a.text = b.text) q.bind r.bind := by
  cases h with
  | refl => exact fun _ => ⟨rfl, rfl⟩
  | joined joint => exact fun _ => ⟨rfl, rfl⟩

theorem together_bindAll {qs rs : List (TextQuery Datum)} (h : List.Forall₂ Wraps qs rs) :
    Together (fun as bs => TextQuery.texts as = TextQuery.texts bs) (TextQuery.bindAll qs)
      (TextQuery.bindAll rs) := by
  induction h with
  | nil => exact Together.pure rfl
  | cons hq _ ih =>
      refine hq.together.bind fun a b hab => ih.bind fun as bs habs => Together.pure ?_
      rw [TextQuery.texts, TextQuery.texts, hab, habs]

theorem wraps_plainQuery (config : Datum) {t u : Token} (h : SameBlock t u) :
    Option.Rel Wraps (plainQuery? config t) (plainQuery? config u) := by
  cases h with
  | refl =>
      cases plainQuery? config t with
      | none => exact .none
      | some q => exact .some (.refl q)
  | block s g => exact .some (.joined .adjacent (groupQuery config g))

/-- The expressions of a scope bind the same values and read the same. -/
theorem together_scopeQuery (config : Datum) {ts us : List Token} (h : SameWalk ts us)
    (s : Scope) :
    Together (fun q r => q.map TextQuery.text = r.map TextQuery.text) (scopeQuery config ts s)
      (scopeQuery config us s) := by
  have hblocks := List.rel_filter (p := isTextBlock) (q := isTextBlock)
    (fun t u htu => Bool.eq_iff_iff.1 (SameBlock.isTextBlock htu)) (h.inScope s)
  have hqueries := List.rel_filterMap (fun t u htu => wraps_plainQuery config htu) hblocks
  unfold scopeQuery plainScopeQuery?
  generalize ((inScope s ts).filter isTextBlock).filterMap (plainQuery? config) = qs at hqueries ⊢
  generalize ((inScope s us).filter isTextBlock).filterMap (plainQuery? config) = rs at hqueries ⊢
  cases hqueries with
  | nil => exact Together.pure rfl
  | @cons q r qs rs hq hqs =>
      have hjoined : Together (fun a b => a.text = b.text) (TextQuery.joined .all (q :: qs)).bind
          (TextQuery.joined .all (r :: rs)).bind := by
        refine (together_bindAll (.cons hq hqs)).bind fun as bs habs => Together.pure ?_
        rw [TextQuery.text, TextQuery.text, habs]
      exact hjoined.bind fun a b hab => Together.pure (congrArg some hab)

end Sql

namespace Search

open Query Sql Clause

variable {site : Site} {options : Options} {ts us : List Token} {viewer : Option Account}

/-! ### Naming along the walk -/

/-- Write the viewer's username for the viewer, in a token. -/
def nameToken (viewer : Option Account) : Token → Except Error Token
  | .condition c => (nameViewer viewer c).map .condition
  | t => .ok t

theorem walk_named (viewer : Option Account) (s : Scope) (ts : List Token) :
    (nameViewerIn viewer ts).map (withScopeFrom s) =
      (withScopeFrom s ts).mapM fun p => (nameToken viewer p.1).map fun t => (t, p.2) := by
  have hcons : ∀ t ts, nameViewerIn viewer (t :: ts) = (do
      return (← nameToken viewer t) :: (← nameViewerIn viewer ts)) := fun t ts => List.mapM_cons
  induction s, ts using withScopeFrom.induct with
  | case1 s => rfl
  | case2 s s' ts ih =>
      rw [hcons, withScopeFrom, ← ih]
      cases nameViewerIn viewer ts <;> rfl
  | case3 s s' g ts ih =>
      rw [hcons, withScopeFrom, List.mapM_cons, ← ih]
      cases nameViewerIn viewer ts <;> rfl
  | case4 s t ts hstart hinside ih =>
      rw [hcons, withScopeFrom, List.mapM_cons, ← ih]
      · cases t with
        | scopeStart s' => exact absurd rfl (hstart s')
        | inScope s' g => exact absurd rfl (hinside s' g)
        | condition c =>
            unfold nameToken
            dsimp only
            cases nameViewer viewer c with
            | error e => rfl
            | ok d => cases nameViewerIn viewer ts <;> rfl
        | _ => cases nameViewerIn viewer ts <;> rfl
      · exact hstart
      · exact hinside

theorem nameToken_sameBlock {t u : Token} (h : SameBlock t u) :
    Agree SameBlock (nameToken viewer t) (nameToken viewer u) := by
  cases h with
  | refl => exact Agree.refl SameBlock.refl _
  | block s g => exact .ok (.block s g)

theorem nameViewerIn_sameWalk (viewer : Option Account) (h : SameWalk ts us) :
    Agree SameWalk (nameViewerIn viewer ts) (nameViewerIn viewer us) := by
  have hwalks : Agree (List.Forall₂ fun p q => SameBlock p.1 q.1 ∧ p.2 = q.2)
      ((nameViewerIn viewer ts).map withScope) ((nameViewerIn viewer us).map withScope) := by
    unfold withScope
    rw [walk_named, walk_named]
    refine Agree.mapM (fun p q hpq => ?_) h
    exact (nameToken_sameBlock hpq.1).map fun t u htu => ⟨htu, hpq.2⟩
  cases hts : nameViewerIn viewer ts <;> cases hus : nameViewerIn viewer us <;>
    rw [hts, hus] at hwalks <;> cases hwalks
  · exact .error _
  · rename_i h
    exact .ok h

/-! ### Compiling the same walk -/

theorem touches_sameWalk (h : SameWalk ts us) (p : Scope → Bool) :
    touches p ts = touches p us := by
  rw [touches_eq, touches_eq]
  have hscopes : (withScope ts).map Prod.snd = (withScope us).map Prod.snd :=
    List.forall₂_eq_eq_eq ▸ List.rel_map (fun _ _ hp => hp.2) h
  rw [hscopes]

theorem check_sameWalk (h : SameWalk ts us) : check options ts = check options us := by
  unfold check
  rw [h.complexity_eq, any_isCondition, any_isCondition, h.conditions_eq]

theorem accountNames_eq (tokens : List Token) : accountNames tokens =
    distinct ((conditions tokens).flatMap fun c =>
      if c.operator.takesAccounts then c.args else []) := by
  unfold accountNames
  congr 1
  induction tokens with
  | nil => rfl
  | cons t ts ih =>
      rw [List.flatMap_cons, ih]
      cases t <;> rfl

theorem feedConditions_eq (tokens : List Token) :
    feedConditions tokens = (conditions tokens).filter (isFeedOperator ·.operator) := by
  refine (filterMap_condition (p := fun c => isFeedOperator c.operator = true)).trans ?_
  simp only [Bool.decide_eq_true]

theorem clauses_sameWalk (h : SameWalk ts us) (accounts : Accounts)
    (feeds : List (Condition × OpenList Int)) : clauses ts accounts feeds = clauses us accounts feeds := by
  unfold clauses contentDates postDates counters attachments privacy commentLikes postAuthors
    textAuthors allowedByAll
  simp only [h.conditionsOf_eq, h.conditionsOf_inScope]

/-! ### Statements that read the same -/

def Parts.withoutTexts {ν : Type} (p : Parts ν) : Parts ν :=
  { p with anywhere := none, postsOnly := none, commentsOnly := none }

/-- The parts differ in their texts only, and these read the same. -/
structure SameParts (p q : Parts Placeholder) : Prop where
  anywhere : p.anywhere.map TextQuery.text = q.anywhere.map TextQuery.text
  postsOnly : p.postsOnly.map TextQuery.text = q.postsOnly.map TextQuery.text
  commentsOnly : p.commentsOnly.map TextQuery.text = q.commentsOnly.map TextQuery.text
  others : p.withoutTexts = q.withoutTexts

theorem together_bindParts (site : Site) (options : Options) (h : SameWalk ts us) (c : Clauses) :
    Together SameParts (bindParts site options ts c) (bindParts site options us c) := by
  have hcomments : commentVisibility? site options ts = commentVisibility? site options us := by
    unfold commentVisibility?
    rw [touches_sameWalk h]
  unfold bindParts
  rw [hcomments]
  refine (together_scopeQuery _ h .all).bind fun _ _ hall => ?_
  refine (together_scopeQuery _ h .posts).bind fun _ _ hposts => ?_
  refine (together_scopeQuery _ h .comments).bind fun _ _ hcomments => ?_
  -- All other parts are bound by the same programs.
  iterate 16 refine Together.bind_same fun _ => ?_
  exact Together.pure ⟨hall, hposts, hcomments, rfl⟩

theorem texts_matching (column : String) {q r : Option (TextQuery Placeholder)}
    (h : q.map TextQuery.text = r.map TextQuery.text) :
    (matching column q).map Restriction.text = (matching column r).map Restriction.text := by
  have hmatching : ∀ q : Option (TextQuery Placeholder), (matching column q).map Restriction.text =
      ((q.map TextQuery.text).map fun s => column ++ " @@ " ++ s).toList := by
    intro q
    cases q <;> rfl
  rw [hmatching, hmatching, h]

namespace SameParts

variable {p q : Parts Placeholder} {own own' : Restriction Placeholder}

theorem eq_of {α : Type} (h : SameParts p q) (f : Parts Placeholder → α)
    (hf : ∀ p, f p.withoutTexts = f p) : f p = f q :=
  (hf p).symm.trans ((congrArg f h.others).trans (hf q))

theorem texts_eq (h : SameParts p q) (column : String) :
    (Restriction.all (matching column p.anywhere ++ matching "p.body_tsvector" p.postsOnly ++
      matching "c.body_tsvector" p.commentsOnly)).text =
    (Restriction.all (matching column q.anywhere ++ matching "p.body_tsvector" q.postsOnly ++
      matching "c.body_tsvector" q.commentsOnly)).text := by
  simp only [Restriction.text, Restriction.texts_eq, List.map_append, texts_matching _ h.anywhere,
    texts_matching _ h.postsOnly, texts_matching _ h.commentsOnly]

theorem ownOfPosts_text (h : SameParts p q) : p.ownOfPosts.text = q.ownOfPosts.text := by
  have hauthors : p.postTextAuthors = q.postTextAuthors := h.eq_of Parts.postTextAuthors fun _ => rfl
  have hdays : p.postDays = q.postDays := h.eq_of Parts.postDays fun _ => rfl
  unfold Parts.ownOfPosts
  rw [Restriction.text, Restriction.texts, h.texts_eq, hauthors, hdays]
  rfl

theorem ownOfComments_text (h : SameParts p q) : p.ownOfComments.text = q.ownOfComments.text := by
  have hauthors : p.commentTextAuthors = q.commentTextAuthors :=
    h.eq_of Parts.commentTextAuthors fun _ => rfl
  have hdays : p.commentDays = q.commentDays := h.eq_of Parts.commentDays fun _ => rfl
  unfold Parts.ownOfComments
  rw [Restriction.text, Restriction.texts, h.texts_eq, hauthors, hdays]
  rfl

theorem selection_text (h : SameParts p q) (sort : SortKey) (hown : own.text = own'.text) :
    (p.selection sort own).text = (q.selection sort own').text := by
  have hjoins : (p.selection sort own).joins = (q.selection sort own').joins :=
    h.eq_of Parts.joins fun _ => rfl
  have hcommon : p.common = q.common := h.eq_of Parts.common fun _ => rfl
  have hrows : (p.selection sort own).rows.text = (q.selection sort own').rows.text := by
    show conjoin [own.text, p.common.text] = conjoin [own'.text, q.common.text]
    rw [hown, hcommon]
  have hgroups : (p.selection sort own).groups = (q.selection sort own').groups :=
    h.eq_of (fun p => Restriction.all [p.attachments, p.commentLikes]) fun _ => rfl
  unfold Selection.text
  rw [hjoins, hrows, hgroups]
  rfl

theorem statement_text (h : SameParts p q) (sort : SortKey) (byPosts : Bool) :
    (p.statement sort byPosts).text = (q.statement sort byPosts).text := by
  have hselections : (p.statement sort byPosts).selections.map Selection.text =
      (q.statement sort byPosts).selections.map Selection.text := by
    have hvisible : p.visibleComments = q.visibleComments :=
      h.eq_of Parts.visibleComments fun _ => rfl
    unfold Parts.statement
    dsimp only
    rw [List.map_append, List.map_append, hvisible]
    congr 1
    · split
      · exact congrArg (fun t => [t]) (h.selection_text sort h.ownOfPosts_text)
      · rfl
    · split
      · exact congrArg (fun t => [t]) (h.selection_text sort h.ownOfComments_text)
      · rfl
  have htable : (p.statement sort byPosts).commonTable = (q.statement sort byPosts).commonTable :=
    h.eq_of (fun p => (p.statement sort byPosts).commonTable) fun _ => rfl
  have hpage : (p.statement sort byPosts).limit = (q.statement sort byPosts).limit ∧
      (p.statement sort byPosts).offset = (q.statement sort byPosts).offset :=
    ⟨h.eq_of Parts.limit fun _ => rfl, h.eq_of Parts.offset fun _ => rfl⟩
  unfold Statement.text
  rw [hselections, htable, hpage.1, hpage.2]

end SameParts

/-! ### Compiled statements -/

theorem together_assemble (site : Site) (options : Options) (sort : SortKey) (h : SameWalk ts us)
    (c : Clauses) : Together (fun s t => s.text = t.text) (assemble site options sort ts c)
      (assemble site options sort us c) := by
  unfold assemble
  rw [touches_sameWalk h, touches_sameWalk h]
  exact (together_bindParts site options h c).bind fun p q hpq =>
    Together.pure (hpq.statement_text sort _)

/-- Queries with the same walk are asked for alike, and refused alike or compiled to the same text
with the same values. -/
theorem compile_sameWalk (site : Site) (options : Options) (h : SameWalk ts us) :
    (compile site options ts).accountLookups = (compile site options us).accountLookups ∧
    (compile site options ts).feedLookups = (compile site options us).feedLookups ∧
    Agree (fun a b : Compiled => a.statement.text = b.statement.text ∧ a.params = b.params ∧
        a.complexity = b.complexity)
      (compile site options ts).result (compile site options us).result := by
  unfold compile
  rw [check_sameWalk h]
  cases check options us with
  | error e => exact ⟨rfl, rfl, .error e⟩
  | ok sort =>
      have hnamed := nameViewerIn_sameWalk (options.viewer.bind site.accountById?) h
      dsimp only
      generalize nameViewerIn (options.viewer.bind site.accountById?) ts = x at hnamed ⊢
      generalize nameViewerIn (options.viewer.bind site.accountById?) us = y at hnamed ⊢
      cases hnamed with
      | error e => exact ⟨rfl, rfl, .error e⟩
      | @ok ts' us' hnamed =>
          dsimp only
          rw [accountNames_eq, accountNames_eq, feedConditions_eq, feedConditions_eq,
            hnamed.conditions_eq]
          refine ⟨rfl, rfl, ?_⟩
          refine Agree.bind (R := Eq) (Agree.refl (fun _ => rfl) _) fun feeds _ e => ?_
          subst e
          rw [clauses_sameWalk hnamed]
          refine Agree.bind (R := Eq) (Agree.refl (fun _ => rfl) _) fun c _ e => .ok ?_
          subst e
          obtain ⟨htext, hparams⟩ := together_assemble site options sort hnamed c
            (Params.empty Params.defaultStem)
          exact ⟨htext, hparams, h.complexity_eq⟩

/-- Texts under a scope of their own are looked for exactly like the same texts between scope
starts, whatever stands around them. -/
theorem compile_inScope (site : Site) (options : Options) (pre post : List Token) (s : Scope)
    (g : Group) :
    let inner := pre ++ [.inScope s g] ++ post
    let switched := pre ++ [.scopeStart s, .sequence [g],
      .scopeStart ((lastScope? pre).getD .all)] ++ post
    (compile site options inner).accountLookups = (compile site options switched).accountLookups ∧
    (compile site options inner).feedLookups = (compile site options switched).feedLookups ∧
    Agree (fun a b : Compiled => a.statement.text = b.statement.text ∧ a.params = b.params ∧
        a.complexity = b.complexity)
      (compile site options inner).result (compile site options switched).result :=
  compile_sameWalk site options (sameWalk_inScope pre post s g)

end Search

end PostSearch
