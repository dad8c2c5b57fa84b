import PostSearch.Proofs.Clause.Shapes
import PostSearch.Proofs.Except
import PostSearch.Search.Compile

/-! # Statements do not show values

What a user writes as a word, as the bound of an interval or as the extension of a file is bound to
a placeholder and never stands in a statement; neither do the page and the text search
configuration. Two queries that differ in nothing else are refused alike, or have one statement with
placeholders of the same names.

Main statement: `compile_blind`. -/

namespace PostSearch.Search

open Query Sql Clause

variable {ρ : String → String} {ts us : List Token} {o p : Options} {site : Site}

/-! ### Tokens -/

theorem touches_like (q : Scope → Bool) (h : TokensLike ρ ts us) : touches q ts = touches q us := by
  have hwalk := withScopeFrom_like h .all
  unfold touches withScope
  generalize withScopeFrom .all ts = xs at hwalk ⊢
  generalize withScopeFrom .all us = ys at hwalk ⊢
  induction hwalk with
  | nil => rfl
  | cons hs _ ih => exact congrArg₂ or (congrArg q hs.2) ih

theorem check_like (hv : o.viewer = p.viewer) (hs : o.sort = p.sort)
    (hm : o.maxComplexity = p.maxComplexity) (h : TokensLike ρ ts us) :
    check o ts = check p us := by
  unfold check
  rw [complexity_like h, any_isCondition_like .inMy h, hv, hs, hm]

theorem takesAccounts_spec (o : Operator) (h : o.takesAccounts = true) :
    o.takesInterval = false ∧ o ≠ .attachment := by
  cases o <;> first | exact ⟨rfl, by decide⟩ | cases h

theorem accountNames_like (h : TokensLike ρ ts us) : accountNames ts = accountNames us := by
  unfold accountNames
  congr 1
  induction h with
  | nil => rfl
  | cons ht _ ih =>
      rw [List.flatMap_cons, List.flatMap_cons, ih]
      congr 1
      cases ht with
      | condition h =>
          dsimp only
          rw [← h.operator]
          split
          · rename_i ho
            obtain ⟨hi, ha⟩ := takesAccounts_spec _ ho
            rw [h.eq hi ha]
          · rfl
      | _ => rfl

theorem nameViewer_like (viewer : Option Account) {c d : Condition} (h : c.Like ρ d) :
    Agree (Condition.Like ρ) (nameViewer viewer c) (nameViewer viewer d) := by
  cases ho : c.operator.takesAccounts with
  | true =>
      obtain ⟨hi, ha⟩ := takesAccounts_spec _ ho
      obtain rfl := h.eq hi ha
      unfold nameViewer
      split
      · cases viewer with
        | none => exact .error _
        | some a => exact .ok (Condition.Like.refl hi ha)
      · exact .ok h
  | false =>
      unfold nameViewer
      rw [← h.operator, ho]
      exact .ok h

theorem nameViewerIn_like (viewer : Option Account) (h : TokensLike ρ ts us) :
    Agree (TokensLike ρ) (nameViewerIn viewer ts) (nameViewerIn viewer us) := by
  refine Agree.mapM (R := Token.Like ρ) ?_ h
  intro t u ht
  cases ht with
  | condition h => exact (nameViewer_like viewer h).map fun _ _ h => .condition h
  | leaf h => exact .ok (.leaf h)
  | group h => exact .ok (.group h)
  | sequence h => exact .ok (.sequence h)
  | scopeStart s => exact .ok (.scopeStart s)
  | inScope s h => exact .ok (.inScope s h)
  | pipe => exact .ok .pipe
  | plus => exact .ok .plus

/-! ### Clauses -/

/-- The clauses differ in their operands only. -/
structure Clauses.Alike (c d : Clauses) : Prop where
  feeds : SameShape c.feeds d.feeds
  postDays : SameShape c.postDays d.postDays
  postOnlyDays : SameShape c.postOnlyDays d.postOnlyDays
  commentDays : SameShape c.commentDays d.commentDays
  commentOnlyDays : SameShape c.commentOnlyDays d.commentOnlyDays
  publishedDays : SameShape c.publishedDays d.publishedDays
  attachments : SameShape c.attachments d.attachments
  privacy : SameShape c.privacy d.privacy
  postCounters : List.Forall₂ SameShape c.postCounters d.postCounters
  commentCounters : SameShape c.commentCounters d.commentCounters
  commentLikes : SameShape c.commentLikes d.commentLikes
  postAuthors : c.postAuthors = d.postAuthors
  textAuthors : c.textAuthors = d.textAuthors
  postTextAuthors : c.postTextAuthors = d.postTextAuthors
  commentTextAuthors : c.commentTextAuthors = d.commentTextAuthors

theorem clauses_like (hρ : Function.Injective ρ) (h : TokensLike ρ ts us) (accounts : Accounts)
    (feeds : List (Condition × OpenList Int)) :
    Agree Clauses.Alike (clauses ts accounts feeds) (clauses us accounts feeds) := by
  unfold clauses
  refine ((contentDates_like h _ _).mapError _).bind fun _ _ h₁ => ?_
  refine ((contentDates_like h _ _).mapError _).bind fun _ _ h₂ => ?_
  refine ((contentDates_like h _ _).mapError _).bind fun _ _ h₃ => ?_
  refine ((contentDates_like h _ _).mapError _).bind fun _ _ h₄ => ?_
  refine ((postDates_like h _).mapError _).bind fun _ _ h₅ => ?_
  refine ((counters_like rfl rfl h _).mapError _).bind fun _ _ h₆ => ?_
  refine ((counters_like rfl rfl h _).mapError _).bind fun _ _ h₇ => ?_
  refine ((counters_like rfl rfl h _).mapError _).bind fun _ _ h₈ => .ok ?_
  constructor
  case feeds => rfl
  case postDays => exact h₁
  case postOnlyDays => exact h₂
  case commentDays => exact h₃
  case commentOnlyDays => exact h₄
  case publishedDays => exact h₅
  case attachments => exact attachments_like hρ h "a"
  case privacy => exact congrArg Restriction.shape (privacy_like h "p")
  case postCounters => exact .cons h₆ (.cons h₇ .nil)
  case commentCounters => exact h₈
  case commentLikes => exact congrArg Restriction.shape (commentLikes_like h "cl.user_id" accounts)
  case postAuthors => rw [postAuthors_like h]
  case textAuthors => rw [textAuthors_like h]
  case postTextAuthors => rw [textAuthors_like h .posts]
  case commentTextAuthors => rw [textAuthors_like h .comments]

/-! ### Binding -/

theorem aligned_postVisibility (site : Site) (viewer : Option String) :
    Aligned (postVisibility site viewer) (postVisibility site viewer) := by
  unfold postVisibility
  cases site.postRule with
  | some rule => exact Aligned.pure _
  | none => exact (aligned_bindOption _).bind fun _ => Aligned.pure _

theorem aligned_commentVisibility? (site : Site) (hv : o.viewer = p.viewer)
    (h : TokensLike ρ ts us) :
    Aligned (commentVisibility? site o ts) (commentVisibility? site p us) := by
  unfold commentVisibility? commentVisibility
  rw [touches_like _ h, hv]
  split
  · refine Aligned.bind ?_ fun _ => Aligned.pure _
    cases site.commentRule with
    | some rule => exact Aligned.pure _
    | none => exact (aligned_bindOption _).bind fun _ => Aligned.pure _
  · exact Aligned.pure none

theorem aligned_bindParts (site : Site) (hv : o.viewer = p.viewer) (h : TokensLike ρ ts us)
    {c d : Clauses} (hc : c.Alike d) :
    Aligned (bindParts site o ts c) (bindParts site p us d) := by
  have hscope := fun s => plainScopeQuery?_like h o.textSearchConfig p.textSearchConfig s
  unfold bindParts
  refine (TextQuery.aligned_option (hscope .all)).bind fun _ => ?_
  refine (TextQuery.aligned_option (hscope .posts)).bind fun _ => ?_
  refine (TextQuery.aligned_option (hscope .comments)).bind fun _ => ?_
  refine (Restriction.aligned_restriction _ _ hc.feeds).bind fun _ => ?_
  refine (Restriction.aligned_restriction _ _
    (sameShape_all (.cons hc.postDays (.cons hc.postOnlyDays .nil)))).bind fun _ => ?_
  refine (Restriction.aligned_restriction _ _
    (sameShape_all (.cons hc.commentDays (.cons hc.commentOnlyDays .nil)))).bind fun _ => ?_
  refine (Restriction.aligned_restriction _ _ hc.publishedDays).bind fun _ => ?_
  refine (Restriction.aligned_restriction _ _ hc.attachments).bind fun _ => ?_
  refine (Restriction.aligned_restriction _ _ hc.privacy).bind fun _ => ?_
  refine (Restriction.aligned_restriction _ _ (sameShape_all hc.postCounters)).bind fun _ => ?_
  refine (Restriction.aligned_restriction _ _ hc.commentCounters).bind fun _ => ?_
  refine (Restriction.aligned_restriction _ _ hc.commentLikes).bind fun _ => ?_
  rw [hv, hc.textAuthors, hc.postTextAuthors, hc.commentTextAuthors, hc.postAuthors]
  refine (aligned_postVisibility site _).bind fun _ => ?_
  refine (aligned_commentVisibility? site hv h).bind fun _ => ?_
  refine (Restriction.aligned_restriction _ _ rfl).bind fun _ => ?_
  refine (Restriction.aligned_restriction _ _ rfl).bind fun _ => ?_
  refine (Restriction.aligned_restriction _ _ rfl).bind fun _ => ?_
  refine (aligned_bind _ _).bind fun _ => ?_
  exact (aligned_bind _ _).bind fun _ => Aligned.pure _

/-! ### Compiled statements -/

/-- The last step, once the clauses are there. -/
theorem assemble_like (site : Site) (sort : SortKey) (hv : o.viewer = p.viewer)
    (h : TokensLike ρ ts us) {c d : Clauses} (hc : c.Alike d) :
    Aligned (assemble site o sort ts c) (assemble site p sort us d) := by
  unfold assemble
  rw [touches_like _ h, touches_like _ h]
  exact (aligned_bindParts site hv h hc).bind fun _ => Aligned.pure _

/-- The options with another page and another text search configuration. -/
def Options.withPage (o : Options) (limit offset : Int) (config : Datum) : Options :=
  { o with limit := limit, offset := offset, textSearchConfig := config }

/-- Queries that differ in values only are refused alike or have one statement, with placeholders of
the same names. -/
theorem compile_blind (hρ : Function.Injective ρ) (h : TokensLike ρ ts us) (site : Site)
    (o : Options) (limit offset : Int) (config : Datum) :
    Agree (fun a b : Compiled => a.statement.text = b.statement.text ∧
        a.params.entries.map Prod.fst = b.params.entries.map Prod.fst)
      (compile site o ts).result (compile site (o.withPage limit offset config) us).result := by
  have hv : o.viewer = (o.withPage limit offset config).viewer := rfl
  unfold compile
  rw [← check_like (p := o.withPage limit offset config) hv rfl rfl h, ← hv]
  cases check o ts with
  | error e => exact .error e
  | ok sort =>
      have hnamed := nameViewerIn_like (o.viewer.bind site.accountById?) h
      dsimp only
      generalize nameViewerIn (o.viewer.bind site.accountById?) ts = x at hnamed ⊢
      generalize nameViewerIn (o.viewer.bind site.accountById?) us = y at hnamed ⊢
      cases hnamed with
      | error e => exact .error e
      | ok hnamed =>
          dsimp only
          rw [accountNames_like hnamed, feedConditions_like hnamed]
          refine Agree.bind (R := Eq) (Agree.refl (fun _ => rfl) _) fun feeds _ e => ?_
          obtain rfl := e
          refine (clauses_like hρ hnamed _ feeds).bind fun c d hc => .ok ?_
          obtain ⟨hs, hp⟩ := assemble_like site sort hv hnamed hc
            (Params.empty Params.defaultStem) (Params.empty Params.defaultStem) ⟨rfl, rfl, rfl⟩
          exact ⟨congrArg Statement.text hs, hp.names_eq⟩

theorem text_eq_of_renamed : ∃ a b : Compiled,
    (compile Site.small Options.default
      [.sequence [[⟨false, false, "cat"⟩]], .condition ⟨false, .commentCount, ["3", ""]⟩,
        .condition ⟨false, .attachment, ["image", ".jpg"]⟩]).result = .ok a ∧
    (compile Site.small (Options.default.withPage 10 20 (.text "english"))
      [.sequence [[⟨false, false, "o'clock"⟩]], .condition ⟨false, .commentCount, ["-25", ""]⟩,
        .condition ⟨false, .attachment, ["image", ".x-jpg"]⟩]).result = .ok b ∧
    a.statement.text = b.statement.text := by
  have hρ : Function.Injective ("x-" ++ ·) := fun s t h => (String.append_right_inj _).1 h
  have hcount : IsCount "3" :=
    Or.inr ⟨[], ['3'], rfl, by decide, by decide, by decide, by simp⟩
  have hcount' : IsCount "-25" :=
    Or.inr ⟨['-'], ['2', '5'], rfl, by decide, by decide, by decide, by simp⟩
  have hleaf : Leaf.Like ⟨false, false, "cat"⟩ ⟨false, false, "o'clock"⟩ :=
    ⟨rfl, rfl, by decide +kernel⟩
  have hcounts : Condition.Like ("x-" ++ ·) ⟨false, .commentCount, ["3", ""]⟩
      ⟨false, .commentCount, ["-25", ""]⟩ :=
    ⟨rfl, rfl, "3", "", "-25", "", rfl, rfl, ⟨by decide, fun _ => hcount, fun _ => hcount'⟩,
      ⟨Iff.rfl, fun _ => Or.inl rfl, fun _ => Or.inl rfl⟩⟩
  have hfiles : Condition.Like ("x-" ++ ·) ⟨false, .attachment, ["image", ".jpg"]⟩
      ⟨false, .attachment, ["image", ".x-jpg"]⟩ := by
    have hargs : ["image", ".x-jpg"] = ["image", ".jpg"].map (renamed ("x-" ++ ·)) := by
      decide +kernel
    exact ⟨rfl, rfl, hargs⟩
  have h := compile_blind hρ
    (.cons (.sequence (.cons (.cons hleaf .nil) .nil))
      (.cons (.condition hcounts) (.cons (.condition hfiles) .nil)))
    Site.small Options.default 10 20 (.text "english")
  obtain ⟨a, ha⟩ := exists_eq_ok (x := (compile Site.small Options.default
      [.sequence [[⟨false, false, "cat"⟩]], .condition ⟨false, .commentCount, ["3", ""]⟩,
        .condition ⟨false, .attachment, ["image", ".jpg"]⟩]).result) (by decide +kernel)
  obtain ⟨b, hb, htext, -⟩ := h.exists_ok ha
  exact ⟨a, b, ha, hb, htext⟩

end PostSearch.Search
