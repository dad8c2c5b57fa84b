import PostSearch.Proofs.Query.Parsed
import PostSearch.Proofs.Search.Naming
import PostSearch.Proofs.Search.Vocabulary
import PostSearch.Proofs.Sql.Aliases
import PostSearch.Proofs.Sql.Solid

/-! # Aliases in compiled statements

A table is joined when the text of a restriction that needs it depends on the row, and comments are
joined when some token of the query is on comments. Aliases are introduced as long as the two go
together. They do, but for conditions on the likes of comments: these are dropped from a query on
posts only once, and a second one asks for counters of comments that are not there.

Main statement: a compiled statement introduces its aliases if and only if the query has no such
condition or some token of it is on comments (`compileRequest_introduces_iff`). -/

namespace PostSearch.Search

open Query Sql Clause

variable {site : Site} {options : Options} {tokens : List Token} {compiled : Compiled}

/-! ### Queries that are not on comments -/

theorem inScope_eq_nil {p : Scope → Bool} (h : touches p tokens = false) {s : Scope}
    (hs : p s = true) : inScope s tokens = [] := by
  rw [inScope, List.map_eq_nil_iff, List.filter_eq_nil_iff]
  rintro ⟨t, s'⟩ hmem e
  obtain rfl : s' = s := of_decide_eq_true e
  have := List.any_eq_false.1 h _ hmem
  exact this hs

/-- Nothing in the parts is about comments, their counters apart. -/
structure Parts.CommentFree {ν : Type} (p : Parts ν) : Prop where
  anywhere : p.anywhere = none
  commentsOnly : p.commentsOnly = none
  commentDays : p.commentDays.columns = []
  commentTextAuthors : p.commentTextAuthors.columns = []
  commentLikes : p.commentLikes = .all []

theorem contentDates_nil {column : String} {s : Scope} {f : Restriction Datum}
    (hs : inScope s tokens = []) (h : contentDates tokens column s = .ok f) : f = .all [] := by
  unfold contentDates at h
  rw [hs] at h
  cases h
  rfl

theorem textAuthors_nil {s : Scope} (hs : inScope s tokens = []) (accounts : Accounts)
    (column : String) :
    (authorRestriction column (idsOf (textAuthors tokens s) accounts)).columns = [] := by
  unfold textAuthors
  rw [hs]
  rfl

theorem plainParts_commentFree {accounts : Accounts} {sets : List (Condition × OpenList Int)}
    {c : Clauses} (hc : c.Built tokens accounts sets)
    (h : touches Scope.coversComments tokens = false) :
    (plainParts site options tokens c).CommentFree := by
  have hall : inScope .all tokens = [] := inScope_eq_nil h rfl
  have hcomments : inScope .comments tokens = [] := inScope_eq_nil h rfl
  constructor
  case anywhere =>
    simp only [plainParts, plainScopeQuery?, hall]
    rfl
  case commentsOnly =>
    simp only [plainParts, plainScopeQuery?, hcomments]
    rfl
  case commentDays =>
    simp only [plainParts, contentDates_nil hall hc.commentDays,
      contentDates_nil hcomments hc.commentOnlyDays]
    rfl
  case commentTextAuthors =>
    simp only [plainParts, hc.textAuthors, hc.commentTextAuthors, Restriction.columns_all,
      List.flatMap_cons, textAuthors_nil hall, textAuthors_nil hcomments]
    rfl
  case commentLikes =>
    simp only [plainParts, hc.commentLikes, commentLikes, hcomments]
    rfl

theorem eq_all_nil_of_map_eq {ν μ : Type} {h : ν → μ} {f : Restriction ν}
    (e : f.map h = .all []) : f = .all [] := by
  cases f with
  | all fs =>
      rw [Restriction.map, Restriction.all.injEq, Restriction.mapAll_eq, List.map_eq_nil_iff] at e
      rw [e]
  | _ => cases e

theorem Parts.CommentFree.of_map_eq {ν μ κ : Type} {p : Parts ν} {q : Parts μ} {h : ν → κ}
    {h' : μ → κ} (hq : q.CommentFree) (e : p.map h = q.map h') : p.CommentFree where
  anywhere := by
    have ea : p.anywhere.map (TextQuery.map h) = q.anywhere.map (TextQuery.map h') :=
      congrArg Parts.anywhere e
    rwa [hq.anywhere, Option.map_none, Option.map_eq_none_iff] at ea
  commentsOnly := by
    have ec : p.commentsOnly.map (TextQuery.map h) = q.commentsOnly.map (TextQuery.map h') :=
      congrArg Parts.commentsOnly e
    rwa [hq.commentsOnly, Option.map_none, Option.map_eq_none_iff] at ec
  commentDays :=
    (Restriction.columns_eq_of_map_eq (congrArg Parts.commentDays e)).trans hq.commentDays
  commentTextAuthors :=
    (Restriction.columns_eq_of_map_eq (congrArg Parts.commentTextAuthors e)).trans
      hq.commentTextAuthors
  commentLikes := by
    have el : p.commentLikes.map h = q.commentLikes.map h' := congrArg Parts.commentLikes e
    rw [hq.commentLikes] at el
    exact eq_all_nil_of_map_eq el

/-! ### Counters of comments -/

theorem isSolid_countRestriction {column lower upper : String} {c : Condition}
    {f : Restriction Datum} (h : countRestriction column c = .ok f)
    (hargs : c.args = [lower, upper]) (hb : lower ≠ "" ∨ upper ≠ "") : f.isSolid = true := by
  have hbound : ∀ {b : String} {n : Option Int}, countBound b = .ok n → b ≠ "" → n.isSome := by
    intro b n hn hne
    rw [countBound, if_neg hne] at hn
    split at hn
    · cases hn
      rfl
    · cases hn
  obtain ⟨⟨l, u⟩, hlu, h⟩ := bind_eq_ok.1 h
  obtain ⟨m, hm, h⟩ := bind_eq_ok.1 h
  obtain ⟨n, hn, h⟩ := bind_eq_ok.1 h
  cases h
  rw [bounds, hargs] at hlu
  cases hlu
  have hsome : m.isSome ∨ n.isSome := hb.imp (hbound hm) (hbound hn)
  have hcounts : (countsRestriction column ⟨m, n⟩).isSolid = true := by
    cases m <;> cases n <;> first | rfl | simp at hsome
  unfold signed
  split
  · exact hcounts
  · exact hcounts

/-- Every condition on the counter has two bounds, one of which is given. -/
def AllBounded (cs : List Condition) : Prop :=
  ∀ c ∈ cs, ∃ lower upper, c.args = [lower, upper] ∧ (lower ≠ "" ∨ upper ≠ "")

theorem isSolid_counters {column : String} {o : Operator} {f : Restriction Datum}
    (h : counters tokens o column = .ok f) (hne : conditionsOf o tokens ≠ [])
    (hb : AllBounded (conditionsOf o tokens)) : f.isSolid = true := by
  obtain ⟨fs, hfs, h⟩ := bind_eq_ok.1 h
  cases h
  have hall := mapM_eq_ok hfs
  rw [Restriction.isSolid, Bool.and_eq_true, Restriction.areSolid_iff]
  constructor
  · cases fs with
    | nil => exact absurd (List.forall₂_nil_right_iff.1 hall) hne
    | cons => rfl
  · intro f hf
    obtain ⟨c, hc, h⟩ := exists_of_mem_right hall hf
    obtain ⟨l, u, hargs, hlu⟩ := hb c hc
    exact isSolid_countRestriction h hargs hlu

theorem counters_nil {column : String} {o : Operator} {f : Restriction Datum}
    (h : counters tokens o column = .ok f) (hnil : conditionsOf o tokens = []) : f = .all [] := by
  unfold counters at h
  rw [hnil] at h
  cases h
  rfl

/-! ### What the texts use -/

theorem usesOnly_phrases : ∀ w ∈ Atom.allPhrases, UsesOnly ["p"] w := by
  simp only [Atom.allPhrases, Atom.phrases, List.cons_append, List.nil_append,
    List.forall_mem_cons]
  refine ⟨?_, ?_, ?_, ?_, ?_, fun w hw => absurd hw List.not_mem_nil⟩
  · exact usesOnly_ofList (by decide +kernel)
  · exact usesOnly_ofList (by decide)
  · exact usesOnly_ofList (by decide +kernel)
  · exact usesOnly_ofList (by decide +kernel)
  · exact usesOnly_ofList (by decide)

namespace Assembly

/-- A sound restriction uses the aliases of its columns, and perhaps posts. -/
theorem usesOnly_text (a : Assembly site options tokens compiled) {f : Restriction Placeholder}
    (hf : Sound compiled.params f) {xs : List String} (hp : "p" ∈ xs)
    (hw : ∀ w ∈ f.columns, UsesOnly xs w) : UsesOnly xs f.text := by
  intro x hq hx
  rcases reading_qualifiers.mem_text f hq with ⟨w, hwf, h⟩ | ⟨w, hwp, h⟩ | ⟨p, hpf, h⟩
  · exact hw w hwf x h hx
  · obtain rfl := List.mem_singleton.1 (usesOnly_phrases w hwp x h hx)
    exact hp
  · have hs := (a.index_lt (hf.operands p hpf)).1
    rw [text_toList hs] at h
    have hdot : '.' ∉ ':' :: 'p' :: '_' :: Nat.toDigits 10 p.index := by
      have hdigits : '.' ∉ Nat.toDigits 10 p.index := fun hc => by
        simpa using Nat.isDigit_of_mem_toDigits (by decide) (by decide) hc
      simp [hdigits]
    rw [qualifiers, qualifiersFrom_eq_nil [] hdot] at h
    cases h

end Assembly

theorem usesOnly_of_trivial {s : String} (h : isNontrivial s = false) : UsesOnly [] s := by
  have hs : s = "" ∨ s = "true" ∨ s = "false" := by
    by_contra hne
    rw [not_or, not_or] at hne
    rw [isNontrivial_iff.2 hne] at h
    cases h
  rcases hs with rfl | rfl | rfl <;> exact usesOnly_ofList (by decide)

/-- Either comments are joined, or nothing is about comments. -/
def Parts.Settled (p : Parts Placeholder) : Prop :=
  p.visibleComments.isSome = true ∨ p.CommentFree ∧ p.commentCounters = .all []

theorem Parts.mem_known {p : Parts Placeholder} {j : Join} (h : j ∈ p.joins) :
    j.shortName ∈ Selection.known p.joins :=
  List.mem_append_right _ (List.mem_map_of_mem h)

theorem Parts.mem_known_comments {p : Parts Placeholder} (h : p.visibleComments.isSome = true) :
    "c" ∈ Selection.known p.joins := by
  obtain ⟨visible, hv⟩ := Option.isSome_iff_exists.1 h
  refine Parts.mem_known (j := .comments visible) (Parts.mem_joins.2 (Or.inl ?_))
  rw [hv]
  rfl

/-- A restriction that has its table joined when it depends on the row. -/
theorem usesOnly_needed {f : Restriction Placeholder} {xs : List String}
    (h : isNontrivial f.text = true → UsesOnly xs f.text) : UsesOnly xs f.text := by
  cases hf : isNontrivial f.text with
  | true => exact h hf
  | false => exact (usesOnly_of_trivial hf).mono (List.nil_subset _)

namespace Assembly

variable {f : Restriction Placeholder} {words : List String}

/-- What is known to the words of a restriction is known to its text. -/
theorem usesOnly_part (a : Assembly site options tokens compiled) (hpost : site.postRule = none)
    (hcomment : site.commentRule = none) (hf : f ∈ a.parts.restrictions) (hc : f.columns ⊆ words)
    {xs : List String} (hxs : xs ⊆ Selection.known a.parts.joins)
    (hw : ∀ w ∈ words, UsesOnly xs w) : UsesOnly (Selection.known a.parts.joins) f.text := by
  have hp : "p" ∈ Selection.known a.parts.joins := List.mem_append_left _ List.mem_cons_self
  exact a.usesOnly_text (a.sound_parts hpost hcomment f hf) hp fun w hwf =>
    (hw w (hc hwf)).mono hxs

/-- Posts and their authors are always there. -/
theorem usesOnly_onPosts (a : Assembly site options tokens compiled) (hpost : site.postRule = none)
    (hcomment : site.commentRule = none) (hf : f ∈ a.parts.restrictions) (hc : f.columns ⊆ words)
    (hw : ∀ w ∈ words, UsesOnly ["p", "u"] w) :
    UsesOnly (Selection.known a.parts.joins) f.text :=
  a.usesOnly_part hpost hcomment hf hc (List.subset_append_left _ _) hw

/-- Comments are there, or the restriction has no columns. -/
theorem usesOnly_onComments (a : Assembly site options tokens compiled)
    (hpost : site.postRule = none) (hcomment : site.commentRule = none) (h : a.parts.Settled)
    (hf : f ∈ a.parts.restrictions) (hc : f.columns ⊆ words) (hw : ∀ w ∈ words, UsesOnly ["c"] w)
    (hfree : a.parts.CommentFree → f.columns = []) :
    UsesOnly (Selection.known a.parts.joins) f.text := by
  rcases h with h | ⟨h, -⟩
  · have hxs : ["c"] ⊆ Selection.known a.parts.joins :=
      List.cons_subset.2 ⟨Parts.mem_known_comments h, List.nil_subset _⟩
    exact a.usesOnly_part hpost hcomment hf hc hxs hw
  · have hnone : ∀ w ∈ ([] : List String), UsesOnly [] w := fun w hw => absurd hw List.not_mem_nil
    exact a.usesOnly_part hpost hcomment hf (List.subset_nil.2 (hfree h)) (List.nil_subset _) hnone

theorem usesOnly_onJoin (a : Assembly site options tokens compiled) (hpost : site.postRule = none)
    (hcomment : site.commentRule = none) (j : Join) (hf : f ∈ a.parts.restrictions)
    (hc : f.columns ⊆ words) (hw : ∀ w ∈ words, UsesOnly [j.shortName] w)
    (hj : isNontrivial f.text = true → j ∈ a.parts.joins) :
    UsesOnly (Selection.known a.parts.joins) f.text := by
  apply usesOnly_needed
  intro hn
  have hxs : [j.shortName] ⊆ Selection.known a.parts.joins :=
    List.cons_subset.2 ⟨Parts.mem_known (hj hn), List.nil_subset _⟩
  exact a.usesOnly_part hpost hcomment hf hc hxs hw

theorem columns_subset_of_matching {column : String} {q : Option (TextQuery Placeholder)}
    (hf : f ∈ matching column q) : f.columns ⊆ [column] := by
  rw [columns_matching hf]
  exact List.Subset.refl _

theorem usesOnly_postTexts (a : Assembly site options tokens compiled)
    (hpost : site.postRule = none) (hcomment : site.commentRule = none)
    {q : Option (TextQuery Placeholder)}
    (hq : ∀ f ∈ matching "p.body_tsvector" q, f ∈ a.parts.restrictions) :
    ∀ f ∈ matching "p.body_tsvector" q, UsesOnly (Selection.known a.parts.joins) f.text := by
  have hw : ∀ w ∈ ["p.body_tsvector"], UsesOnly ["p", "u"] w :=
    List.forall_mem_singleton.2 (usesOnly_ofList (by decide))
  exact fun f hf => a.usesOnly_onPosts hpost hcomment (hq f hf) (columns_subset_of_matching hf) hw

theorem usesOnly_commentTexts (a : Assembly site options tokens compiled)
    (hpost : site.postRule = none) (hcomment : site.commentRule = none) (h : a.parts.Settled)
    {q : Option (TextQuery Placeholder)}
    (hq : ∀ f ∈ matching "c.body_tsvector" q, f ∈ a.parts.restrictions)
    (hfree : a.parts.CommentFree → q = none) :
    ∀ f ∈ matching "c.body_tsvector" q, UsesOnly (Selection.known a.parts.joins) f.text := by
  have hw : ∀ w ∈ ["c.body_tsvector"], UsesOnly ["c"] w :=
    List.forall_mem_singleton.2 (usesOnly_ofList (by decide))
  intro f hf
  refine a.usesOnly_onComments hpost hcomment h (hq f hf) (columns_subset_of_matching hf) hw ?_
  intro hfree'
  rw [hfree hfree'] at hf
  cases hf

theorem usesOnly_parts (a : Assembly site options tokens compiled)
    (hpost : site.postRule = none) (hcomment : site.commentRule = none) (h : a.parts.Settled) :
    ∀ f ∈ a.parts.restrictions, UsesOnly (Selection.known a.parts.joins) f.text := by
  have hspeak := a.speak hpost hcomment
  have hall : ∀ f ∈ a.parts.restrictions, f ∈ a.parts.restrictions := fun _ hf => hf
  simp only [Parts.restrictions, List.forall_mem_append, List.forall_mem_cons, Option.mem_toList]
    at hall ⊢
  obtain ⟨⟨⟨⟨⟨⟨hfeeds, hpostDays, hcommentDays, hpublishedDays, hattachments, hprivacy,
    hpostCounters, hcommentCounters, hcommentLikes, hvisiblePosts, hpostTextAuthors,
    hcommentTextAuthors, hpostAuthors, -⟩, hvisibleComments⟩, hanywhere⟩, hanywhere'⟩, hpostsOnly⟩,
    hcommentsOnly⟩ := hall
  refine ⟨⟨⟨⟨⟨⟨?_, ?_, ?_, ?_, ?_, ?_, ?_, ?_, ?_, ?_, ?_, ?_, ?_, ?_⟩, ?_⟩, ?_⟩, ?_⟩, ?_⟩, ?_⟩
  · exact a.usesOnly_onPosts hpost hcomment hfeeds hspeak.feeds (by decide +kernel)
  · exact a.usesOnly_onPosts hpost hcomment hpostDays hspeak.postDays (by decide +kernel)
  · exact a.usesOnly_onComments hpost hcomment h hcommentDays hspeak.commentDays
      (by decide +kernel) fun h => h.commentDays
  · exact a.usesOnly_onPosts hpost hcomment hpublishedDays hspeak.publishedDays (by decide +kernel)
  · exact a.usesOnly_onJoin hpost hcomment .attachments hattachments hspeak.attachments
      (by decide +kernel) fun hn => Parts.mem_joins.2 (Or.inr (Or.inr (Or.inl ⟨hn, rfl⟩)))
  · exact a.usesOnly_onPosts hpost hcomment hprivacy hspeak.privacy (by decide +kernel)
  · exact a.usesOnly_onJoin hpost hcomment .postCounters hpostCounters hspeak.postCounters
      (by decide +kernel) fun hn =>
        Parts.mem_joins.2 (Or.inr (Or.inr (Or.inr (Or.inl ⟨hn, rfl⟩))))
  · exact a.usesOnly_onJoin hpost hcomment .commentCounters hcommentCounters
      hspeak.commentCounters (by decide +kernel) fun hn =>
        Parts.mem_joins.2 (Or.inr (Or.inr (Or.inr (Or.inr ⟨hn, rfl⟩))))
  · exact a.usesOnly_onJoin hpost hcomment .commentLikes hcommentLikes hspeak.commentLikes
      (by decide +kernel) fun hn => Parts.mem_joins.2 (Or.inr (Or.inl ⟨hn, rfl⟩))
  · exact a.usesOnly_onPosts hpost hcomment hvisiblePosts hspeak.visiblePosts (by decide +kernel)
  · exact a.usesOnly_onPosts hpost hcomment hpostTextAuthors hspeak.postTextAuthors (by decide +kernel)
  · exact a.usesOnly_onComments hpost hcomment h hcommentTextAuthors hspeak.commentTextAuthors
      (by decide +kernel) fun h => h.commentTextAuthors
  · exact a.usesOnly_onPosts hpost hcomment hpostAuthors hspeak.postAuthors (by decide +kernel)
  · exact fun f hf => absurd hf List.not_mem_nil
  · intro f hf
    have hc : ["c"] ⊆ Selection.known a.parts.joins := List.cons_subset.2
      ⟨Parts.mem_known_comments (Option.isSome_iff_exists.2 ⟨f, hf⟩), List.nil_subset _⟩
    exact a.usesOnly_part hpost hcomment (hvisibleComments f hf) (hspeak.visibleComments f hf) hc
      (by decide +kernel)
  · exact a.usesOnly_postTexts hpost hcomment hanywhere
  · exact a.usesOnly_commentTexts hpost hcomment h hanywhere' fun h => h.anywhere
  · exact a.usesOnly_postTexts hpost hcomment hpostsOnly
  · exact a.usesOnly_commentTexts hpost hcomment h hcommentsOnly fun h => h.commentsOnly

end Assembly

/-! ### Joins -/

theorem usesOnly_attachments :
    UsesOnly ["p", "a"] "left join attachments a on a.post_id = p.uid" :=
  usesOnly_ofList (by decide)

theorem usesOnly_postCounters :
    UsesOnly ["p", "pc"] "join post_counters pc on pc.post_id = p.uid" :=
  usesOnly_ofList (by decide)

/-- A join of anything but comments uses posts, comments and the table that it joins. -/
theorem usesOnly_join {j : Join} (h : ∀ visible, j ≠ .comments visible) :
    UsesOnly ["p", "c", j.shortName] j.text := by
  have hlikes : UsesOnly ["p", "c", "cl"] "left join comment_likes cl on cl.comment_id = c.id" :=
    usesOnly_ofList (by decide)
  have hcounters : UsesOnly ["p", "c", "cc"] "join comment_counters cc on cc.comment_id = c.uid" :=
    usesOnly_ofList (by decide)
  have hpost : ∀ name, ["p", name] ⊆ ["p", "c", name] := by simp
  cases j with
  | comments visible => exact absurd rfl (h visible)
  | commentLikes => exact hlikes
  | attachments => exact usesOnly_attachments.mono (hpost "a")
  | postCounters => exact usesOnly_postCounters.mono (hpost "pc")
  | commentCounters => exact hcounters

theorem isNontrivial_all_nil :
    isNontrivial (Restriction.all [] : Restriction Placeholder).text = false := by
  rw [Restriction.text, Restriction.texts]
  decide_cbv

theorem Assembly.usesOnly_joins_of_comments (a : Assembly site options tokens compiled)
    (hpost : site.postRule = none) (hcomment : site.commentRule = none)
    {visible : Restriction Placeholder} (hv : a.parts.visibleComments = some visible) :
    EachAfter (fun before j => UsesOnly (Selection.known (before ++ [j])) j.text)
      a.parts.joins := by
  have hmem : visible ∈ a.parts.restrictions := by
    simp only [Parts.restrictions, hv, List.mem_append, Option.mem_toList, true_or, or_true]
  have hvisible : UsesOnly ["p", "u", "c"] visible.text := by
    refine a.usesOnly_text (a.sound_parts hpost hcomment _ hmem) List.mem_cons_self fun w hw => ?_
    have hwords : ∀ w ∈ commentVisibilityColumns "c", UsesOnly ["p", "u", "c"] w := by
      decide +kernel
    exact hwords w ((a.speak hpost hcomment).visibleComments visible hv hw)
  have hwords : UsesOnly ["p", "u", "c"] "left join comments c on c.post_id = p.uid and " :=
    usesOnly_ofList (by decide)
  have e : a.parts.joins = .comments visible :: (neededFor a.parts.commentLikes .commentLikes ++
      (neededFor a.parts.attachments .attachments ++
        (neededFor a.parts.postCounters .postCounters ++
          neededFor a.parts.commentCounters .commentCounters))) := by
    rw [Parts.joins, hv, List.append_assoc, List.append_assoc, List.append_assoc]
    rfl
  rw [e]
  refine eachAfter_cons (usesOnly_append (by decide_cbv) hwords hvisible)
    (eachAfter_of_forall fun before j hj => ?_)
  have hj' : ∀ visible, j ≠ .comments visible := by
    simp only [List.mem_append, mem_neededFor] at hj
    intro visible e
    rcases hj with ⟨-, rfl⟩ | ⟨-, rfl⟩ | ⟨-, rfl⟩ | ⟨-, rfl⟩ <;> cases e
  refine (usesOnly_join hj').mono ?_
  intro x hx
  simp only [List.mem_cons, List.not_mem_nil, or_false] at hx
  rcases hx with rfl | rfl | rfl
  · exact List.mem_append_left _ List.mem_cons_self
  · exact List.mem_append_right _ List.mem_cons_self
  · exact List.mem_append_right _ (List.mem_map_of_mem (List.mem_append_right _ List.mem_cons_self))

theorem Assembly.usesOnly_joins (a : Assembly site options tokens compiled)
    (hpost : site.postRule = none) (hcomment : site.commentRule = none) (h : a.parts.Settled) :
    EachAfter (fun before j => UsesOnly (Selection.known (before ++ [j])) j.text)
      a.parts.joins := by
  cases hv : a.parts.visibleComments with
  | some visible => exact a.usesOnly_joins_of_comments hpost hcomment hv
  | none =>
      obtain ⟨hfree, hcounters⟩ := h.resolve_left (by simp [hv])
      apply eachAfter_of_forall
      intro before j hj
      have hknown : ["p", j.shortName] ⊆ Selection.known (before ++ [j]) := by
        intro x hx
        simp only [List.mem_cons, List.not_mem_nil, or_false] at hx
        rcases hx with rfl | rfl
        · exact List.mem_append_left _ List.mem_cons_self
        · exact List.mem_append_right _
            (List.mem_map_of_mem (List.mem_append_right _ List.mem_cons_self))
      rcases Parts.mem_joins.1 hj with hj | ⟨hn, -⟩ | ⟨-, rfl⟩ | ⟨-, rfl⟩ | ⟨hn, -⟩
      · rw [hv] at hj
        cases hj
      · rw [hfree.commentLikes, isNontrivial_all_nil] at hn
        cases hn
      · exact usesOnly_attachments.mono hknown
      · exact usesOnly_postCounters.mono hknown
      · rw [hcounters, isNontrivial_all_nil] at hn
        cases hn

/-- If nothing else is in the way, a compiled statement introduces its aliases. -/
theorem Assembly.introduces (a : Assembly site options tokens compiled)
    (hpost : site.postRule = none) (hcomment : site.commentRule = none) (h : a.parts.Settled) :
    ∀ m ∈ unionMembers compiled.statement.text, Introduces m := by
  have hall : ∀ fs : List (Restriction Placeholder),
      (∀ f ∈ fs, UsesOnly (Selection.known a.parts.joins) f.text) →
      UsesOnly (Selection.known a.parts.joins) (Restriction.all fs).text := by
    intro fs hfs x hq hx
    rw [Restriction.text, Restriction.texts_eq] at hq
    obtain ⟨s, hs, hq⟩ := reading_qualifiers.mem_conjoin hq
    obtain ⟨f, hf, rfl⟩ := List.mem_map.1 hs
    exact hfs f hf x hq hx
  have hrestrictions := Parts.statement_induction hall (a.usesOnly_parts hpost hcomment h) a.sort
    (touches Scope.coversPosts a.named || !touches Scope.coversComments a.named)
  rw [← a.statement] at hrestrictions
  rw [Statement.unionMembers_text (a.inline hpost hcomment) a.selections_ne_nil]
  intro m hm
  obtain ⟨s, hs, rfl⟩ := List.mem_map.1 hm
  have hs' : ∀ f ∈ s.restrictions, UsesOnly (Selection.known a.parts.joins) f.text := fun f hf =>
    hrestrictions f (List.mem_cons_of_mem _ (List.mem_flatMap.2 ⟨s, hs, hf⟩))
  have hjoins : s.joins = a.parts.joins := by
    rw [a.statement] at hs
    rcases Parts.mem_selections.1 hs with ⟨-, rfl⟩ | ⟨-, rfl⟩ <;> rfl
  apply Selection.introduces_lines <;> rw [hjoins]
  · exact hs' _ List.mem_cons_self
  · exact hs' _ (List.mem_cons_of_mem _ List.mem_cons_self)
  · exact a.usesOnly_joins hpost hcomment h

/-! ### When comments are missing -/

/-- Counters of comments are joined to comments only. -/
theorem Parts.comments_of_introduces {p : Parts Placeholder} {sort : SortKey}
    {own : Restriction Placeholder} (h : Introduces (p.selection sort own).lines)
    (hc : isNontrivial p.commentCounters.text = true) : p.visibleComments.isSome = true := by
  have hj : Join.commentCounters ∈ p.joins :=
    Parts.mem_joins.2 (Or.inr (Or.inr (Or.inr (Or.inr ⟨hc, rfl⟩))))
  have hline : Join.commentCounters.text ∈ (p.selection sort own).lines :=
    List.mem_append_left _ (List.mem_append_right _ (List.mem_map_of_mem hj))
  have hq : "c" ∈ qualifiers "join comment_counters cc on cc.comment_id = c.uid".toList := by
    rw [String.toList_ofList]
    decide
  have hknown := h.used _ hline "c" hq (by decide)
  rw [Selection.introducedBy_lines] at hknown
  rcases List.mem_append.1 hknown with hknown | hknown
  · exact absurd hknown (by decide)
  · obtain ⟨j, hj, e⟩ := List.mem_map.1 hknown
    rcases Parts.mem_joins.1 hj with hj | ⟨-, rfl⟩ | ⟨-, rfl⟩ | ⟨-, rfl⟩ | ⟨-, rfl⟩
    · obtain ⟨visible, hv, -⟩ := Option.map_eq_some_iff.1 hj
      rw [hv]
      rfl
    all_goals exact absurd e (by decide)

theorem Assembly.introduces_iff_named (a : Assembly site options tokens compiled)
    (hpost : site.postRule = none) (hcomment : site.commentRule = none)
    (hb : AllBounded (conditionsOf .commentLikeCount a.named)) :
    (∀ m ∈ unionMembers compiled.statement.text, Introduces m) ↔
      (conditionsOf .commentLikeCount a.named ≠ [] →
        touches Scope.coversComments a.named = true) := by
  have hbuilt := clauses_ok a.building
  have hmap : a.parts.commentCounters.map compiled.params.value? =
      a.clauses.commentCounters.map some := congrArg Parts.commentCounters a.bound.values
  constructor
  · intro h hne
    have hsolid : a.parts.commentCounters.isSolid = true := by
      rw [← Restriction.isSolid_map compiled.params.value?, hmap, Restriction.isSolid_map]
      exact isSolid_counters hbuilt.commentCounters hne hb
    obtain ⟨s, hs⟩ := List.exists_mem_of_ne_nil _ a.selections_ne_nil
    have hm : Introduces s.lines := by
      refine h _ ?_
      rw [Statement.unionMembers_text (a.inline hpost hcomment) a.selections_ne_nil]
      exact List.mem_map_of_mem hs
    rw [← a.isSome_visibleComments]
    rw [a.statement] at hs
    have hcounters := Restriction.isNontrivial_text _ hsolid
    rcases Parts.mem_selections.1 hs with ⟨-, rfl⟩ | ⟨-, rfl⟩
    · exact Parts.comments_of_introduces hm hcounters
    · exact Parts.comments_of_introduces hm hcounters
  · intro h
    refine a.introduces hpost hcomment ?_
    rw [Parts.Settled, a.isSome_visibleComments]
    cases ht : touches Scope.coversComments a.named with
    | true => exact Or.inl rfl
    | false =>
        rw [ht] at h
        have hnil : conditionsOf .commentLikeCount a.named = [] := by
          by_contra hne
          cases h hne
        refine Or.inr ⟨(plainParts_commentFree hbuilt ht).of_map_eq a.bound.values, ?_⟩
        rw [counters_nil hbuilt.commentCounters hnil] at hmap
        exact eq_all_nil_of_map_eq hmap

/-- The same for the query as it was written. -/
theorem Assembly.introduces_iff (a : Assembly site options tokens compiled)
    (hpost : site.postRule = none) (hcomment : site.commentRule = none)
    (hb : AllBounded (conditionsOf .commentLikeCount tokens)) :
    (∀ m ∈ unionMembers compiled.statement.text, Introduces m) ↔
      (conditionsOf .commentLikeCount tokens ≠ [] →
        touches Scope.coversComments tokens = true) := by
  have hnamed := nameViewerIn_ok a.naming
  have hconditions : conditionsOf .commentLikeCount a.named =
      conditionsOf .commentLikeCount tokens := conditionsOf_named rfl hnamed
  rw [← hconditions, ← touches_named _ hnamed]
  exact a.introduces_iff_named hpost hcomment (hconditions ▸ hb)

/-- A compiled request introduces its aliases if and only if its query has no condition on the likes
of comments or some token on comments. -/
theorem compileRequest_introduces_iff {d : Defaults} {r : Request} (hpost : site.postRule = none)
    (hcomment : site.commentRule = none) (h : (compileRequest site d r).result = .ok compiled) :
    ∃ tokens, parseWith r.query d.minStem = .ok tokens ∧
      ((∀ m ∈ unionMembers compiled.statement.text, Introduces m) ↔
        (conditionsOf .commentLikeCount tokens ≠ [] →
          touches Scope.coversComments tokens = true)) := by
  obtain ⟨tokens, htokens, h⟩ := compileRequest_ok h
  obtain ⟨o, -, ⟨a⟩⟩ := Choices.compile_ok h
  exact ⟨tokens, htokens,
    a.introduces_iff hpost hcomment fun c hc => parseWith_bounds htokens hc⟩

theorem introduces_of_commentLikes : ∃ compiled,
    (compileRequest Site.small Defaults.standard
      ⟨"cat clikes:>1", none, .null, .number 0, .null, .null⟩).result = .ok compiled ∧
    ∀ m ∈ unionMembers compiled.statement.text, Introduces m := by
  obtain ⟨compiled, h⟩ := exists_eq_ok (x := (compileRequest Site.small Defaults.standard
    ⟨"cat clikes:>1", none, .null, .number 0, .null, .null⟩).result) (by decide +kernel)
  have htokens : parseWith "cat clikes:>1" (.number 2) = .ok [.scopeStart .comments,
      .sequence [[⟨false, false, "cat"⟩]], .condition ⟨false, .commentLikeCount, ["2", ""]⟩] := by
    decide +kernel
  obtain ⟨tokens, ht, hiff⟩ := compileRequest_introduces_iff rfl rfl h
  obtain rfl := Except.ok.inj (htokens.symm.trans ht)
  exact ⟨compiled, h, hiff.2 fun _ => rfl⟩

/-- Only the first condition on the likes of comments is dropped where posts are in scope, so the
second one is on comments that are not joined. -/
theorem not_introduces_of_repeated : ∃ compiled,
    (compileRequest Site.small Defaults.standard
      ⟨"in-body: clikes:1 clikes:2", none, .null, .number 0, .null, .null⟩).result =
        .ok compiled ∧
    ¬ ∀ m ∈ unionMembers compiled.statement.text, Introduces m := by
  obtain ⟨compiled, h⟩ := exists_eq_ok (x := (compileRequest Site.small Defaults.standard
    ⟨"in-body: clikes:1 clikes:2", none, .null, .number 0, .null, .null⟩).result)
    (by decide +kernel)
  have htokens : parseWith "in-body: clikes:1 clikes:2" (.number 2) = .ok [.scopeStart .posts,
      .condition ⟨false, .commentLikeCount, ["2", "2"]⟩] := by
    decide +kernel
  obtain ⟨tokens, ht, hc⟩ := compileRequest_ok h
  obtain rfl := Except.ok.inj (htokens.symm.trans ht)
  obtain ⟨o, -, ⟨a⟩⟩ := Choices.compile_ok hc
  have hiff := a.introduces_iff rfl rfl fun c hc => parseWith_bounds htokens hc
  exact ⟨compiled, h, fun hm => absurd (hiff.1 hm (by decide)) (by decide)⟩

end PostSearch.Search
