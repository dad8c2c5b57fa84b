import PostSearch.Proofs.Query.Walk
import PostSearch.Proofs.Search.OwnFeeds
import PostSearch.Proofs.Search.Texts

/-! # Bound values are paid for

How many values a statement is run with is bounded by the cost of its query. Every binding program
has a price: `AddsAtMost n m` says that `m` binds at most `n` values, where the text search
configuration, which is bound on first use, is paid for in advance (`Params.size`). Prices add up
(`AddsAtMost.bind`), and those of the clauses are counted in the tokens that they are built from.

Main statement: `compile_size`. A date without a scope is the dearest token, with two bounds in
either selection; viewer, authors, likes and the page have a price that does not depend on the
query. -/

namespace PostSearch

namespace Sql

variable {α β : Type}

/-! ### Prices -/

/-- The values that are bound, the text search configuration counting even before it is. -/
def Params.size (ps : Params) : Nat :=
  ps.values.length + if ps.config.isSome then 0 else 1

/-- The program binds at most `n` values. -/
def AddsAtMost (n : Nat) (m : StateM Params α) : Prop :=
  ∀ ps, (m ps).2.size ≤ ps.size + n

theorem AddsAtMost.pure (a : α) : AddsAtMost 0 (Pure.pure a : StateM Params α) :=
  fun _ => Nat.le_refl _

theorem AddsAtMost.bind {n k : Nat} {m : StateM Params α} {f : α → StateM Params β}
    (hm : AddsAtMost n m) (hf : ∀ a, AddsAtMost k (f a)) : AddsAtMost (n + k) (m >>= f) := by
  intro ps
  have h₁ := hm ps
  have h₂ := hf (m ps).1 (m ps).2
  show (f (m ps).1 (m ps).2).2.size ≤ _
  omega

theorem AddsAtMost.mono {n k : Nat} {m : StateM Params α} (h : AddsAtMost n m) (hle : n ≤ k) :
    AddsAtMost k m :=
  fun ps => (h ps).trans (Nat.add_le_add_left hle _)

theorem AddsAtMost.map {n : Nat} {m : StateM Params α} (h : AddsAtMost n m) (f : α → β) :
    AddsAtMost n (m >>= fun a => Pure.pure (f a)) :=
  h.bind fun a => AddsAtMost.pure (f a)

theorem addsAtMost_bind (v : Datum) : AddsAtMost 1 (Params.bind v) := by
  intro ps
  show (ps.values ++ [v]).length + (if ps.config.isSome then 0 else 1) ≤ _
  rw [List.length_append, List.length_singleton]
  unfold Params.size
  omega

theorem addsAtMost_bindConfig (config : Datum) : AddsAtMost 0 (Params.bindConfig config) := by
  intro ps
  unfold Params.bindConfig
  cases h : ps.config with
  | some p => exact Nat.le_refl _
  | none => simp [Params.bind, Params.size, h]

theorem addsAtMost_bindOption (v : Option Datum) : AddsAtMost 1 (Params.bindOption v) := by
  cases v with
  | none => exact (AddsAtMost.pure none).mono (Nat.zero_le 1)
  | some v => exact (addsAtMost_bind v).map some

/-! ### Text queries and restrictions -/

namespace TextQuery

mutual

theorem length_values_le {ν : Type} : ∀ q : TextQuery ν, q.values.length ≤ q.operands.length
  | .term _ _ _ _ => Nat.le_succ 1
  | .joined _ parts => length_valuesAll_le parts

theorem length_valuesAll_le {ν : Type} : ∀ qs : List (TextQuery ν),
    (valuesAll qs).length ≤ (operandsAll qs).length
  | [] => Nat.le_refl 0
  | q :: qs => by
      have hq := length_values_le q
      have hqs := length_valuesAll_le qs
      rw [valuesAll, operandsAll, List.length_append, List.length_append]
      omega

end

mutual

/-- A text query costs its texts. -/
theorem addsAtMost_textQuery : ∀ q : TextQuery Datum, AddsAtMost q.values.length q.bind
  | .term config _ _ value =>
      ((addsAtMost_bindConfig config).bind fun _ => (addsAtMost_bind value).map _).mono
        (Nat.le_of_eq (Nat.zero_add 1))
  | .joined joint parts => (addsAtMost_textQueries parts).map (TextQuery.joined joint)

theorem addsAtMost_textQueries : ∀ qs : List (TextQuery Datum),
    AddsAtMost (valuesAll qs).length (bindAll qs)
  | [] => AddsAtMost.pure []
  | q :: qs => by
      rw [valuesAll, List.length_append]
      exact (addsAtMost_textQuery q).bind fun _ => (addsAtMost_textQueries qs).map _

end

end TextQuery

/-- The texts of a scope cost one each. -/
theorem addsAtMost_scopeQuery (config : Datum) (tokens : List Query.Token) (scope : Query.Scope) :
    AddsAtMost (Query.textsIn scope tokens).length (scopeQuery config tokens scope) := by
  have hvalues := congrArg List.length (values_plainScopeQuery config tokens scope)
  rw [List.length_map] at hvalues
  rw [← hvalues]
  unfold scopeQuery
  cases plainScopeQuery? config tokens scope with
  | none => exact AddsAtMost.pure none
  | some q =>
      rw [Option.toList_some, List.flatMap_singleton]
      exact q.addsAtMost_textQuery.map some

theorem addsAtMost_atom (a : Atom Datum) : AddsAtMost a.operands.length a.bind := by
  cases a with
  | verbatim | flag | isNull | notNull => exact AddsAtMost.pure _
  | between column lower upper =>
      exact (addsAtMost_bind lower).bind fun _ => (addsAtMost_bind upper).map _
  | matchesText column query =>
      exact (query.addsAtMost_textQuery.map _).mono query.length_values_le
  | _ => exact (addsAtMost_bind _).map _

namespace Restriction

mutual

theorem addsAtMost_restriction : ∀ f : Restriction Datum, AddsAtMost f.operands.length f.bind
  | .const b => AddsAtMost.pure _
  | .atom a => by
      rw [operands, atoms, List.flatMap_singleton]
      exact (addsAtMost_atom a).map _
  | .not f => (addsAtMost_restriction f).map Restriction.not
  | .someRow f => (addsAtMost_restriction f).map Restriction.someRow
  | .all fs => by
      rw [operands_all]
      exact (addsAtMost_restrictions fs).map _
  | .any fs => by
      rw [operands_any]
      exact (addsAtMost_restrictions fs).map _

theorem addsAtMost_restrictions : ∀ fs : List (Restriction Datum),
    AddsAtMost (fs.flatMap operands).length (bindAll fs)
  | [] => AddsAtMost.pure []
  | f :: fs => by
      rw [List.flatMap_cons, List.length_append]
      exact (addsAtMost_restriction f).bind fun _ => (addsAtMost_restrictions fs).map _

end

end Restriction

end Sql

namespace Clause

open Query Sql

variable {c : Condition} {f : Restriction Datum}

/-! ### Operands of clauses -/

theorem length_flatMap_le {α β : Type} (xs : List α) {f : α → List β} {n : Nat}
    (h : ∀ x ∈ xs, (f x).length ≤ n) : (xs.flatMap f).length ≤ n * xs.length := by
  induction xs with
  | nil => exact Nat.zero_le _
  | cons x xs ih =>
      have hx := h x List.mem_cons_self
      have hxs := ih fun y hy => h y (List.mem_cons_of_mem _ hy)
      rw [List.flatMap_cons, List.length_append, List.length_cons, Nat.mul_succ]
      omega

theorem length_distinct_le {α : Type} [DecidableEq α] (xs : List α) :
    (distinct xs).length ≤ xs.length := by
  induction xs with
  | nil => exact Nat.le_refl 0
  | cons x xs ih =>
      rw [distinct, List.length_cons, List.length_cons]
      exact Nat.succ_le_succ ((List.length_filter_le _ _).trans ih)

theorem operands_overlap_le (column : String) (numbers : List Int) (inclusive : Bool) :
    (Restriction.overlap column numbers inclusive).operands.length ≤ 1 := by
  unfold Restriction.overlap
  split
  · exact Nat.zero_le 1
  · split <;> exact Nat.le_refl 1

theorem operands_member_le (column : String) (items : List Scalar) (inclusive : Bool)
    (type : String) : (Restriction.member column items inclusive type).operands.length ≤ 1 := by
  unfold Restriction.member
  split
  · exact Nat.zero_le 1
  · split <;> exact Nat.le_refl 1

theorem operands_signed (c : Condition) (f : Restriction Datum) :
    (signed c f).operands = f.operands := by
  unfold signed
  split <;> rfl

theorem operands_dayBound_le (column : String) (relation : Relation) (bound : String) :
    ((dayBound column relation bound).flatMap Restriction.operands).length ≤ 1 := by
  unfold dayBound
  split
  · exact Nat.zero_le 1
  · exact Nat.le_refl 1

theorem operands_dayRestriction_le {column : String} (h : dayRestriction column c = .ok f) :
    f.operands.length ≤ 2 := by
  obtain ⟨⟨lower, upper⟩, -, h⟩ := bind_eq_ok.1 h
  cases h
  have hlower := operands_dayBound_le column .atLeast lower
  have hupper := operands_dayBound_le column .below upper
  rw [operands_signed, Restriction.operands_all, List.flatMap_append, List.length_append]
  omega

theorem operands_countsRestriction_le (column : String) (i : Interval Int) :
    (countsRestriction column i).operands.length ≤ 2 := by
  unfold countsRestriction
  dsimp only
  split
  · exact Nat.le_refl 2
  · exact Nat.le_succ 1
  · exact Nat.le_succ 1
  · exact Nat.zero_le 2

theorem operands_countRestriction_le {column : String} (h : countRestriction column c = .ok f) :
    f.operands.length ≤ 2 := by
  obtain ⟨⟨lower, upper⟩, -, h⟩ := bind_eq_ok.1 h
  obtain ⟨m, -, h⟩ := bind_eq_ok.1 h
  obtain ⟨n, -, h⟩ := bind_eq_ok.1 h
  cases h
  rw [operands_signed]
  exact operands_countsRestriction_le column ⟨m, n⟩

/-- Conditions on intervals have two bounds each. -/
theorem operands_conditions_le {build : Condition → Except IntervalError (Restriction Datum)}
    (hbuild : ∀ {c f}, build c = .ok f → f.operands.length ≤ 2) {cs : List Condition}
    (h : (do return Restriction.all (← cs.mapM build)) = .ok f) :
    f.operands.length ≤ 2 * cs.length := by
  obtain ⟨fs, hfs, h⟩ := bind_eq_ok.1 h
  cases h
  have hbuilt := mapM_eq_ok hfs
  rw [Restriction.operands_all, hbuilt.length_eq]
  refine length_flatMap_le _ fun f hf => ?_
  obtain ⟨c, -, hc⟩ := exists_of_mem_right hbuilt hf
  exact hbuild hc

theorem operands_bothParts_le {build : List String → Restriction Datum}
    {asked excluded : Option (List String)} {m n : Nat}
    (hm : ∀ args ∈ asked, (build args).operands.length ≤ m)
    (hn : ∀ args ∈ excluded, (build args).operands.length ≤ n) :
    (bothParts build asked excluded).operands.length ≤ m + n := by
  unfold bothParts
  rw [Restriction.operands_all, List.flatMap_append, List.length_append]
  refine Nat.add_le_add ?_ ?_
  · cases asked with
    | none => exact Nat.zero_le m
    | some args =>
        rw [Option.map_some, Option.toList_some, List.flatMap_singleton]
        exact hm args rfl
  · cases excluded with
    | none => exact Nat.zero_le n
    | some args =>
        rw [Option.map_some, Option.toList_some, List.flatMap_singleton]
        exact hn args rfl

theorem operands_privacy (tokens : List Token) (table : String) :
    (privacy tokens table).operands.length ≤ 0 := by
  have hword : ∀ word, (privacyWord table word).operands = [] := by
    intro word
    unfold privacyWord
    split
    · rfl
    · split <;> rfl
  have hwords : ∀ args : List String,
      (Restriction.any (args.map (privacyWord table))).operands.length ≤ 0 := by
    intro args
    rw [Restriction.operands_any, List.flatMap_map]
    have hle := length_flatMap_le args (n := 0) fun word _ =>
      Nat.le_of_eq (congrArg List.length (hword word))
    rwa [Nat.zero_mul] at hle
  exact operands_bothParts_le (fun args _ => hwords args) (fun args _ => hwords args)

theorem operands_hasAnyType_le (table : String) (types : List String) :
    (hasAnyType table types).operands.length ≤ types.length := by
  have htype : ∀ type, (hasType table type).operands.length = 1 := by
    intro type
    unfold hasType
    dsimp only
    split <;> rfl
  unfold hasAnyType
  split
  · exact Nat.zero_le _
  · show ((Restriction.any (types.map (hasType table))).operands).length ≤ _
    rw [Restriction.operands_any, List.flatMap_map]
    have hle := length_flatMap_le types (n := 1) fun type _ => Nat.le_of_eq (htype type)
    rwa [Nat.one_mul] at hle

/-- The arguments of conditions are asked for or excluded. -/
theorem length_args (cs : List Condition) :
    ((cs.filter (·.excluded == false)).flatMap Condition.args).length +
      ((cs.filter (·.excluded == true)).flatMap Condition.args).length =
    (cs.flatMap Condition.args).length := by
  induction cs with
  | nil => rfl
  | cons c cs ih =>
      cases hc : c.excluded with
      | false =>
          rw [List.filter_cons_of_pos (by simp [hc]), List.filter_cons_of_neg (by simp [hc])]
          simp only [List.flatMap_cons, List.length_append]
          omega
      | true =>
          rw [List.filter_cons_of_neg (by simp [hc]), List.filter_cons_of_pos (by simp [hc])]
          simp only [List.flatMap_cons, List.length_append]
          omega

/-- A file type stands for three kinds at most. -/
theorem operands_attachments_le (tokens : List Token) (table : String) :
    (attachments tokens table).operands.length ≤
      3 * ((conditionsOf .attachment tokens).flatMap Condition.args).length := by
  have hfile : ∀ type, (spellOutFile type).length ≤ 3 := by
    intro type
    unfold spellOutFile
    split
    · exact Nat.le_refl 3
    · exact Nat.le_add_left 1 2
  have htypes : ∀ (b : Bool) (cs : List Condition),
      ∀ types ∈ (argsWhere b cs).map fun args => distinct (args.flatMap spellOutFile),
      (hasAnyType table types).operands.length ≤
        3 * ((cs.filter (·.excluded == b)).flatMap Condition.args).length := by
    intro b cs types htypes
    obtain ⟨args, hargs, rfl⟩ := Option.mem_map.1 htypes
    have hwritten : args.length ≤
        ((cs.filter (·.excluded == b)).flatMap Condition.args).length := by
      unfold argsWhere at hargs
      split at hargs
      · cases hargs
      · cases hargs
        exact length_distinct_le _
    have hspelled := length_flatMap_le args fun type _ => hfile type
    have hdistinct := length_distinct_le (args.flatMap spellOutFile)
    have hany := operands_hasAnyType_le table (distinct (args.flatMap spellOutFile))
    omega
  have hboth := operands_bothParts_le (htypes false (conditionsOf .attachment tokens))
    (htypes true (conditionsOf .attachment tokens))
  rw [← Nat.mul_add, length_args] at hboth
  exact hboth

theorem operands_commentLikes_le (tokens : List Token) (column : String) (accounts : Accounts) :
    (commentLikes tokens column accounts).operands.length ≤ 2 := by
  have hliked : ∀ names, (likedByAny column accounts names).operands.length ≤ 1 := by
    intro names
    unfold likedByAny
    split
    · exact Nat.zero_le 1
    · exact Nat.le_refl 1
  exact operands_bothParts_le (fun names _ => hliked names) (fun names _ => hliked names)

theorem operands_feedRestriction_le (viewer : Option String) (c : Condition)
    (feeds : OpenList Int) : (feedRestriction viewer c feeds).operands.length ≤ 2 := by
  have hfeeds := operands_overlap_le "p.feed_ids" feeds.items feeds.inclusive
  unfold feedRestriction
  dsimp only
  split
  · split
    · rw [Restriction.operands_any, List.flatMap_cons, List.length_append]
      exact Nat.add_le_add hfeeds (Nat.le_refl 1)
    · omega
  · omega

end Clause

namespace Query

/-! ### What tokens pay for -/

/-- Every condition of an operator is in one scope. -/
theorem length_conditionsOf_inScope (o : Operator) (tokens : List Token) :
    (conditionsOf o (inScope .all tokens)).length + (conditionsOf o (inScope .posts tokens)).length +
      (conditionsOf o (inScope .comments tokens)).length = (conditionsOf o tokens).length := by
  have hperm := (flatMap_inScope_perm (f := fun t => conditionsOf o [t]) (fun _ => rfl)
    tokens).length_eq
  have hparts : ∀ ts : List Token, conditionsOf o ts = ts.flatMap fun t => conditionsOf o [t] := by
    intro ts
    induction ts with
    | nil => rfl
    | cons t ts ih =>
        rw [List.flatMap_cons, ← ih]
        exact List.filterMap_append (l := [t])
  rw [List.length_append, List.length_append] at hperm
  rwa [← hparts, ← hparts, ← hparts, ← hparts] at hperm

end Query

namespace Search

open Query Sql Clause

variable {site : Site} {options : Options} {tokens named : List Token} {compiled : Compiled}
  {accounts : Accounts} {sets : List (Condition × OpenList Int)} {c : Clauses}

/-- Most values that are bound for the tokens of a query, kind by kind. -/
def bindings (tokens : List Token) : Nat :=
  (tokens.flatMap Token.texts).length +
    2 * (feedConditions tokens).length +
    4 * (conditionsOf .contentDate tokens).length +
    2 * (conditionsOf .postDate tokens).length +
    3 * ((conditionsOf .attachment tokens).flatMap Condition.args).length +
    2 * (conditionsOf .commentCount tokens).length +
    2 * (conditionsOf .likeCount tokens).length +
    2 * (conditionsOf .commentLikeCount tokens).length

theorem bindings_cons (t : Token) (ts : List Token) :
    bindings (t :: ts) = bindings [t] + bindings ts := by
  have hconditions : ∀ o, conditionsOf o (t :: ts) = conditionsOf o [t] ++ conditionsOf o ts :=
    fun o => List.filterMap_append (l := [t])
  have hfeeds : feedConditions (t :: ts) = feedConditions [t] ++ feedConditions ts :=
    List.filterMap_append (l := [t])
  unfold bindings
  rw [hfeeds, hconditions, hconditions, hconditions, hconditions, hconditions, hconditions]
  simp only [List.flatMap_cons, List.flatMap_nil, List.flatMap_append, List.length_append,
    List.append_nil]
  omega

/-- No token has more values bound than four times its cost. -/
theorem bindings_token (t : Token) : bindings [t] ≤ 4 * t.complexity := by
  unfold bindings feedConditions conditionsOf
  cases t with
  | condition c =>
      obtain ⟨excluded, o, args⟩ := c
      cases o <;> simp [Token.texts, Token.complexity, Condition.complexity, isFeedOperator,
        Operator.takesInterval] <;> omega
  | sequence gs | inScope s g =>
      simp [Token.texts, Token.complexity]
      omega
  | _ => simp [Token.texts]

theorem bindings_le (tokens : List Token) : bindings tokens ≤ 4 * complexity tokens := by
  induction tokens with
  | nil => exact Nat.le_refl 0
  | cons t ts ih =>
      have ht := bindings_token t
      rw [bindings_cons, complexity]
      omega

/-! ### What clauses cost -/

theorem operands_authorRestriction_le (column : String) (ids : OpenList String) :
    (authorRestriction column ids).operands.length ≤ 1 :=
  operands_member_le column _ _ "uuid"

/-- The clauses cost what their tokens pay for, and two values for likes. -/
structure Clauses.Costs (tokens : List Token) (c : Clauses) : Prop where
  feeds : c.feeds.operands.length ≤ 2 * (feedConditions tokens).length
  postDays : c.postDays.operands.length ≤ 2 * (conditionsOf .contentDate (inScope .all tokens)).length
  postOnlyDays : c.postOnlyDays.operands.length ≤
    2 * (conditionsOf .contentDate (inScope .posts tokens)).length
  commentDays : c.commentDays.operands.length ≤
    2 * (conditionsOf .contentDate (inScope .all tokens)).length
  commentOnlyDays : c.commentOnlyDays.operands.length ≤
    2 * (conditionsOf .contentDate (inScope .comments tokens)).length
  publishedDays : c.publishedDays.operands.length ≤ 2 * (conditionsOf .postDate tokens).length
  attachments : c.attachments.operands.length ≤
    3 * ((conditionsOf .attachment tokens).flatMap Condition.args).length
  privacy : c.privacy.operands.length ≤ 0
  postCounters : (Restriction.all c.postCounters).operands.length ≤
    2 * (conditionsOf .commentCount tokens).length + 2 * (conditionsOf .likeCount tokens).length
  commentCounters : c.commentCounters.operands.length ≤
    2 * (conditionsOf .commentLikeCount tokens).length
  commentLikes : c.commentLikes.operands.length ≤ 2

theorem Clauses.Built.costs (h : c.Built tokens accounts sets)
    (hsets : sets.length = (feedConditions tokens).length) : c.Costs tokens where
  feeds := by
    rw [h.feeds, Restriction.operands_all, List.flatMap_map, ← hsets]
    exact length_flatMap_le _ fun p _ => operands_feedRestriction_le _ p.1 p.2
  postDays := operands_conditions_le operands_dayRestriction_le h.postDays
  postOnlyDays := operands_conditions_le operands_dayRestriction_le h.postOnlyDays
  commentDays := operands_conditions_le operands_dayRestriction_le h.commentDays
  commentOnlyDays := operands_conditions_le operands_dayRestriction_le h.commentOnlyDays
  publishedDays := operands_conditions_le operands_dayRestriction_le h.publishedDays
  attachments := h.attachments ▸ operands_attachments_le tokens "a"
  privacy := h.privacy ▸ operands_privacy tokens "p"
  postCounters := by
    obtain ⟨comments, likes, hcomments, hlikes, e⟩ := h.postCounters
    have hcomments := operands_conditions_le operands_countRestriction_le hcomments
    have hlikes := operands_conditions_le operands_countRestriction_le hlikes
    rw [e, Restriction.operands_all, List.flatMap_cons, List.flatMap_singleton, List.length_append]
    omega
  commentCounters := operands_conditions_le operands_countRestriction_le h.commentCounters
  commentLikes := h.commentLikes ▸ operands_commentLikes_le tokens "cl.user_id" accounts

/-! ### Binding the parts -/

theorem addsAtMost_postVisibility (site : Site) (viewer : Option String) :
    AddsAtMost 1 (postVisibility site viewer) := by
  unfold postVisibility
  cases site.postRule with
  | some rule => exact (AddsAtMost.pure _).mono (Nat.zero_le 1)
  | none => exact (addsAtMost_bindOption _).map _

theorem addsAtMost_commentVisibility (site : Site) (options : Options) (tokens : List Token) :
    AddsAtMost 1 (commentVisibility? site options tokens) := by
  unfold commentVisibility? commentVisibility
  split
  · refine AddsAtMost.map ?_ some
    cases site.commentRule with
    | some rule => exact (AddsAtMost.pure _).mono (Nat.zero_le 1)
    | none => exact (addsAtMost_bindOption _).map _
  · exact (AddsAtMost.pure none).mono (Nat.zero_le 1)

theorem addsAtMost_of_le {f : Restriction Datum} {n : Nat} (h : f.operands.length ≤ n) :
    AddsAtMost n f.bind :=
  f.addsAtMost_restriction.mono h

theorem addsAtMost_both {f g : Restriction Datum} {m n : Nat} (hf : f.operands.length ≤ m)
    (hg : g.operands.length ≤ n) : AddsAtMost (m + n) (Restriction.all [f, g]).bind := by
  refine addsAtMost_of_le ?_
  rw [Restriction.operands_all, List.flatMap_cons, List.flatMap_singleton, List.length_append]
  exact Nat.add_le_add hf hg

theorem addsAtMost_bindParts (site : Site) (options : Options) (hc : c.Costs tokens) :
    AddsAtMost (bindings tokens + 11) (bindParts site options tokens c) := by
  have hauthors := operands_authorRestriction_le
  unfold bindParts
  refine AddsAtMost.mono (
    (addsAtMost_scopeQuery _ tokens .all).bind fun _ =>
    (addsAtMost_scopeQuery _ tokens .posts).bind fun _ =>
    (addsAtMost_scopeQuery _ tokens .comments).bind fun _ =>
    (addsAtMost_of_le hc.feeds).bind fun _ =>
    (addsAtMost_both hc.postDays hc.postOnlyDays).bind fun _ =>
    (addsAtMost_both hc.commentDays hc.commentOnlyDays).bind fun _ =>
    (addsAtMost_of_le hc.publishedDays).bind fun _ =>
    (addsAtMost_of_le hc.attachments).bind fun _ =>
    (addsAtMost_of_le hc.privacy).bind fun _ =>
    (addsAtMost_of_le hc.postCounters).bind fun _ =>
    (addsAtMost_of_le hc.commentCounters).bind fun _ =>
    (addsAtMost_of_le hc.commentLikes).bind fun _ =>
    (addsAtMost_postVisibility site _).bind fun _ =>
    (addsAtMost_commentVisibility site options tokens).bind fun _ =>
    (addsAtMost_both (hauthors _ _) (hauthors _ _)).bind fun _ =>
    (addsAtMost_both (hauthors _ _) (hauthors _ _)).bind fun _ =>
    (addsAtMost_of_le (hauthors _ _)).bind fun _ =>
    (addsAtMost_bind _).bind fun _ => (addsAtMost_bind _).map _) ?_
  have htexts := (textsByScope_perm tokens).length_eq
  rw [textsByScope, List.length_append, List.length_append] at htexts
  have hdates := length_conditionsOf_inScope .contentDate tokens
  unfold bindings
  omega

/-! ### Compiled statements -/

theorem complexity_named {viewer : Option Account} (h : nameViewerIn viewer tokens = .ok named) :
    complexity named = complexity tokens := by
  have hnamed := nameViewerIn_namedBy h
  clear h
  induction hnamed with
  | nil => rfl
  | cons ht _ ih =>
      rw [complexity, complexity, ih]
      congr 1
      cases ht with
      | condition hc =>
          rcases nameViewer_ok hc with rfl | ⟨-, rename, rfl⟩
          · rfl
          · simp only [Token.complexity, Condition.complexity, List.length_map]
      | other => rfl

theorem compile_ok_complexity (h : (compile site options tokens).result = .ok compiled) :
    compiled.complexity = complexity tokens := by
  unfold compile at h
  split at h
  · cases h
  · dsimp only at h
    split at h
    · cases h
    · obtain ⟨feeds, -, h⟩ := bind_eq_ok.1 h
      obtain ⟨clauses, -, h⟩ := bind_eq_ok.1 h
      cases h
      rfl

theorem complexity_le_of_check {key : SortKey} (h : check options tokens = .ok key) :
    complexity tokens ≤ options.maxComplexity := by
  unfold check at h
  split at h
  · cases h
  · rename_i hle
    exact not_lt.1 hle

theorem Assembly.length_values_le (a : Assembly site options tokens compiled)
    (hsets : a.feeds.length = (feedConditions a.named).length) :
    compiled.params.values.length ≤ 4 * complexity tokens + 12 := by
  have hcosts := (clauses_ok a.building).costs hsets
  have hparts := addsAtMost_bindParts site options hcosts (Params.empty Params.defaultStem)
  have hrun : bindParts site options a.named a.clauses (Params.empty Params.defaultStem) =
      (a.parts, compiled.params) := a.binding
  have hempty : (Params.empty Params.defaultStem).size = 1 := rfl
  have htokens := bindings_le a.named
  rw [complexity_named a.naming] at htokens
  rw [hrun, hempty] at hparts
  unfold Params.size at hparts
  dsimp only at hparts
  omega

/-- A statement is run with at most four values for every unit that its query costs, and twelve
more; what may be compiled at all bounds their number. -/
theorem compile_size (h : (compile site options tokens).result = .ok compiled) :
    compiled.complexity = complexity tokens ∧
    compiled.params.values.length ≤ 4 * compiled.complexity + 12 ∧
    (compiled.params.values.length : Int) ≤ 4 * options.maxComplexity + 12 := by
  obtain ⟨a, hfeeds⟩ := compile_ok_feeds h
  have hcomplexity := compile_ok_complexity h
  have hsize := a.length_values_le (feedSets_ok hfeeds).length_eq.symm
  have hlimit := complexity_le_of_check a.checked
  refine ⟨hcomplexity, ?_, ?_⟩
  · rw [hcomplexity]
    exact hsize
  · omega

theorem size_of_search : ∃ compiled,
    (compile Site.small asFirst [.condition ⟨false, .contentDate, ["2024-01-01", "2024-02-01"]⟩,
      .condition ⟨false, .inMy, ["discussions"]⟩, .condition ⟨true, .postBy, ["bob"]⟩]).result =
        .ok compiled ∧
    compiled.params.values.length ≤ 4 * 3 + 12 := by
  obtain ⟨compiled, h⟩ := exists_eq_ok (x := (compile Site.small asFirst
    [.condition ⟨false, .contentDate, ["2024-01-01", "2024-02-01"]⟩,
      .condition ⟨false, .inMy, ["discussions"]⟩, .condition ⟨true, .postBy, ["bob"]⟩]).result)
    (by decide +kernel)
  obtain ⟨hcomplexity, hsize, -⟩ := compile_size h
  refine ⟨compiled, h, hsize.trans ?_⟩
  rw [hcomplexity]
  decide

end Search

end PostSearch
